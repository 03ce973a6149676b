import SceneDescription.Proofs.Readers.Traces
import SceneDescription.Proofs.Tokens.Lexemes

/-!
# Failures of readers

A reader that fails reports a finding on a known line (`definiteAt_readDirective`).  There is one exception: an option
whose text ends behind the keyword has no parameter, and the report of that has no line
(`readDirective_option_of_ended`).
-/

namespace SceneDescription

namespace Read

variable {α β : Type}

/-- In front of a sound cursor, a reader leaves one behind, or fails with a definite report. -/
def DefiniteAt (m : Read α) (c : Cursor) : Prop :=
  match m c with
  | .ok _ c' => c'.Sound
  | .error r _ => r.Definite

/-- The same for all sound cursors. -/
def Definite (m : Read α) : Prop :=
  ∀ c, c.Sound → m.DefiniteAt c

private theorem DefiniteAt.sound {m : Read α} {c c' : Cursor} {a : α} (hm : m.DefiniteAt c) (h : m c = .ok a c') :
    c'.Sound := by
  rwa [DefiniteAt, h] at hm

theorem DefiniteAt.definite {m : Read α} {c c' : Cursor} {r : Report Fault} (hm : m.DefiniteAt c)
    (h : m c = .error r c') : r.Definite := by
  rwa [DefiniteAt, h] at hm

private theorem definite_pure (a : α) : (pure a : Read α).Definite :=
  fun _ hc => hc

private theorem definite_fail {f : Fault} (hf : f.isFinding) (line : Nat) : (fail f line : Read α).Definite :=
  fun _ _ => ⟨rfl, hf⟩

private theorem definite_ofExcept {e : Except (Report Fault) α} (h : ∀ r, e = .error r → r.Definite) :
    (ofExcept e).Definite := by
  intro c hc
  cases e with
  | ok a => exact hc
  | error r => exact h r rfl

private theorem DefiniteAt.bind {m : Read α} {f : α → Read β} {c : Cursor} (hm : m.DefiniteAt c)
    (hf : ∀ a c', m c = .ok a c' → (f a).DefiniteAt c') : (m >>= f).DefiniteAt c := by
  rw [DefiniteAt, bind_apply]
  cases h : m c with
  | ok a c' => exact hf a c' h
  | error r c' => exact hm.definite h

private theorem Definite.bind {m : Read α} {f : α → Read β} (hm : m.Definite) (hf : ∀ a, (f a).Definite) :
    (m >>= f).Definite :=
  fun c hc => (hm c hc).bind fun a c' h => hf a c' ((hm c hc).sound h)

private theorem Definite.map {m : Read α} (hm : m.Definite) (f : α → β) : (f <$> m).Definite :=
  hm.bind fun a => definite_pure (f a)

theorem definite_take : take.Definite := by
  rintro ⟨_ | ⟨_ | _, rest⟩, stuck, lastLine⟩ ⟨hitems, hstuck⟩
  · cases stuck with
    | none => exact ⟨hitems, hstuck⟩
    | some r => exact hstuck r rfl
  · exact ⟨(List.forall_mem_cons.1 hitems).2, hstuck⟩
  · exact (List.forall_mem_cons.1 hitems).1

private theorem definite_peek : peek.Definite := by
  rintro ⟨_ | ⟨_ | _, rest⟩, stuck, lastLine⟩ ⟨hitems, hstuck⟩
  · cases stuck with
    | none => exact ⟨hitems, hstuck⟩
    | some r => exact hstuck r rfl
  · exact ⟨hitems, hstuck⟩
  · exact (List.forall_mem_cons.1 hitems).1

/-- What has been seen is still there. -/
private theorem take_ne_none_of_peek {c c₁ : Cursor} {t : Token} (h : peek c = .ok (some t) c₁) (c' : Cursor) :
    take c₁ ≠ .ok none c' := by
  obtain ⟨rfl, hhead⟩ := peek_eq_head h
  obtain ⟨_ | ⟨_ | _, rest⟩, stuck, line⟩ := c₁
  · cases hhead
  · rintro ⟨⟩
  · cases hhead

end Read

/-! ### Parameters -/

private theorem Report.OnLineOf.definite {r : Report Fault} {heading : Token} {tokens : List Token}
    (h : r.OnLineOf heading tokens) : r.Definite := by
  obtain ⟨f, hf, t, _, rfl⟩ := h
  exact ⟨rfl, hf⟩

private theorem definite_readBracketed (heading : Token) (taken : List Token) :
    (readBracketed heading taken).Definite := by
  intro c hc
  have htake := Read.definite_take c hc
  unfold Read.DefiniteAt at htake ⊢
  fun_induction readBracketed heading taken c with
  | case1 taken c r c₁ h => simpa [h] using htake
  | case2 taken c c₁ h => exact ⟨rfl, rfl⟩
  | case3 taken c t c₁ h _ => simpa [h] using htake
  | case4 taken c t c₁ h _ _ ih =>
    have hc₁ : c₁.Sound := by simpa [h] using htake
    exact ih hc₁ (Read.definite_take c₁ hc₁)
  | case5 taken c t c₁ h _ _ => exact ⟨rfl, rfl⟩

private theorem definite_readValueTokens (heading : Token) : (readValueTokens heading).Definite := by
  refine Read.definite_take.bind fun t => ?_
  cases t with
  | none => exact Read.definite_fail rfl _
  | some t =>
    dsimp only
    split
    · exact Read.definite_fail rfl _
    · exact definite_readBracketed _ _
    · exact Read.definite_pure _

private theorem definite_readDeclared (heading : Token) : (readDeclared heading).Definite := by
  unfold readDeclared
  split
  · split
    · exact Read.definite_fail rfl _
    · exact (definite_readValueTokens heading).bind fun _ =>
        (Read.definite_ofExcept fun _ h => (decodeValue_onLineOf h).definite).bind fun _ => Read.definite_pure _
  · exact Read.definite_fail rfl _

/-- A parameter that is missing at the end of its text is the one thing that is reported without a line. -/
private theorem definiteAt_readParameter {c : Cursor} (hc : c.Sound) (hmore : ∀ c', Read.take c ≠ .ok none c') :
    readParameter.DefiniteAt c := by
  refine (Read.definite_take c hc).bind fun t c₁ htake => ?_
  have hc₁ := (Read.definite_take c hc).sound htake
  split
  · exact definite_readDeclared _ c₁ hc₁
  · exact Read.definite_fail rfl _ c₁ hc₁
  · exact absurd htake (hmore c₁)

private theorem definite_readParameters : readParameters.Definite := by
  suffices h : ∀ found, (readParametersOnto found).Definite from h []
  intro found c hc
  unfold Read.DefiniteAt
  fun_induction readParametersOnto found c with
  | case1 found c r c₁ hpeek => exact (Read.definite_peek c hc).definite hpeek
  | case2 found c c₁ hpeek => exact (Read.definite_peek c hc).sound hpeek
  | case3 found c t c₁ hpeek _ _ r c₂ hparameter =>
    have hc₁ := (Read.definite_peek c hc).sound hpeek
    exact (definiteAt_readParameter hc₁ (Read.take_ne_none_of_peek hpeek)).definite hparameter
  | case4 found c t c₁ hpeek _ _ p c₂ hparameter ih =>
    have hc₁ := (Read.definite_peek c hc).sound hpeek
    exact ih ((definiteAt_readParameter hc₁ (Read.take_ne_none_of_peek hpeek)).sound hparameter)
  | case5 found c t c₁ hpeek _ => exact (Read.definite_peek c hc).sound hpeek

/-! ### Directives -/

/-- What is wrong with an option is a finding. -/
private theorem RenderSetting.isFinding_of_ofParameter {p : Parameter} {f : Fault} (h : ofParameter p = .error f) :
    f.isFinding := by
  unfold ofParameter at h
  split at h
  · cases h
    rfl
  split at h
  case h_5 =>
    split at h
    · cases h
    · cases h
      rfl
  case h_6 =>
    cases h
    rfl
  all_goals cases h

namespace Heading

variable (h : Heading)

private theorem definite_fail {α : Type} {f : Fault} (hf : f.isFinding) : (h.fail f : Read α).Definite :=
  Read.definite_fail hf _

private theorem definite_operand {α : Type} (expected : Expected) (accept : Lexeme → Option α) :
    (h.operand expected accept).Definite := by
  refine Read.definite_take.bind fun t => ?_
  split
  · exact h.definite_fail rfl
  · split
    · exact Read.definite_pure _
    · exact Read.definite_fail rfl _

private theorem definite_quoted : h.quoted.Definite := h.definite_operand _ _

private theorem definite_number : h.number.Definite := h.definite_operand _ _

private theorem definite_vec3 : h.vec3.Definite :=
  h.definite_number.bind fun _ => h.definite_number.bind fun _ => h.definite_number.bind fun _ =>
    Read.definite_pure _

private theorem definite_vec4 : h.vec4.Definite :=
  h.definite_number.bind fun _ => h.definite_number.bind fun _ => h.definite_number.bind fun _ =>
    h.definite_number.bind fun _ => Read.definite_pure _

private theorem definite_columns : h.columns.Definite :=
  h.definite_vec4.bind fun _ => h.definite_vec4.bind fun _ => h.definite_vec4.bind fun _ =>
    h.definite_vec4.bind fun _ => Read.definite_pure _

private theorem definite_matrix : h.matrix.Definite := by
  refine Read.definite_peek.bind fun t => ?_
  split
  · exact Read.definite_take.bind fun _ => h.definite_columns.bind fun _ =>
      (h.definite_operand _ _).bind fun _ => Read.definite_pure _
  · exact h.definite_columns

private theorem definite_rotation : h.rotation.Definite :=
  h.definite_number.bind fun _ => h.definite_vec3.bind fun _ => Read.definite_pure _

private theorem definite_view : h.view.Definite :=
  h.definite_vec3.bind fun _ => h.definite_vec3.bind fun _ => h.definite_vec3.bind fun _ => Read.definite_pure _

private theorem definite_shutterTimes : h.shutterTimes.Definite := by
  refine Read.definite_take.bind fun t => ?_
  split
  · split
    · exact Read.definite_pure _
    · exact Read.definite_fail rfl _
  · split
    · exact Read.definite_pure _
    · exact Read.definite_fail rfl _
  · exact h.definite_fail rfl

private theorem definiteAt_renderSetting {c : Cursor} (hc : c.Sound) (hmore : ∀ c', Read.take c ≠ .ok none c') :
    h.renderSetting.DefiniteAt c := by
  have hparameter := definiteAt_readParameter hc hmore
  refine hparameter.bind fun p c₁ hp => ?_
  split
  · exact Read.definite_pure _ c₁ (hparameter.sound hp)
  · rename_i hsetting
    exact h.definite_fail (RenderSetting.isFinding_of_ofParameter hsetting) c₁ (hparameter.sound hp)

private theorem definite_attributeTarget : h.attributeTarget.Definite := by
  refine h.definite_quoted.bind fun target => ?_
  split
  · exact Read.definite_pure _
  · exact h.definite_fail rfl

private theorem definite_texture : h.texture.Definite := by
  refine h.definite_quoted.bind fun _ => h.definite_quoted.bind fun _ => h.definite_quoted.bind fun _ =>
    definite_readParameters.bind fun _ => ?_
  split
  · exact Read.definite_pure _
  · exact h.definite_fail rfl

private theorem definite_outerMedium (inside : String) : (h.outerMedium inside).Definite := by
  refine Read.definite_peek.bind fun t => ?_
  split
  · exact h.definite_quoted
  · exact Read.definite_pure _

private theorem definite_withParameters (make : String → ParameterList → Directive) :
    (h.withParameters make).Definite :=
  h.definite_quoted.bind fun _ => definite_readParameters.bind fun _ => Read.definite_pure _

end Heading

/-- What is wrong with the operands of a directive is a finding on a known line, unless it is an option behind which
the text ends. -/
theorem definiteAt_readDirective (h : Heading) {c : Cursor} (hc : c.Sound)
    (hmore : h.keyword = .option → ∀ c', Read.take c ≠ .ok none c') : (readDirective h).DefiniteAt c := by
  unfold readDirective
  split
  case h_1 | h_2 | h_15 | h_16 | h_25 | h_27 | h_33 => exact h.definite_quoted.map _ c hc
  case h_3 hkeyword =>
    have hsetting := h.definiteAt_renderSetting hc (hmore hkeyword)
    exact hsetting.bind fun setting c₁ hread => Read.definite_pure _ c₁ (hsetting.sound hread)
  case h_9 | h_10 => exact h.definite_vec3.map _ c hc
  case h_11 => exact h.definite_rotation.map _ c hc
  case h_12 => exact h.definite_view.map _ c hc
  case h_13 | h_14 => exact h.definite_matrix.map _ c hc
  case h_17 =>
    exact h.definite_number.bind (fun _ => h.definite_number.bind fun _ => Read.definite_pure _) c hc
  case h_18 => exact h.definite_shutterTimes.map _ c hc
  case h_24 =>
    exact h.definite_attributeTarget.bind (fun _ => definite_readParameters.bind fun _ => Read.definite_pure _) c hc
  case h_34 => exact h.definite_texture c hc
  case h_36 =>
    exact h.definite_quoted.bind (fun _ => (h.definite_outerMedium _).bind fun _ => Read.definite_pure _) c hc
  case h_4 | h_5 | h_28 | h_29 | h_30 | h_31 | h_32 | h_35 => exact h.definite_withParameters _ c hc
  all_goals exact Read.definite_pure _ c hc

/-- An option behind which the text ends is reported without a line. -/
theorem readDirective_option_of_ended {line : Nat} {c c' : Cursor} (h : Read.take c = .ok none c') :
    readDirective ⟨.option, line⟩ c = .error (Fault.expectedDeclaration.at none) c' := by
  have hparameter : readParameter c = .error (Fault.expectedDeclaration.at none) c' := by
    rw [readParameter, Read.bind_apply, h]
    rfl
  show (Directive.option <$> Heading.renderSetting ⟨.option, line⟩) c = _
  rw [map_eq_pure_bind, Read.bind_apply, Heading.renderSetting, Read.bind_apply, hparameter]

end SceneDescription
