import SceneDescription.Proofs.Parameters.Groups

/-!
# What readers take and what they report

A reader that succeeds has taken tokens from the front of its text, and the cursor remembers the line of the last of
them (`Cursor.Advances`).  A reader that fails reports something in front of its cursor: a malformed number or the
place where the scan is stuck, which know their place already, or a fault that is still to be placed.  The line of
such a fault is the line of a token in front of the cursor, or one that was known before, such as the line of the
heading (`Cursor.Reports`).  `traced_readDirective` says both of all directives.
-/

namespace SceneDescription

/-- Between the cursors, tokens have been taken. -/
def Cursor.Advances (c c' : Cursor) : Prop :=
  ∃ taken, c.Takes taken c'

namespace Cursor.Advances

variable {c c' c'' : Cursor}

theorem refl (c : Cursor) : c.Advances c :=
  ⟨[], .refl c⟩

theorem trans (h : c.Advances c') (h' : c'.Advances c'') : c.Advances c'' := by
  obtain ⟨front, hfront⟩ := h
  obtain ⟨more, hmore⟩ := h'
  exact ⟨front ++ more, hfront.append hmore⟩

private theorem subset (h : c.Advances c') : c'.items ⊆ c.items := by
  obtain ⟨taken, hitems, _⟩ := h
  rw [hitems]
  exact List.subset_append_right _ _

end Cursor.Advances

/-- A report of what is in front of a cursor, or on a line that is known already. -/
inductive Cursor.Reports (c : Cursor) (known : Nat → Prop) : Report Fault → Prop
  | malformed {r : Report Fault} (h : Item.malformed r ∈ c.items) : Reports c known r
  | stuck {r : Report Fault} (h : c.stuck = some r) : Reports c known r
  | unplaced {f : Fault} {line : Option Nat}
      (h : ∀ n, line = some n → known n ∨ ∃ t, Item.token t ∈ c.items ∧ t.line = n) : Reports c known (f.at line)

namespace Cursor.Reports

variable {c c' : Cursor} {known known' : Nat → Prop} {r : Report Fault}

theorem mono (h : c.Reports known r) (hknown : ∀ n, known n → known' n) : c.Reports known' r := by
  cases h with
  | malformed h => exact .malformed h
  | stuck h => exact .stuck h
  | unplaced h => exact .unplaced fun n hn => (h n hn).imp_left (hknown n)

/-- What is in front of a cursor was in front of it earlier. -/
theorem of_advances (h : c'.Reports known r) (hadvances : c.Advances c') : c.Reports known r := by
  have hitems := hadvances.subset
  obtain ⟨_, _, hstuck, _⟩ := hadvances
  cases h with
  | malformed h => exact .malformed (hitems h)
  | stuck h => exact .stuck (hstuck.symm.trans h)
  | unplaced h =>
    refine .unplaced fun n hn => (h n hn).imp_right ?_
    rintro ⟨t, ht, hline⟩
    exact ⟨t, hitems ht, hline⟩

/-- A token in front of the cursor gives a known line. -/
theorem of_token {t : Token} (h : c.Reports (fun n => known n ∨ n = t.line) r) (ht : Item.token t ∈ c.items) :
    c.Reports known r := by
  cases h with
  | malformed h => exact .malformed h
  | stuck h => exact .stuck h
  | unplaced h =>
    refine .unplaced fun n hn => ?_
    rcases h n hn with (hknown | rfl) | hmem
    · exact .inl hknown
    · exact .inr ⟨t, ht, rfl⟩
    · exact .inr hmem

end Cursor.Reports

namespace Read

variable {α β : Type} {known known' : Nat → Prop}

/-- Success takes tokens, and failure is a report of what is in front of the cursor. -/
def Traced (known : Nat → Prop) (m : Read α) : Prop :=
  ∀ c, match m c with
    | .ok _ c' => c.Advances c'
    | .error r _ => c.Reports known r

theorem Traced.advances {m : Read α} (hm : m.Traced known) {c c' : Cursor} {a : α} (h : m c = .ok a c') :
    c.Advances c' := by
  have hc := hm c
  rwa [h] at hc

theorem Traced.reports {m : Read α} (hm : m.Traced known) {c c' : Cursor} {r : Report Fault}
    (h : m c = .error r c') : c.Reports known r := by
  have hc := hm c
  rwa [h] at hc

private theorem Traced.mono {m : Read α} (h : m.Traced known) (hknown : ∀ n, known n → known' n) : m.Traced known' := by
  intro c
  cases hm : m c with
  | ok a c' => exact h.advances hm
  | error r c' => exact (h.reports hm).mono hknown

private theorem traced_pure (a : α) : (pure a : Read α).Traced known :=
  fun c => .refl c

private theorem traced_fail (f : Fault) {line : Option Nat} (hline : ∀ n, line = some n → known n) :
    (fail f line : Read α).Traced known :=
  fun _ => .unplaced fun n hn => .inl (hline n hn)

private theorem Traced.bind {m : Read α} {f : α → Read β} (hm : m.Traced known) (hf : ∀ a, (f a).Traced known) :
    (m >>= f).Traced known := by
  intro c
  rw [bind_apply]
  cases hfirst : m c with
  | error r c' => exact hm.reports hfirst
  | ok a c₁ =>
    have hc := hm.advances hfirst
    dsimp only
    cases hlast : f a c₁ with
    | error r c' => exact ((hf a).reports hlast).of_advances hc
    | ok b c' => exact hc.trans ((hf a).advances hlast)

private theorem Traced.map {m : Read α} (hm : m.Traced known) (f : α → β) : (f <$> m).Traced known :=
  hm.bind fun a => traced_pure (f a)

theorem traced_take : take.Traced known := by
  rintro ⟨_ | ⟨_ | _, rest⟩, stuck, lastLine⟩
  · cases stuck with
    | none => exact .refl _
    | some r => exact .stuck rfl
  · exact ⟨[_], rfl, rfl, rfl⟩
  · exact .malformed (List.mem_cons_self ..)

private theorem traced_peek : peek.Traced known := by
  rintro ⟨_ | ⟨_ | _, rest⟩, stuck, lastLine⟩
  · cases stuck with
    | none => exact .refl _
    | some r => exact .stuck rfl
  · exact .refl _
  · exact .malformed (List.mem_cons_self ..)

theorem mem_of_take {c c' : Cursor} {t : Token} (h : take c = .ok (some t) c') : Item.token t ∈ c.items := by
  rw [(take_some h).1]
  exact List.mem_cons_self ..

theorem advances_take {c c' : Cursor} {t : Option Token} (h : take c = .ok t c') : c.Advances c' :=
  (traced_take : take.Traced fun _ => False).advances h

/-- The line of a token that has been taken is known from then on. -/
private theorem traced_take_bind {f : Option Token → Read α} (hnone : (f none).Traced known)
    (hsome : ∀ t, (f (some t)).Traced fun n => known n ∨ n = t.line) : (take >>= f).Traced known := by
  intro c
  rw [bind_apply]
  cases htake : take c with
  | error r c' => exact traced_take.reports htake
  | ok t c₁ =>
    have hc := advances_take htake
    dsimp only
    cases t with
    | none =>
      cases hlast : f none c₁ with
      | error r c' => exact (hnone.reports hlast).of_advances hc
      | ok b c' => exact hc.trans (hnone.advances hlast)
    | some t =>
      cases hlast : f (some t) c₁ with
      | error r c' => exact (((hsome t).reports hlast).of_advances hc).of_token (mem_of_take htake)
      | ok b c' => exact hc.trans ((hsome t).advances hlast)

end Read

/-! ### Parameters -/

/-- A finding on the line of the heading or of one of the tokens. -/
def Report.OnLineOf (r : Report Fault) (heading : Token) (tokens : List Token) : Prop :=
  ∃ f : Fault, f.isFinding ∧ ∃ t ∈ heading :: tokens, r = f.at t.line

theorem decodeValue_onLineOf {keyword : String} {tokens : List Token} {heading : Token} {r : Report Fault}
    (h : decodeValue keyword tokens heading = .error r) : r.OnLineOf heading tokens := by
  rcases decodeValue_eq_error.1 h with ⟨_, rfl⟩ | ⟨type, _, hrefuses⟩
  · exact ⟨_, rfl, heading, List.mem_cons_self .., rfl⟩
  · cases hrefuses with
    | @count fault hcount =>
      have hfinding : fault.isFinding := by
        rw [Fault.isFinding, hcount.kind_and_given.1]
        rfl
      exact ⟨fault, hfinding, heading, List.mem_cons_self .., rfl⟩
    | @component t _ _ ht =>
      obtain ⟨front, rest, rfl, _⟩ := ht
      exact ⟨_, rfl, t, by simp, rfl⟩

private theorem traced_readBracketed (heading : Token) (taken : List Token) :
    (readBracketed heading taken).Traced (· = heading.line) := by
  intro c
  fun_induction readBracketed heading taken c with
  | case1 taken c r c₁ htake => exact Read.traced_take.reports htake
  | case2 taken c c₁ htake => exact .unplaced fun n hn => .inl (Option.some.inj hn).symm
  | case3 taken c t c₁ htake _ => exact Read.advances_take htake
  | case4 taken c t c₁ htake _ _ ih =>
    have hc := Read.advances_take htake
    cases hlast : readBracketed heading (t :: taken) c₁ with
    | error r c' =>
      rw [hlast] at ih
      exact ih.of_advances hc
    | ok tokens c' =>
      rw [hlast] at ih
      exact hc.trans ih
  | case5 taken c t c₁ htake _ _ =>
    exact .unplaced fun n hn => .inr ⟨t, Read.mem_of_take htake, Option.some.inj hn⟩

private theorem traced_readValueTokens (heading : Token) : (readValueTokens heading).Traced (· = heading.line) := by
  refine Read.traced_take_bind (Read.traced_fail _ fun n hn => (Option.some.inj hn).symm) fun t => ?_
  dsimp only
  split
  · exact Read.traced_fail _ fun n hn => .inr (Option.some.inj hn).symm
  · exact (traced_readBracketed heading []).mono fun n hn => .inl hn
  · exact Read.traced_pure _

private theorem mem_of_readValueTokens {heading : Token} {tokens : List Token} {c c' : Cursor}
    (h : readValueTokens heading c = .ok tokens c') : ∀ t ∈ tokens, Item.token t ∈ c.items := by
  intro t ht
  rcases readValueTokens_eq_ok.1 h with ⟨u, _, rfl, hitems, _⟩ | ⟨opening, closing, _, _, _, hitems, _⟩
  · rw [hitems, List.mem_singleton.1 ht]
    exact List.mem_cons_self ..
  · rw [hitems]
    simp [ht]

private theorem traced_readDeclared (heading : Token) : (readDeclared heading).Traced (· = heading.line) := by
  have hhere : ∀ n, some heading.line = some n → n = heading.line := fun n hn => (Option.some.inj hn).symm
  unfold readDeclared
  split
  · split
    · exact Read.traced_fail _ hhere
    · rename_i keyword name _ _
      intro c
      rw [Read.bind_apply]
      cases htokens : readValueTokens heading c with
      | error r c' => exact (traced_readValueTokens heading).reports htokens
      | ok tokens c₁ =>
        have hc := (traced_readValueTokens heading).advances htokens
        dsimp only
        cases hvalue : decodeValue keyword tokens heading with
        | ok value => exact hc
        | error fault =>
          -- the tokens of the value stood in front of the cursor
          obtain ⟨f, _, t, ht, rfl⟩ := decodeValue_onLineOf hvalue
          refine .unplaced fun n hn => ?_
          cases hn
          rcases List.mem_cons.1 ht with rfl | ht
          · exact .inl rfl
          · exact .inr ⟨t, mem_of_readValueTokens htokens t ht, rfl⟩
  · exact Read.traced_fail _ hhere

private theorem traced_readParameter {known : Nat → Prop} : readParameter.Traced known := by
  refine Read.traced_take_bind (Read.traced_fail _ fun n hn => by cases hn) fun t => ?_
  split
  · rename_i hheading
    cases hheading
    exact (traced_readDeclared _).mono fun n hn => .inr hn
  · rename_i hother
    cases hother
    exact Read.traced_fail _ fun n hn => .inr (Option.some.inj hn).symm
  · rename_i hnone
    cases hnone

private theorem traced_readParameters {known : Nat → Prop} : readParameters.Traced known := by
  suffices h : ∀ found, (readParametersOnto found).Traced known from h []
  intro found c
  fun_induction readParametersOnto found c with
  | case1 found c r c₁ hpeek => exact Read.traced_peek.reports hpeek
  | case2 found c c₁ hpeek =>
    rw [Read.peek_unmoved hpeek]
    exact .refl _
  | case3 found c t c₁ hpeek _ _ r c₂ hparameter =>
    rw [← Read.peek_unmoved hpeek]
    exact traced_readParameter.reports hparameter
  | case4 found c t c₁ hpeek _ _ p c₂ hparameter ih =>
    have hc : c₁.Advances c₂ := (traced_readParameter : readParameter.Traced known).advances hparameter
    rw [← Read.peek_unmoved hpeek]
    cases hlast : readParametersOnto (p :: found) c₂ with
    | error r c' =>
      rw [hlast] at ih
      exact ih.of_advances hc
    | ok params c' =>
      rw [hlast] at ih
      exact hc.trans ih
  | case5 found c t c₁ hpeek _ =>
    rw [Read.peek_unmoved hpeek]
    exact .refl _

/-! ### Directives -/

namespace Heading

variable (h : Heading)

private theorem traced_fail {α : Type} (f : Fault) : (h.fail f : Read α).Traced (· = h.line) :=
  Read.traced_fail f fun _ hn => (Option.some.inj hn).symm

private theorem traced_operand {α : Type} (expected : Expected) (accept : Lexeme → Option α) :
    (h.operand expected accept).Traced (· = h.line) := by
  refine Read.traced_take_bind (h.traced_fail _) fun t => ?_
  dsimp only
  split
  · exact Read.traced_pure _
  · exact Read.traced_fail _ fun n hn => .inr (Option.some.inj hn).symm

private theorem traced_quoted : h.quoted.Traced (· = h.line) := h.traced_operand _ _

private theorem traced_number : h.number.Traced (· = h.line) := h.traced_operand _ _

/-- Behind a number there may come more. -/
private theorem traced_number_bind {α : Type} {f : Float → Read α} (hf : ∀ x, (f x).Traced (· = h.line)) :
    (h.number >>= f).Traced (· = h.line) :=
  h.traced_number.bind hf

private theorem traced_vec3 : h.vec3.Traced (· = h.line) :=
  h.traced_number_bind fun _ => h.traced_number_bind fun _ => h.traced_number_bind fun _ => Read.traced_pure _

private theorem traced_vec4 : h.vec4.Traced (· = h.line) :=
  h.traced_number_bind fun _ => h.traced_number_bind fun _ => h.traced_number_bind fun _ =>
    h.traced_number_bind fun _ => Read.traced_pure _

private theorem traced_columns : h.columns.Traced (· = h.line) :=
  h.traced_vec4.bind fun _ => h.traced_vec4.bind fun _ =>
    h.traced_vec4.bind fun _ => h.traced_vec4.bind fun _ => Read.traced_pure _

private theorem traced_matrix : h.matrix.Traced (· = h.line) := by
  refine Read.traced_peek.bind fun t => ?_
  split
  · exact Read.traced_take.bind fun _ => h.traced_columns.bind fun _ =>
      (h.traced_operand _ _).bind fun _ => Read.traced_pure _
  · exact h.traced_columns

private theorem traced_rotation : h.rotation.Traced (· = h.line) :=
  h.traced_number_bind fun _ => h.traced_vec3.bind fun _ => Read.traced_pure _

private theorem traced_view : h.view.Traced (· = h.line) :=
  h.traced_vec3.bind fun _ => h.traced_vec3.bind fun _ =>
    h.traced_vec3.bind fun _ => Read.traced_pure _

private theorem traced_shutterTimes : h.shutterTimes.Traced (· = h.line) := by
  refine Read.traced_take_bind (h.traced_fail _) fun t => ?_
  split
  · rename_i hword
    cases hword
    split
    · exact Read.traced_pure _
    · exact Read.traced_fail _ fun n hn => .inr (Option.some.inj hn).symm
  · rename_i hword
    cases hword
    split
    · exact Read.traced_pure _
    · exact Read.traced_fail _ fun n hn => .inr (Option.some.inj hn).symm
  · exact (h.traced_fail _).mono fun n hn => .inl hn

private theorem traced_renderSetting : h.renderSetting.Traced (· = h.line) := by
  refine traced_readParameter.bind fun p => ?_
  split
  · exact Read.traced_pure _
  · exact h.traced_fail _

private theorem traced_attributeTarget : h.attributeTarget.Traced (· = h.line) := by
  refine h.traced_quoted.bind fun target => ?_
  split
  · exact Read.traced_pure _
  · exact h.traced_fail _

private theorem traced_texture : h.texture.Traced (· = h.line) := by
  refine h.traced_quoted.bind fun _ => h.traced_quoted.bind fun _ =>
    h.traced_quoted.bind fun _ => traced_readParameters.bind fun _ => ?_
  split
  · exact Read.traced_pure _
  · exact h.traced_fail _

private theorem traced_outerMedium (inside : String) : (h.outerMedium inside).Traced (· = h.line) := by
  refine Read.traced_peek.bind fun t => ?_
  split
  · exact h.traced_quoted
  · exact Read.traced_pure _

private theorem traced_withParameters (make : String → ParameterList → Directive) :
    (h.withParameters make).Traced (· = h.line) :=
  h.traced_quoted.bind fun _ => traced_readParameters.bind fun _ =>
    Read.traced_pure _

end Heading

/-- What is wrong with the operands of a directive is reported on the line of its keyword, or where it stands. -/
theorem traced_readDirective (h : Heading) : (readDirective h).Traced (· = h.line) := by
  unfold readDirective
  split
  case h_1 | h_2 | h_15 | h_16 | h_25 | h_27 | h_33 => exact h.traced_quoted.map _
  case h_3 => exact h.traced_renderSetting.map _
  case h_9 | h_10 => exact h.traced_vec3.map _
  case h_11 => exact h.traced_rotation.map _
  case h_12 => exact h.traced_view.map _
  case h_13 | h_14 => exact h.traced_matrix.map _
  case h_17 =>
    exact h.traced_number.bind fun _ => h.traced_number.bind fun _ =>
      Read.traced_pure _
  case h_18 => exact h.traced_shutterTimes.map _
  case h_24 =>
    exact h.traced_attributeTarget.bind fun _ =>
      traced_readParameters.bind fun _ => Read.traced_pure _
  case h_34 => exact h.traced_texture
  case h_36 =>
    exact h.traced_quoted.bind fun _ => (h.traced_outerMedium _).bind
      fun _ => Read.traced_pure _
  case h_4 | h_5 | h_28 | h_29 | h_30 | h_31 | h_32 | h_35 => exact h.traced_withParameters _
  all_goals exact Read.traced_pure _

end SceneDescription
