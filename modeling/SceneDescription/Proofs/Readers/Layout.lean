import SceneDescription.Proofs.Readers.Dialogues

/-!
# Reading texts with another layout

Two texts with the same lexemes may have them on different lines.  Nothing that a reader does depends on that:
it ends with the same result in both texts, or with the same report up to the line (`uniform_readDirective`).  The
judgement `Read.Uniform` also says that the reader can be evaluated, in the sense of `Read.Dialogue`.
-/

namespace SceneDescription

/-- The report without its line. -/
def Report.unlined {α : Type} (r : Report α) : Report α :=
  { r with line := none }

theorem Report.unlined_eq_iff {α : Type} {r r' : Report α} :
    r.unlined = r'.unlined ↔ r.cause = r'.cause ∧ r.source = r'.source ∧ r.chain = r'.chain := by
  simp [unlined]

def Item.unlined : Item → Item
  | .token t => .token { t with line := 0 }
  | .malformed r => .malformed r.unlined

/-- The cursors stand in front of the same items, on whatever lines. -/
structure Cursor.Matches (c c' : Cursor) : Prop where
  items : c.items.map Item.unlined = c'.items.map Item.unlined
  stuck : c.stuck.map Report.unlined = c'.stuck.map Report.unlined

namespace Read

variable {α β : Type} {R : α → α → Prop} {S : β → β → Prop}

/-- The same end up to lines; `R` tells which results count as the same. -/
inductive Ending.Matches (R : α → α → Prop) : Ending α → Ending α → Prop
  | ok {a a' : α} {c c' : Cursor} (h : R a a') (hc : c.Matches c') : Matches R (.ok a c) (.ok a' c')
  | error {r r' : Report Fault} {c c' : Cursor} (h : r.unlined = r'.unlined) (hc : c.Matches c') :
      Matches R (.error r c) (.error r' c')

/-- Both readers, each in front of its cursor, come to the same end. -/
def UniformAt (R : α → α → Prop) (m m' : Read α) (c c' : Cursor) : Prop :=
  ∃ told ending told' ending', m.Dialogue c told ending ∧ m'.Dialogue c' told' ending' ∧ ending.Matches R ending'

/-- The same in front of any two cursors that match. -/
def Uniform (R : α → α → Prop) (m m' : Read α) : Prop :=
  ∀ c c', c.Matches c' → UniformAt R m m' c c'

theorem UniformAt.matches {m m' : Read α} {c c' : Cursor} (h : UniformAt R m m' c c') :
    Ending.Matches R (m c) (m' c') := by
  obtain ⟨told, ending, told', ending', hdialogue, hdialogue', hmatches⟩ := h
  rwa [hdialogue.eq, hdialogue'.eq]

theorem uniform_pure {a a' : α} (h : R a a') : Uniform R (pure a) (pure a') :=
  fun c c' hc => ⟨_, _, _, _, .pure a c, .pure a' c', .ok h hc⟩

theorem uniform_fail (f : Fault) (line line' : Option Nat) : Uniform R (fail f line) (fail f line') :=
  fun c c' hc => ⟨_, _, _, _, .throw _ c, .throw _ c', .error rfl hc⟩

private theorem UniformAt.bind {m m' : Read α} {f f' : α → Read β} {c c' : Cursor} (hm : UniformAt R m m' c c')
    (hf : ∀ a a' c₁ c₁', m c = .ok a c₁ → R a a' → c₁.Matches c₁' → UniformAt S (f a) (f' a') c₁ c₁') :
    UniformAt S (m >>= f) (m' >>= f') c c' := by
  obtain ⟨told, ending, told', ending', hdialogue, hdialogue', hmatches⟩ := hm
  cases hmatches with
  | error hr hc₁ => exact ⟨_, _, _, _, .bind_error hdialogue, .bind_error hdialogue', .error hr hc₁⟩
  | ok ha hc₁ =>
    obtain ⟨_, _, _, _, hsecond, hsecond', hend⟩ := hf _ _ _ _ hdialogue.eq ha hc₁
    exact ⟨_, _, _, _, .bind hdialogue hsecond, .bind hdialogue' hsecond', hend⟩

theorem Uniform.bind {m m' : Read α} {f f' : α → Read β} (hm : Uniform R m m')
    (hf : ∀ a a', R a a' → Uniform S (f a) (f' a')) : Uniform S (m >>= f) (m' >>= f') :=
  fun c c' hc => (hm c c' hc).bind fun a a' c₁ c₁' _ ha hc₁ => hf a a' ha c₁ c₁' hc₁

/-- Behind a reader with the same result in both texts. -/
theorem Uniform.bind_eq {m m' : Read α} {f f' : α → Read β} (hm : Uniform (· = ·) m m')
    (hf : ∀ a, Uniform S (f a) (f' a)) : Uniform S (m >>= f) (m' >>= f') := by
  refine hm.bind fun a a' ha => ?_
  subst ha
  exact hf a

private theorem Uniform.map {m m' : Read α} (hm : Uniform (· = ·) m m') (f : α → β) :
    Uniform (· = ·) (f <$> m) (f <$> m') :=
  hm.bind_eq fun _ => uniform_pure rfl

/-- Answers with the same lexeme. -/
def SameAnswer (t t' : Option Token) : Prop :=
  t.map (·.lexeme) = t'.map (·.lexeme)

private theorem take_matches {c c' : Cursor} (hc : c.Matches c') : Ending.Matches SameAnswer (take c) (take c') := by
  obtain ⟨items, stuck, line⟩ := c
  obtain ⟨items', stuck', line'⟩ := c'
  obtain ⟨hitems, hstuck⟩ := hc
  dsimp only at hitems hstuck
  cases items with
  | nil =>
    obtain rfl : items' = [] := List.map_eq_nil_iff.1 hitems.symm
    cases stuck with
    | none =>
      obtain rfl : stuck' = none := Option.map_eq_none_iff.1 hstuck.symm
      exact .ok rfl ⟨rfl, rfl⟩
    | some r =>
      obtain ⟨r', rfl, hr⟩ := Option.map_eq_some_iff.1 hstuck.symm
      exact .error hr.symm ⟨rfl, hstuck⟩
  | cons item rest =>
    obtain ⟨item', rest', rfl, hitem, hrest⟩ := List.map_eq_cons_iff.1 hitems.symm
    cases item with
    | token t =>
      cases item' with
      | malformed r' => cases hitem
      | token t' =>
        have hlexeme : t'.lexeme = t.lexeme := by
          simp only [Item.unlined, Item.token.injEq, Token.mk.injEq] at hitem
          exact hitem.1
        exact .ok (congrArg some hlexeme.symm) ⟨hrest.symm, hstuck⟩
    | malformed r =>
      cases item' with
      | token t' => cases hitem
      | malformed r' =>
        simp only [Item.unlined, Item.malformed.injEq] at hitem
        exact .error hitem.symm ⟨hrest.symm, hstuck⟩

/-- A look ahead sees what can be taken, and leaves it there. -/
private theorem peek_matches {c c' : Cursor} (hc : c.Matches c') : Ending.Matches SameAnswer (peek c) (peek c') := by
  have hends : ∀ c, peek c = match take c with
      | .ok t _ => .ok t c
      | .error r c' => .error r c' := by
    rintro ⟨_ | ⟨_ | _, rest⟩, _ | _, line⟩ <;> rfl
  have htake := take_matches hc
  rw [hends, hends]
  generalize take c = ending at htake ⊢
  generalize take c' = ending' at htake ⊢
  cases htake with
  | ok h _ => exact .ok h hc
  | error h hc₁ => exact .error h hc₁

theorem uniform_take : Uniform SameAnswer take take := by
  intro c c' hc
  have hends := take_matches hc
  cases h : take c <;> cases h' : take c' <;> rw [h, h'] at hends
  · exact ⟨_, _, _, _, .take h, .take h', hends⟩
  · cases hends
  · cases hends
  · exact ⟨_, _, _, _, .take_error h, .take_error h', hends⟩

private theorem uniform_peek : Uniform SameAnswer peek peek := by
  intro c c' hc
  have hends := peek_matches hc
  cases h : peek c <;> cases h' : peek c' <;> rw [h, h'] at hends
  · exact ⟨_, _, _, _, .peek h, .peek h', hends⟩
  · cases hends
  · cases hends
  · exact ⟨_, _, _, _, .peek_error h, .peek_error h', hends⟩

/-- Behind a look at the text. -/
theorem Uniform.bind_answer {m : Read (Option Token)} {f f' : Option Token → Read α}
    (hm : Uniform SameAnswer m m) (hnone : Uniform R (f none) (f' none))
    (hsome : ∀ l n n', Uniform R (f (some ⟨l, n⟩)) (f' (some ⟨l, n'⟩))) : Uniform R (m >>= f) (m >>= f') := by
  refine hm.bind fun t t' ht => ?_
  cases t with
  | none =>
    obtain rfl : t' = none := Option.map_eq_none_iff.1 ht.symm
    exact hnone
  | some t =>
    obtain ⟨⟨l, n'⟩, rfl, hlexeme⟩ := Option.map_eq_some_iff.1 ht.symm
    cases hlexeme
    exact hsome t.lexeme t.line n'

end Read

/-! ### Parameters -/

/-- The same value, or the same report up to the line. -/
def SameUpToLine {α : Type} (e e' : Except (Report Fault) α) : Prop :=
  e.mapError Report.unlined = e'.mapError Report.unlined

private theorem Read.uniform_ofExcept {α : Type} {e e' : Except (Report Fault) α} (h : SameUpToLine e e') :
    Uniform (· = ·) (ofExcept e) (ofExcept e') := by
  cases e with
  | ok a =>
    cases e' with
    | ok a' =>
      cases h
      exact uniform_pure rfl
    | error r' => cases h
  | error r =>
    cases e' with
    | ok a' => cases h
    | error r' =>
      have hr : r.unlined = r'.unlined := Except.error.inj h
      exact fun c c' hc => ⟨_, _, _, _, .throw r c, .throw r' c', .error hr hc⟩

section

variable {keyword : String} {tokens tokens' : List Token} (l : Lexeme) (n n' : Nat)

private theorem FirstUnread.of_lexemes {type : ParameterType} {t : Token} (ht : type.FirstUnread tokens t)
    (h : tokens.map (·.lexeme) = tokens'.map (·.lexeme)) :
    ∃ t', type.FirstUnread tokens' t' ∧ t'.lexeme = t.lexeme := by
  obtain ⟨front, rest, rfl, hfront, hnone⟩ := ht
  rw [List.map_append, List.map_cons] at h
  obtain ⟨front', more, rfl, hsame, hmore⟩ := List.map_eq_append_iff.1 h.symm
  obtain ⟨t', rest', rfl, hlexeme, _⟩ := List.map_eq_cons_iff.1 hmore
  refine ⟨t', ⟨front', rest', rfl, fun u hu => ?_, by rwa [hlexeme]⟩, hlexeme⟩
  have hmem : u.lexeme ∈ front.map (·.lexeme) := hsame ▸ List.mem_map_of_mem hu
  obtain ⟨v, hv, hlexeme⟩ := List.mem_map.1 hmem
  rw [← hlexeme]
  exact hfront v hv

/-- What is reported of the tokens of a value is reported of others with the same lexemes, on their lines. -/
private theorem ParameterType.Refuses.of_lexemes {type : ParameterType} {r : Report Fault}
    (hrefuses : type.Refuses keyword tokens ⟨l, n⟩ r) (h : tokens.map (·.lexeme) = tokens'.map (·.lexeme)) :
    ∃ r', type.Refuses keyword tokens' ⟨l, n'⟩ r' ∧ r'.unlined = r.unlined := by
  cases hrefuses with
  | count hcount =>
    rw [h] at hcount
    exact ⟨_, .count hcount, rfl⟩
  | component hcount hname ht =>
    rw [h] at hcount hname
    obtain ⟨t', ht', hlexeme⟩ := FirstUnread.of_lexemes ht h
    refine ⟨_, .component hcount hname ht', ?_⟩
    simp [ParameterType.unreadable, Report.unlined, Fault.at, Token.describe, Token.text, hlexeme]

private theorem decodeValue_sameUpToLine (h : tokens.map (·.lexeme) = tokens'.map (·.lexeme)) :
    SameUpToLine (decodeValue keyword tokens ⟨l, n⟩) (decodeValue keyword tokens' ⟨l, n'⟩) := by
  cases hvalue : decodeValue keyword tokens ⟨l, n⟩ with
  | ok value =>
    obtain ⟨type, htype, hspells⟩ := decodeValue_eq_ok.1 hvalue
    rw [decodeValue_eq_ok.2 ⟨type, htype, h ▸ hspells⟩]
    rfl
  | error r =>
    rcases decodeValue_eq_error.1 hvalue with ⟨htype, rfl⟩ | ⟨type, htype, hrefuses⟩
    · rw [decodeValue_eq_error.2 (.inl ⟨htype, rfl⟩)]
      rfl
    · obtain ⟨r', hrefuses', hr⟩ := hrefuses.of_lexemes l n n' h
      rw [decodeValue_eq_error.2 (.inr ⟨type, htype, hrefuses'⟩)]
      exact congrArg Except.error hr.symm

/-- The tokens of a value have the same lexemes. -/
def SameTokens (tokens tokens' : List Token) : Prop :=
  tokens.map (·.lexeme) = tokens'.map (·.lexeme)

private theorem uniform_readBracketed {taken taken' : List Token} (h : SameTokens taken taken') :
    Read.Uniform SameTokens (readBracketed ⟨l, n⟩ taken) (readBracketed ⟨l, n'⟩ taken') := by
  intro c
  -- each look takes an item, so the number of those that are left carries the induction
  induction hlength : c.items.length using Nat.strong_induction_on generalizing c taken taken' with
  | h length ih =>
    subst hlength
    intro c' hc
    rw [readBracketed_eq, readBracketed_eq]
    refine (Read.uniform_take c c' hc).bind fun t t' c₁ c₁' htake hanswer hc₁ => ?_
    cases t with
    | none =>
      obtain rfl : t' = none := Option.map_eq_none_iff.1 hanswer.symm
      exact Read.uniform_fail _ _ _ c₁ c₁' hc₁
    | some t =>
      obtain ⟨⟨lexeme, m'⟩, rfl, hlexeme⟩ := Option.map_eq_some_iff.1 hanswer.symm
      obtain ⟨_, m⟩ := t
      cases hlexeme
      dsimp only
      split
      · refine Read.uniform_pure ?_ c₁ c₁' hc₁
        rw [SameTokens, List.map_reverse, List.map_reverse, h]
      split
      · have hmore : SameTokens (⟨lexeme, m⟩ :: taken) (⟨lexeme, m'⟩ :: taken') := congrArg (lexeme :: ·) h
        exact ih _ (Read.take_shrinks htake) hmore c₁ rfl c₁' hc₁
      · exact Read.uniform_fail _ _ _ c₁ c₁' hc₁

private theorem uniform_readValueTokens :
    Read.Uniform SameTokens (readValueTokens ⟨l, n⟩) (readValueTokens ⟨l, n'⟩) := by
  refine Read.uniform_take.bind_answer (Read.uniform_fail _ _ _) fun lexeme m m' => ?_
  cases lexeme with
  | rightBracket => exact Read.uniform_fail _ _ _
  | leftBracket => exact uniform_readBracketed l n n' rfl
  | identifier _ | quoted _ | number _ => exact Read.uniform_pure rfl

private theorem uniform_readDeclared : Read.Uniform (· = ·) (readDeclared ⟨l, n⟩) (readDeclared ⟨l, n'⟩) := by
  unfold readDeclared
  simp only [Token.text]
  split
  · split
    · exact Read.uniform_fail _ _ _
    · refine (uniform_readValueTokens l n n').bind fun tokens tokens' htokens => ?_
      exact (Read.uniform_ofExcept (decodeValue_sameUpToLine l n n' htokens)).bind_eq fun _ => Read.uniform_pure rfl
  · exact Read.uniform_fail _ _ _

private theorem uniform_readParameter : Read.Uniform (· = ·) readParameter readParameter := by
  refine Read.uniform_take.bind_answer (Read.uniform_fail _ _ _) fun lexeme n n' => ?_
  cases lexeme with
  | quoted content => exact uniform_readDeclared _ n n'
  | identifier _ | number _ | leftBracket | rightBracket => exact Read.uniform_fail _ _ _

private theorem uniform_readParameters : Read.Uniform (· = ·) readParameters readParameters := by
  suffices h : ∀ found, Read.Uniform (· = ·) (readParametersOnto found) (readParametersOnto found) from h []
  intro found c
  induction hlength : c.items.length using Nat.strong_induction_on generalizing c found with
  | h length ih =>
    subst hlength
    intro c' hc
    rw [readParametersOnto_eq]
    refine (Read.uniform_peek c c' hc).bind fun t t' c₁ c₁' hpeek hanswer hc₁ => ?_
    cases t with
    | none =>
      obtain rfl : t' = none := Option.map_eq_none_iff.1 hanswer.symm
      exact Read.uniform_pure rfl c₁ c₁' hc₁
    | some t =>
      obtain ⟨⟨lexeme, m'⟩, rfl, hlexeme⟩ := Option.map_eq_some_iff.1 hanswer.symm
      obtain ⟨_, m⟩ := t
      cases hlexeme
      cases lexeme with
      | quoted content =>
        refine (uniform_readParameter c₁ c₁' hc₁).bind fun p p' c₂ c₂' hparameter hp hc₂ => ?_
        subst hp
        rw [Read.peek_unmoved hpeek] at hparameter
        exact ih _ (readParameter_shrinks hparameter) (p :: found) c₂ rfl c₂' hc₂
      | identifier _ | number _ | leftBracket | rightBracket => exact Read.uniform_pure rfl c₁ c₁' hc₁

end

/-! ### Directives -/

namespace Heading

variable (keyword : Keyword) (n n' : Nat)

private theorem uniform_operand {α : Type} (expected : Expected) (accept : Lexeme → Option α) :
    Read.Uniform (· = ·) (operand ⟨keyword, n⟩ expected accept) (operand ⟨keyword, n'⟩ expected accept) := by
  refine Read.uniform_take.bind_answer (Read.uniform_fail _ _ _) fun lexeme m m' => ?_
  dsimp only
  split
  · exact Read.uniform_pure rfl
  · exact Read.uniform_fail _ _ _

private theorem uniform_quoted : Read.Uniform (· = ·) (quoted ⟨keyword, n⟩) (quoted ⟨keyword, n'⟩) :=
  uniform_operand keyword n n' _ _

private theorem uniform_number : Read.Uniform (· = ·) (number ⟨keyword, n⟩) (number ⟨keyword, n'⟩) :=
  uniform_operand keyword n n' _ _

private theorem uniform_vec3 : Read.Uniform (· = ·) (vec3 ⟨keyword, n⟩) (vec3 ⟨keyword, n'⟩) := by
  have hnumber := uniform_number keyword n n'
  exact hnumber.bind_eq fun _ => hnumber.bind_eq fun _ => hnumber.bind_eq fun _ => Read.uniform_pure rfl

private theorem uniform_vec4 : Read.Uniform (· = ·) (vec4 ⟨keyword, n⟩) (vec4 ⟨keyword, n'⟩) := by
  have hnumber := uniform_number keyword n n'
  exact hnumber.bind_eq fun _ => hnumber.bind_eq fun _ => hnumber.bind_eq fun _ => hnumber.bind_eq fun _ =>
    Read.uniform_pure rfl

private theorem uniform_columns : Read.Uniform (· = ·) (columns ⟨keyword, n⟩) (columns ⟨keyword, n'⟩) := by
  have hcolumn := uniform_vec4 keyword n n'
  exact hcolumn.bind_eq fun _ => hcolumn.bind_eq fun _ => hcolumn.bind_eq fun _ => hcolumn.bind_eq fun _ =>
    Read.uniform_pure rfl

private theorem uniform_matrix : Read.Uniform (· = ·) (matrix ⟨keyword, n⟩) (matrix ⟨keyword, n'⟩) := by
  have hcolumns := uniform_columns keyword n n'
  refine Read.uniform_peek.bind_answer hcolumns fun lexeme m m' => ?_
  cases lexeme with
  | leftBracket =>
    exact Read.uniform_take.bind fun _ _ _ => hcolumns.bind_eq fun _ =>
      (uniform_operand keyword n n' _ _).bind_eq fun _ => Read.uniform_pure rfl
  | identifier _ | quoted _ | number _ | rightBracket => exact hcolumns

private theorem uniform_rotation : Read.Uniform (· = ·) (rotation ⟨keyword, n⟩) (rotation ⟨keyword, n'⟩) :=
  (uniform_number keyword n n').bind_eq fun _ => (uniform_vec3 keyword n n').bind_eq fun _ => Read.uniform_pure rfl

private theorem uniform_view : Read.Uniform (· = ·) (view ⟨keyword, n⟩) (view ⟨keyword, n'⟩) := by
  have hvec3 := uniform_vec3 keyword n n'
  exact hvec3.bind_eq fun _ => hvec3.bind_eq fun _ => hvec3.bind_eq fun _ => Read.uniform_pure rfl

private theorem uniform_shutterTimes :
    Read.Uniform (· = ·) (shutterTimes ⟨keyword, n⟩) (shutterTimes ⟨keyword, n'⟩) := by
  refine Read.uniform_take.bind_answer (Read.uniform_fail _ _ _) fun lexeme m m' => ?_
  cases lexeme with
  | identifier name | quoted name =>
    dsimp only
    split
    · exact Read.uniform_pure rfl
    · exact Read.uniform_fail _ _ _
  | number _ | leftBracket | rightBracket => exact Read.uniform_fail _ _ _

private theorem uniform_renderSetting :
    Read.Uniform (· = ·) (renderSetting ⟨keyword, n⟩) (renderSetting ⟨keyword, n'⟩) := by
  refine uniform_readParameter.bind_eq fun p => ?_
  split
  · exact Read.uniform_pure rfl
  · exact Read.uniform_fail _ _ _

private theorem uniform_attributeTarget :
    Read.Uniform (· = ·) (attributeTarget ⟨keyword, n⟩) (attributeTarget ⟨keyword, n'⟩) := by
  refine (uniform_quoted keyword n n').bind_eq fun target => ?_
  split
  · exact Read.uniform_pure rfl
  · exact Read.uniform_fail _ _ _

private theorem uniform_texture : Read.Uniform (· = ·) (texture ⟨keyword, n⟩) (texture ⟨keyword, n'⟩) := by
  have hquoted := uniform_quoted keyword n n'
  refine hquoted.bind_eq fun _ => hquoted.bind_eq fun _ => hquoted.bind_eq fun _ =>
    uniform_readParameters.bind_eq fun _ => ?_
  split
  · exact Read.uniform_pure rfl
  · exact Read.uniform_fail _ _ _

private theorem uniform_outerMedium (inside : String) :
    Read.Uniform (· = ·) (outerMedium ⟨keyword, n⟩ inside) (outerMedium ⟨keyword, n'⟩ inside) := by
  refine Read.uniform_peek.bind_answer (Read.uniform_pure rfl) fun lexeme m m' => ?_
  cases lexeme with
  | quoted _ => exact uniform_quoted keyword n n'
  | identifier _ | number _ | leftBracket | rightBracket => exact Read.uniform_pure rfl

private theorem uniform_withParameters (make : String → ParameterList → Directive) :
    Read.Uniform (· = ·) (withParameters ⟨keyword, n⟩ make) (withParameters ⟨keyword, n'⟩ make) :=
  (uniform_quoted keyword n n').bind_eq fun _ => uniform_readParameters.bind_eq fun _ => Read.uniform_pure rfl

end Heading

/-- The operands of a directive are the same, or wrong in the same way, on whatever lines they and the keyword
stand. -/
theorem uniform_readDirective (keyword : Keyword) (n n' : Nat) :
    Read.Uniform (· = ·) (readDirective ⟨keyword, n⟩) (readDirective ⟨keyword, n'⟩) := by
  have hquoted := Heading.uniform_quoted keyword n n'
  have hnumber := Heading.uniform_number keyword n n'
  unfold readDirective
  cases keyword with
  | includeFile | importFile | coordinateSystem | coordSysTransform | objectBegin | objectInstance
  | namedMaterial => exact hquoted.map _
  | option => exact (Heading.uniform_renderSetting _ n n').map _
  | translate | scale => exact (Heading.uniform_vec3 _ n n').map _
  | rotate => exact (Heading.uniform_rotation _ n n').map _
  | lookAt => exact (Heading.uniform_view _ n n').map _
  | transform | concatTransform => exact (Heading.uniform_matrix _ n n').map _
  | transformTimes => exact hnumber.bind_eq fun _ => hnumber.bind_eq fun _ => Read.uniform_pure rfl
  | activeTransform => exact (Heading.uniform_shutterTimes _ n n').map _
  | attributeDefaults =>
    exact (Heading.uniform_attributeTarget _ n n').bind_eq fun _ => uniform_readParameters.bind_eq fun _ =>
      Read.uniform_pure rfl
  | texture => exact Heading.uniform_texture _ n n'
  | mediumInterface =>
    exact hquoted.bind_eq fun _ => (Heading.uniform_outerMedium _ n n' _).bind_eq fun _ => Read.uniform_pure rfl
  | camera | setting | shape | lightSource | areaLightSource | material | makeNamedMaterial | makeNamedMedium =>
    exact Heading.uniform_withParameters _ n n' _
  | worldBegin | worldEnd | identity | reverseOrientation | attributeBegin | attributeEnd | transformBegin
  | transformEnd | objectEnd => exact Read.uniform_pure rfl

end SceneDescription
