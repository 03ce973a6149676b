import SceneDescription.Proofs.Readers.Layout

/-!
# Reading texts with other numbers

Two texts may have different numbers in the same places.  How far a reader goes does not depend on the numbers: where
it succeeds in both texts, it leaves both at the same place (`parallel_readDirective`).
-/

namespace SceneDescription

/-- The same lexeme, or two numbers. -/
inductive Lexeme.Varies : Lexeme → Lexeme → Prop
  | same (l : Lexeme) : Varies l l
  | numbers (n n' : Numeral) : Varies (.number n) (.number n')

structure Token.Varies (t t' : Token) : Prop where
  line : t.line = t'.line
  lexeme : t.lexeme.Varies t'.lexeme

inductive Item.Varies : Item → Item → Prop
  | token {t t' : Token} (h : t.Varies t') : Varies (.token t) (.token t')
  | malformed (r : Report Fault) : Varies (.malformed r) (.malformed r)

/-- The cursors stand in front of the same items, up to numbers. -/
structure Cursor.Varies (c c' : Cursor) : Prop where
  items : List.Forall₂ Item.Varies c.items c'.items
  stuck : c.stuck = c'.stuck
  lastLine : c.lastLine = c'.lastLine

/-! ### Comparing texts -/

def Lexeme.isNumber : Lexeme → Bool
  | number _ => true
  | _ => false

theorem Lexeme.varies_iff {l l' : Lexeme} : l.Varies l' ↔ l = l' ∨ (l.isNumber ∧ l'.isNumber) := by
  constructor
  · intro h
    cases h with
    | same l => exact .inl rfl
    | numbers n n' => exact .inr ⟨rfl, rfl⟩
  · rintro (rfl | ⟨h, h'⟩)
    · exact .same l
    · cases l <;> cases h
      cases l' <;> cases h'
      exact .numbers _ _

instance Lexeme.decidableVaries (l l' : Lexeme) : Decidable (l.Varies l') :=
  decidable_of_iff _ varies_iff.symm

instance Token.decidableVaries (t t' : Token) : Decidable (t.Varies t') :=
  decidable_of_iff (t.line = t'.line ∧ t.lexeme.Varies t'.lexeme)
    ⟨fun ⟨hline, hlexeme⟩ => ⟨hline, hlexeme⟩, fun h => ⟨h.line, h.lexeme⟩⟩

instance Item.decidableVaries : (item item' : Item) → Decidable (item.Varies item')
  | .token t, .token t' => decidable_of_iff (t.Varies t') ⟨.token, fun h => by cases h; assumption⟩
  | .malformed r, .malformed r' =>
    decidable_of_iff (r = r') ⟨fun h => h ▸ .malformed r, fun h => by cases h; rfl⟩
  | .token _, .malformed _ => .isFalse fun h => by cases h
  | .malformed _, .token _ => .isFalse fun h => by cases h

instance Cursor.decidableVaries (c c' : Cursor) : Decidable (c.Varies c') :=
  decidable_of_iff (List.Forall₂ Item.Varies c.items c'.items ∧ c.stuck = c'.stuck ∧ c.lastLine = c'.lastLine)
    ⟨fun ⟨hitems, hstuck, hline⟩ => ⟨hitems, hstuck, hline⟩, fun h => ⟨h.items, h.stuck, h.lastLine⟩⟩

/-! ### Properties of varying texts -/

private theorem Lexeme.Varies.isValue_eq {l l' : Lexeme} (h : l.Varies l') : l.isValue = l'.isValue := by
  cases h <;> rfl

theorem Lexeme.Varies.eq_rightBracket_iff {l l' : Lexeme} (h : l.Varies l') :
    l = .rightBracket ↔ l' = .rightBracket := by
  cases h with
  | same l => rfl
  | numbers n n' => simp

theorem Token.Varies.refl (t : Token) : t.Varies t :=
  ⟨rfl, .same _⟩

theorem Lexeme.Varies.symm {l l' : Lexeme} (h : l.Varies l') : l'.Varies l := by
  cases h with
  | same l => exact .same l
  | numbers n n' => exact .numbers n' n

theorem Token.Varies.symm {t t' : Token} (h : t.Varies t') : t'.Varies t :=
  ⟨h.line.symm, h.lexeme.symm⟩

theorem Item.Varies.symm {item item' : Item} (h : item.Varies item') : item'.Varies item := by
  cases h with
  | token h => exact .token h.symm
  | malformed r => exact .malformed r

theorem Cursor.Varies.symm {c c' : Cursor} (h : c.Varies c') : c'.Varies c :=
  ⟨(h.items.imp fun _ _ hitem => hitem.symm).flip, h.stuck.symm, h.lastLine.symm⟩

theorem Cursor.Varies.refl (c : Cursor) : c.Varies c := by
  refine ⟨List.forall₂_same.2 fun item _ => ?_, rfl, rfl⟩
  cases item with
  | token t => exact .token (.refl t)
  | malformed r => exact .malformed r

namespace Read

variable {α β : Type} {R : α → α → Prop} {S : β → β → Prop}

/-- Where both readers succeed, each in front of its text, their results are related and both texts have been read to
the same place. -/
def Parallel (R : α → α → Prop) (m m' : Read α) : Prop :=
  ∀ c c' a a' c₁ c₁', c.Varies c' → m c = .ok a c₁ → m' c' = .ok a' c₁' → R a a' ∧ c₁.Varies c₁'

/-- Any two results are related. -/
def Any (_ _ : α) : Prop :=
  True

private theorem parallel_pure {a a' : α} (h : R a a') : Parallel R (pure a) (pure a') := by
  intro c c' b b' c₁ c₁' hc hok hok'
  obtain ⟨rfl, rfl⟩ := EStateM.Result.ok.inj hok
  obtain ⟨rfl, rfl⟩ := EStateM.Result.ok.inj hok'
  exact ⟨h, hc⟩

private theorem parallel_fail (f : Fault) (line : Option Nat) (m' : Read α) : Parallel R (fail f line) m' := by
  intro c c' a a' c₁ c₁' _ hok
  exact absurd hok (fail_ne_ok f line)

private theorem parallel_fail_right (m : Read α) (f : Fault) (line : Option Nat) : Parallel R m (fail f line) := by
  intro c c' a a' c₁ c₁' _ _ hok'
  exact absurd hok' (fail_ne_ok f line)

private theorem Parallel.bind {m m' : Read α} {f f' : α → Read β} (hm : Parallel R m m')
    (hf : ∀ a a', R a a' → Parallel S (f a) (f' a')) : Parallel S (m >>= f) (m' >>= f') := by
  intro c c' b b' c₂ c₂' hc hok hok'
  obtain ⟨a, c₁, hfirst, hsecond⟩ := bind_ok.1 hok
  obtain ⟨a', c₁', hfirst', hsecond'⟩ := bind_ok.1 hok'
  obtain ⟨ha, hc₁⟩ := hm _ _ _ _ _ _ hc hfirst hfirst'
  exact hf a a' ha _ _ _ _ _ _ hc₁ hsecond hsecond'

private theorem Parallel.map {m m' : Read α} (hm : Parallel R m m') (f f' : α → β) :
    Parallel Any (f <$> m) (f' <$> m') := by
  intro c c' b b' c₁ c₁' hc hok hok'
  obtain ⟨a, hfirst, rfl⟩ := map_ok.1 hok
  obtain ⟨a', hfirst', rfl⟩ := map_ok.1 hok'
  exact ⟨trivial, (hm _ _ _ _ _ _ hc hfirst hfirst').2⟩

/-- Behind readers with any results. -/
private theorem Parallel.then {m m' : Read α} {f f' : α → Read β} (hm : Parallel Any m m')
    (hf : ∀ a a', Parallel S (f a) (f' a')) : Parallel S (m >>= f) (m' >>= f') :=
  hm.bind fun a a' _ => hf a a'

theorem parallel_take : Parallel (Option.Rel Token.Varies) take take := by
  rintro ⟨items, stuck, line⟩ ⟨items', stuck', line'⟩ t t' c₁ c₁' ⟨hitems, hstuck, hline⟩ hok hok'
  cases hstuck
  cases hitems with
  | nil =>
    cases stuck with
    | some r => cases hok
    | none =>
      cases hok
      cases hok'
      exact ⟨.none, .nil, rfl, hline⟩
  | cons hitem hrest =>
    cases hitem with
    | token ht =>
      cases hok
      cases hok'
      exact ⟨.some ht, hrest, rfl, ht.line⟩
    | malformed r => cases hok

private theorem take_of_peek {c c₁ : Cursor} {t : Option Token} (h : peek c = .ok t c₁) : ∃ c₂, take c = .ok t c₂ := by
  obtain ⟨items, stuck, line⟩ := c
  cases items with
  | nil =>
    cases stuck with
    | some r => cases h
    | none =>
      cases h
      exact ⟨_, rfl⟩
  | cons item rest =>
    cases item with
    | token t =>
      cases h
      exact ⟨_, rfl⟩
    | malformed r => cases h

private theorem parallel_peek : Parallel (Option.Rel Token.Varies) peek peek := by
  intro c c' t t' c₁ c₁' hc hok hok'
  obtain ⟨_, htake⟩ := take_of_peek hok
  obtain ⟨_, htake'⟩ := take_of_peek hok'
  obtain ⟨ht, _⟩ := parallel_take _ _ _ _ _ _ hc htake htake'
  rw [peek_unmoved hok, peek_unmoved hok']
  exact ⟨ht, hc⟩

/-- Behind a look at the text: the same lexeme on the same line, or two numbers. -/
private theorem Parallel.answer {m : Read (Option Token)} {f f' : Option Token → Read α}
    (hm : Parallel (Option.Rel Token.Varies) m m) (hnone : Parallel R (f none) (f' none))
    (hsame : ∀ t, Parallel R (f (some t)) (f' (some t)))
    (hnumbers : ∀ n n' line, Parallel R (f (some ⟨.number n, line⟩)) (f' (some ⟨.number n', line⟩))) :
    Parallel R (m >>= f) (m >>= f') := by
  refine hm.bind fun t t' ht => ?_
  cases ht with
  | none => exact hnone
  | @some t t' ht =>
    obtain ⟨l, line⟩ := t
    obtain ⟨l', line'⟩ := t'
    obtain ⟨hline, hlexeme⟩ := ht
    cases hline
    cases hlexeme with
    | same l => exact hsame ⟨l, line⟩
    | numbers n n' => exact hnumbers n n' line

end Read

/-! ### Parameters -/

private theorem parallel_ofExcept {α : Type} (e e' : Except (Report Fault) α) :
    Read.Parallel Read.Any (Read.ofExcept e) (Read.ofExcept e') := by
  cases e with
  | error r =>
    intro c c' a a' c₁ c₁' _ hok
    cases hok
  | ok a =>
    cases e' with
    | error r =>
      intro c c' a a' c₁ c₁' _ _ hok'
      cases hok'
    | ok a' => exact Read.parallel_pure trivial

private theorem parallel_readBracketed (heading : Token) (taken taken' : List Token) :
    Read.Parallel Read.Any (readBracketed heading taken) (readBracketed heading taken') := by
  intro c
  -- each look takes an item, so the number of those that are left carries the induction
  induction hlength : c.items.length using Nat.strong_induction_on generalizing c taken taken' with
  | h length ih =>
    subst hlength
    intro c' a a' c₂ c₂' hc hok hok'
    rw [readBracketed_eq] at hok hok'
    obtain ⟨t, c₁, htake, hok⟩ := Read.bind_ok.1 hok
    obtain ⟨t', c₁', htake', hok'⟩ := Read.bind_ok.1 hok'
    obtain ⟨ht, hc₁⟩ := Read.parallel_take _ _ _ _ _ _ hc htake htake'
    cases ht with
    | none => exact absurd hok (Read.fail_ne_ok _ _)
    | @some t t' ht =>
      dsimp only at hok hok'
      by_cases hclosed : t.lexeme = .rightBracket
      · rw [if_pos hclosed] at hok
        rw [if_pos (ht.lexeme.eq_rightBracket_iff.1 hclosed)] at hok'
        exact ⟨trivial, (Read.parallel_pure (R := Read.Any) trivial _ _ _ _ _ _ hc₁ hok hok').2⟩
      · rw [if_neg hclosed] at hok
        rw [if_neg (fun hclosed' => hclosed (ht.lexeme.eq_rightBracket_iff.2 hclosed'))] at hok'
        rw [← ht.lexeme.isValue_eq] at hok'
        by_cases hvalue : t.lexeme.isValue
        · rw [if_pos hvalue] at hok hok'
          exact ih _ (Read.take_shrinks htake) _ _ c₁ rfl _ _ _ _ _ hc₁ hok hok'
        · rw [if_neg hvalue] at hok
          exact absurd hok (Read.fail_ne_ok _ _)

private theorem parallel_readValueTokens (heading : Token) :
    Read.Parallel Read.Any (readValueTokens heading) (readValueTokens heading) := by
  refine Read.parallel_take.answer (Read.parallel_fail _ _ _) (fun t => ?_) fun n n' line => Read.parallel_pure trivial
  obtain ⟨l, line⟩ := t
  cases l with
  | leftBracket => exact parallel_readBracketed heading [] []
  | rightBracket => exact Read.parallel_fail _ _ _
  | identifier _ | quoted _ | number _ => exact Read.parallel_pure trivial

private theorem parallel_readDeclared (heading : Token) :
    Read.Parallel Read.Any (readDeclared heading) (readDeclared heading) := by
  unfold readDeclared
  split
  · split
    · exact Read.parallel_fail _ _ _
    · exact (parallel_readValueTokens heading).then fun _ _ => (parallel_ofExcept _ _).then fun _ _ =>
        Read.parallel_pure trivial
  · exact Read.parallel_fail _ _ _

private theorem parallel_readParameter : Read.Parallel Read.Any readParameter readParameter := by
  refine Read.parallel_take.answer (Read.parallel_fail _ _ _) (fun t => ?_) fun n n' line => Read.parallel_fail _ _ _
  obtain ⟨l, line⟩ := t
  cases l with
  | quoted content => exact parallel_readDeclared _
  | identifier _ | number _ | leftBracket | rightBracket => exact Read.parallel_fail _ _ _

private theorem parallel_readParametersOnto (found found' : List Parameter) :
    Read.Parallel Read.Any (readParametersOnto found) (readParametersOnto found') := by
  intro c
  induction hlength : c.items.length using Nat.strong_induction_on generalizing c found found' with
  | h length ih =>
    subst hlength
    intro c' a a' c₂ c₂' hc hok hok'
    rw [readParametersOnto_eq] at hok hok'
    obtain ⟨t, c₁, hpeek, hok⟩ := Read.bind_ok.1 hok
    obtain ⟨t', c₁', hpeek', hok'⟩ := Read.bind_ok.1 hok'
    obtain ⟨ht, hc₁⟩ := Read.parallel_peek _ _ _ _ _ _ hc hpeek hpeek'
    have hend : ∀ b b' : ParameterList, (pure b : Read ParameterList) c₁ = .ok a c₂ →
        (pure b' : Read ParameterList) c₁' = .ok a' c₂' → Read.Any a a' ∧ c₂.Varies c₂' :=
      fun b b' => Read.parallel_pure trivial _ _ _ _ _ _ hc₁
    cases ht with
    | none => exact hend _ _ hok hok'
    | @some t t' ht =>
      obtain ⟨l, line⟩ := t
      obtain ⟨l', line'⟩ := t'
      obtain ⟨_, hlexeme⟩ := ht
      cases hlexeme with
      | numbers n n' => exact hend _ _ hok hok'
      | same l =>
        cases l with
        | quoted content =>
          obtain ⟨p, c₃, hparameter, hok⟩ := Read.bind_ok.1 hok
          obtain ⟨p', c₃', hparameter', hok'⟩ := Read.bind_ok.1 hok'
          obtain ⟨_, hc₃⟩ := parallel_readParameter _ _ _ _ _ _ hc₁ hparameter hparameter'
          rw [Read.peek_unmoved hpeek] at hparameter
          exact ih _ (readParameter_shrinks hparameter) _ _ c₃ rfl _ _ _ _ _ hc₃ hok hok'
        | identifier _ | number _ | leftBracket | rightBracket => exact hend _ _ hok hok'

private theorem parallel_readParameters : Read.Parallel Read.Any readParameters readParameters :=
  parallel_readParametersOnto [] []

/-! ### Directives -/

namespace Heading

variable (h : Heading)

private theorem parallel_operand {α : Type} (expected : Expected) (accept : Lexeme → Option α) :
    Read.Parallel Read.Any (h.operand expected accept) (h.operand expected accept) := by
  refine Read.parallel_take.bind fun t t' ht => ?_
  cases ht with
  | none => exact Read.parallel_fail _ _ _
  | @some t t' _ =>
    dsimp only
    split
    · split
      · exact Read.parallel_pure trivial
      · exact Read.parallel_fail_right _ _ _
    · exact Read.parallel_fail _ _ _

private theorem parallel_quoted : Read.Parallel Read.Any h.quoted h.quoted :=
  h.parallel_operand _ _

private theorem parallel_number : Read.Parallel Read.Any h.number h.number :=
  h.parallel_operand _ _

private theorem parallel_vec3 : Read.Parallel Read.Any h.vec3 h.vec3 :=
  h.parallel_number.then fun _ _ => h.parallel_number.then fun _ _ => h.parallel_number.then fun _ _ =>
    Read.parallel_pure trivial

private theorem parallel_vec4 : Read.Parallel Read.Any h.vec4 h.vec4 :=
  h.parallel_number.then fun _ _ => h.parallel_number.then fun _ _ => h.parallel_number.then fun _ _ =>
    h.parallel_number.then fun _ _ => Read.parallel_pure trivial

private theorem parallel_columns : Read.Parallel Read.Any h.columns h.columns :=
  h.parallel_vec4.then fun _ _ => h.parallel_vec4.then fun _ _ => h.parallel_vec4.then fun _ _ =>
    h.parallel_vec4.then fun _ _ => Read.parallel_pure trivial

private theorem parallel_matrix : Read.Parallel Read.Any h.matrix h.matrix := by
  refine Read.parallel_peek.answer h.parallel_columns (fun t => ?_) fun n n' line => h.parallel_columns
  obtain ⟨l, line⟩ := t
  cases l with
  | leftBracket =>
    exact Read.parallel_take.bind fun _ _ _ => h.parallel_columns.then fun _ _ =>
      (h.parallel_operand _ _).then fun _ _ => Read.parallel_pure trivial
  | identifier _ | quoted _ | number _ | rightBracket => exact h.parallel_columns

private theorem parallel_rotation : Read.Parallel Read.Any h.rotation h.rotation :=
  h.parallel_number.then fun _ _ => h.parallel_vec3.then fun _ _ => Read.parallel_pure trivial

private theorem parallel_view : Read.Parallel Read.Any h.view h.view :=
  h.parallel_vec3.then fun _ _ => h.parallel_vec3.then fun _ _ => h.parallel_vec3.then fun _ _ =>
    Read.parallel_pure trivial

private theorem parallel_shutterTimes : Read.Parallel Read.Any h.shutterTimes h.shutterTimes := by
  refine Read.parallel_take.answer (Read.parallel_fail _ _ _) (fun t => ?_) fun n n' line => Read.parallel_fail _ _ _
  obtain ⟨l, line⟩ := t
  cases l with
  | identifier name | quoted name =>
    dsimp only
    split
    · exact Read.parallel_pure trivial
    · exact Read.parallel_fail _ _ _
  | number _ | leftBracket | rightBracket => exact Read.parallel_fail _ _ _

private theorem parallel_renderSetting : Read.Parallel Read.Any h.renderSetting h.renderSetting := by
  refine parallel_readParameter.then fun p p' => ?_
  split
  · split
    · exact Read.parallel_pure trivial
    · exact Read.parallel_fail_right _ _ _
  · exact Read.parallel_fail _ _ _

private theorem parallel_attributeTarget : Read.Parallel Read.Any h.attributeTarget h.attributeTarget := by
  refine h.parallel_quoted.then fun target target' => ?_
  split
  · split
    · exact Read.parallel_pure trivial
    · exact Read.parallel_fail_right _ _ _
  · exact Read.parallel_fail _ _ _

private theorem parallel_texture : Read.Parallel Read.Any h.texture h.texture := by
  refine h.parallel_quoted.then fun _ _ => h.parallel_quoted.then fun _ _ => h.parallel_quoted.then fun _ _ =>
    parallel_readParameters.then fun _ _ => ?_
  split
  · split
    · exact Read.parallel_pure trivial
    · exact Read.parallel_fail_right _ _ _
  · exact Read.parallel_fail _ _ _

private theorem parallel_outerMedium (inside inside' : String) :
    Read.Parallel Read.Any (h.outerMedium inside) (h.outerMedium inside') := by
  refine Read.parallel_peek.answer (Read.parallel_pure trivial) (fun t => ?_) fun n n' line =>
    Read.parallel_pure trivial
  obtain ⟨l, line⟩ := t
  cases l with
  | quoted content => exact h.parallel_quoted
  | identifier _ | number _ | leftBracket | rightBracket => exact Read.parallel_pure trivial

private theorem parallel_withParameters (make : String → ParameterList → Directive) :
    Read.Parallel Read.Any (h.withParameters make) (h.withParameters make) :=
  h.parallel_quoted.then fun _ _ => parallel_readParameters.then fun _ _ => Read.parallel_pure trivial

end Heading

/-- Where a directive is read in both texts, both are read to the same place. -/
theorem parallel_readDirective (h : Heading) : Read.Parallel Read.Any (readDirective h) (readDirective h) := by
  obtain ⟨keyword, line⟩ := h
  cases keyword with
  | includeFile | importFile | coordinateSystem | coordSysTransform | objectBegin | objectInstance
  | namedMaterial => exact (Heading.parallel_quoted _).map _ _
  | option => exact (Heading.parallel_renderSetting _).map _ _
  | translate | scale => exact (Heading.parallel_vec3 _).map _ _
  | rotate => exact (Heading.parallel_rotation _).map _ _
  | lookAt => exact (Heading.parallel_view _).map _ _
  | transform | concatTransform => exact (Heading.parallel_matrix _).map _ _
  | transformTimes =>
    exact (Heading.parallel_number _).then fun _ _ => (Heading.parallel_number _).then fun _ _ =>
      Read.parallel_pure trivial
  | activeTransform => exact (Heading.parallel_shutterTimes _).map _ _
  | attributeDefaults =>
    exact (Heading.parallel_attributeTarget _).then fun _ _ => parallel_readParameters.then fun _ _ =>
      Read.parallel_pure trivial
  | texture => exact Heading.parallel_texture _
  | mediumInterface =>
    exact (Heading.parallel_quoted _).then fun _ _ => (Heading.parallel_outerMedium _ _ _).then fun _ _ =>
      Read.parallel_pure trivial
  | camera | setting kind | shape | lightSource | areaLightSource | material | makeNamedMaterial
  | makeNamedMedium => exact Heading.parallel_withParameters _ _
  | identity | worldBegin | worldEnd | reverseOrientation | attributeBegin | attributeEnd | transformBegin
  | transformEnd | objectEnd => exact Read.parallel_pure trivial

end SceneDescription
