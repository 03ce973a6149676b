import SceneDescription.Proofs.Readers.Traces

/-!
# What readers are told

A reader knows its text only by looking: each `peek` and each `take` is answered with the next token, or with nothing
at the end of the text.  `Read.Dialogue` is the evaluation of a reader with these answers written down.  All tokens
among them are tokens in front of the cursor (`Read.Dialogue.mem_items`).  A reader that has never been told of the
end does the same in a text that goes on there (`Read.Dialogue.continued`).
-/

namespace SceneDescription

/-- The cursor in a text that goes on with other items, behind which it ends in another way. -/
def Cursor.continued (more : List Item) (stuck : Option (Report Fault)) (c : Cursor) : Cursor :=
  { c with items := c.items ++ more, stuck }

namespace Read

variable {α β : Type}

/-- How a reader has ended: with a result or a report, and where. -/
abbrev Ending (α : Type) := EStateM.Result (Report Fault) Cursor α

/-- Where a reader has ended. -/
def Ending.cursor : Ending α → Cursor
  | .ok _ c | .error _ c => c

private theorem after_eq {m : Read α} {c : Cursor} {ending : Ending α} (h : m c = ending) :
    m.after c = ending.cursor := by
  rw [after, h]
  cases ending <;> rfl

/-- The same end in a text that goes on. -/
def Ending.continued (more : List Item) (stuck : Option (Report Fault)) : Ending α → Ending α
  | .ok a c => .ok a (c.continued more stuck)
  | .error r c => .error r (c.continued more stuck)

/-- The evaluation of a reader: what its looks at the text were answered with, in this order, and how it ended. -/
inductive Dialogue : {α : Type} → Read α → Cursor → List (Option Token) → Ending α → Prop
  | pure {α : Type} (a : α) (c : Cursor) : Dialogue (pure a) c [] (.ok a c)
  | throw {α : Type} (r : Report Fault) (c : Cursor) : Dialogue (throw r : Read α) c [] (.error r c)
  | peek {c c' : Cursor} {answer : Option Token} (h : Read.peek c = .ok answer c') :
      Dialogue Read.peek c [answer] (.ok answer c')
  | peek_error {c c' : Cursor} {r : Report Fault} (h : Read.peek c = .error r c') :
      Dialogue Read.peek c [] (.error r c')
  | take {c c' : Cursor} {answer : Option Token} (h : Read.take c = .ok answer c') :
      Dialogue Read.take c [answer] (.ok answer c')
  | take_error {c c' : Cursor} {r : Report Fault} (h : Read.take c = .error r c') :
      Dialogue Read.take c [] (.error r c')
  | bind {α β : Type} {m : Read α} {f : α → Read β} {c c' : Cursor} {a : α} {told told' : List (Option Token)}
      {ending : Ending β} (hm : Dialogue m c told (.ok a c')) (hf : Dialogue (f a) c' told' ending) :
      Dialogue (m >>= f) c (told ++ told') ending
  | bind_error {α β : Type} {m : Read α} {f : α → Read β} {c c' : Cursor} {r : Report Fault}
      {told : List (Option Token)} (hm : Dialogue m c told (.error r c')) : Dialogue (m >>= f) c told (.error r c')

namespace Dialogue

variable {m : Read α} {c : Cursor} {told : List (Option Token)} {ending : Ending α}

/-- The evaluation ends as the reader does. -/
theorem eq (h : m.Dialogue c told ending) : m c = ending := by
  induction h with
  | pure a c => rfl
  | throw r c => rfl
  | peek h => exact h
  | peek_error h => exact h
  | take h => exact h
  | take_error h => exact h
  | bind hm hf ihm ihf => rw [bind_apply, ihm, ← ihf]
  | bind_error hm ihm => rw [bind_apply, ihm]

theorem suffix (h : m.Dialogue c told ending) :
    ending.cursor.items <:+ c.items ∧ ending.cursor.stuck = c.stuck := by
  induction h with
  | pure a c => exact forward_pure a c
  | throw r c => exact forward_throw (α := α) r c
  | peek h | peek_error h =>
    rw [← after_eq h]
    exact forward_peek _
  | take h | take_error h =>
    rw [← after_eq h]
    exact forward_take _
  | bind hm hf ihm ihf => exact ⟨ihf.1.trans ihm.1, ihf.2.trans ihm.2⟩
  | bind_error hm ihm => exact ihm

/-- All tokens that a reader is told of stand in front of its cursor. -/
theorem mem_items (h : m.Dialogue c told ending) {t : Token} (ht : some t ∈ told) : Item.token t ∈ c.items := by
  induction h with
  | pure a c => cases ht
  | throw r c => cases ht
  | peek h =>
    obtain rfl := List.mem_singleton.1 ht
    exact List.mem_of_mem_head? (peek_eq_head h).2
  | peek_error h => cases ht
  | take h =>
    obtain rfl := List.mem_singleton.1 ht
    exact mem_of_take h
  | take_error h => cases ht
  | bind hm hf ihm ihf =>
    rcases List.mem_append.1 ht with hfirst | hsecond
    · exact ihm hfirst
    · exact hm.suffix.1.subset (ihf hsecond)
  | bind_error hm ihm => exact ihm ht

end Dialogue

private theorem peek_continued {c c' : Cursor} {t : Token} (h : peek c = .ok (some t) c') (more : List Item)
    (stuck : Option (Report Fault)) :
    peek (c.continued more stuck) = .ok (some t) (c'.continued more stuck) := by
  obtain ⟨_ | ⟨_ | _, rest⟩, end?, line⟩ := c
  · cases end? <;> cases h
  · cases h
    rfl
  · cases h

theorem take_continued {c c' : Cursor} {t : Token} (h : take c = .ok (some t) c') (more : List Item)
    (stuck : Option (Report Fault)) :
    take (c.continued more stuck) = .ok (some t) (c'.continued more stuck) := by
  obtain ⟨_ | ⟨_ | _, rest⟩, end?, line⟩ := c
  · cases end? <;> cases h
  · cases h
    rfl
  · cases h

/-- A look that fails meets a malformed number, or the place where the scan is stuck. -/
private theorem peek_error_continued {c c' : Cursor} {r : Report Fault} (h : peek c = .error r c')
    (hr : c.stuck ≠ some r) (more : List Item) (stuck : Option (Report Fault)) :
    peek (c.continued more stuck) = .error r (c'.continued more stuck) := by
  obtain ⟨_ | ⟨_ | _, rest⟩, end?, line⟩ := c
  · cases end? with
    | none => cases h
    | some r' =>
      cases h
      exact absurd rfl hr
  · cases h
  · cases h
    rfl

private theorem take_error_continued {c c' : Cursor} {r : Report Fault} (h : take c = .error r c')
    (hr : c.stuck ≠ some r) (more : List Item) (stuck : Option (Report Fault)) :
    take (c.continued more stuck) = .error r (c'.continued more stuck) := by
  obtain ⟨_ | ⟨_ | _, rest⟩, end?, line⟩ := c
  · cases end? with
    | none => cases h
    | some r' =>
      cases h
      exact absurd rfl hr
  · cases h
  · cases h
    rfl

/-- A reader that has been told neither of the end of the text nor of the fault there does the same in a text that goes
on. -/
theorem Dialogue.continued {m : Read α} {c : Cursor} {told : List (Option Token)} {ending : Ending α}
    (h : m.Dialogue c told ending) (htold : none ∉ told) (hstuck : ∀ r c', ending = .error r c' → c.stuck ≠ some r)
    (more : List Item) (stuck : Option (Report Fault)) :
    m.Dialogue (c.continued more stuck) told (ending.continued more stuck) := by
  induction h with
  | pure a c => exact .pure a _
  | throw r c => exact .throw r _
  | @peek c c' answer h =>
    cases answer with
    | none => exact absurd (List.mem_singleton.2 rfl) htold
    | some t => exact .peek (peek_continued h more stuck)
  | peek_error h => exact .peek_error (peek_error_continued h (hstuck _ _ rfl) more stuck)
  | @take c c' answer h =>
    cases answer with
    | none => exact absurd (List.mem_singleton.2 rfl) htold
    | some t => exact .take (take_continued h more stuck)
  | take_error h => exact .take_error (take_error_continued h (hstuck _ _ rfl) more stuck)
  | bind hm hf ihm ihf =>
    rw [List.mem_append, not_or] at htold
    have hfirst := ihm htold.1 (fun r c' hr => by cases hr)
    have hsame := hm.suffix.2
    simp only [Ending.cursor] at hsame
    have hsecond := ihf htold.2 (by rwa [hsame])
    exact .bind hfirst hsecond
  | bind_error hm ihm =>
    have herror := ihm htold fun r c' hr => by
      cases hr
      exact hstuck _ _ rfl
    exact .bind_error herror

end Read

end SceneDescription
