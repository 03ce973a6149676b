import SceneDescription.Graphics.ScopeStack
import SceneDescription.Proofs.Results

/-!
# Open scopes

When each operation of a scope stack succeeds, and what it then gives.  `OpenScopes` says how the kinds of the open
scopes, the floor, the object that is being recorded and the marks of the open imports hang together: they are
what opening scopes one after the other produces.  Because of it, an end that is accepted closes the innermost
scope, and the mark of the innermost import fits exactly when everything opened since has been closed.
-/

namespace SceneDescription

namespace ScopeStack

variable {s s' : ScopeStack}

/-- The kinds of the open scopes, innermost first. -/
def kinds (s : ScopeStack) : List ScopeKind :=
  s.saved.map (·.1)

/-- The active state and the saved ones. -/
def states (s : ScopeStack) : List GraphicsState :=
  s.active :: s.saved.map (·.2)

@[simp] theorem length_kinds (s : ScopeStack) : s.kinds.length = s.depth :=
  List.length_map _

@[simp] theorem kinds_push (s : ScopeStack) (kind : ScopeKind) : (s.push kind).kinds = kind :: s.kinds := rfl

theorem pop_eq_ok {kind : ScopeKind} :
    s.pop kind = .ok s' ↔ s.floor < s.depth ∧
      ∃ state rest, s.saved = (kind, state) :: rest ∧ s' = { s with active := state, saved := rest } := by
  unfold pop
  by_cases hfloor : s.depth ≤ s.floor
  · simp only [hfloor, if_true, reduceCtorEq, false_iff]
    omega
  · rw [if_neg hfloor]
    cases hsaved : s.saved with
    | nil => simp
    | cons entry rest =>
      obtain ⟨innermost, state⟩ := entry
      by_cases hkind : innermost = kind
      · subst hkind
        simp only [if_true, Except.ok.injEq, List.cons.injEq, Prod.mk.injEq, true_and]
        constructor
        · rintro rfl
          exact ⟨by omega, state, rest, ⟨rfl, rfl⟩, rfl⟩
        · rintro ⟨_, _, _, ⟨rfl, rfl⟩, rfl⟩
          rfl
      · simp [hkind]

theorem beginObject_eq_ok {name : String} :
    s.beginObject name = .ok s' ↔ s.recording = none ∧ s' = { s.push .object with recording := some name } := by
  unfold beginObject
  cases s.recording with
  | none => simp [eq_comm]
  | some within => simp

theorem endObject_eq_ok {name : String} :
    s.endObject = .ok (name, s') ↔ s.recording = some name ∧ s.floor < s.depth ∧
      ∃ state rest, s.saved = (.object, state) :: rest ∧
        s' = { s with active := state, saved := rest, recording := none } := by
  unfold endObject
  cases s.recording with
  | none => simp
  | some recorded =>
    simp only [bind_pure_eq_ok, pop_eq_ok, Prod.mk.injEq, Option.some.injEq]
    constructor
    · rintro ⟨_, ⟨hfloor, state, rest, hsaved, rfl⟩, rfl, rfl⟩
      exact ⟨rfl, hfloor, state, rest, hsaved, rfl⟩
    · rintro ⟨rfl, hfloor, state, rest, hsaved, rfl⟩
      exact ⟨_, ⟨hfloor, state, rest, hsaved, rfl⟩, rfl, rfl⟩

theorem restore_eq_ok {mark : Mark} :
    s.restore mark = .ok s' ↔ s.recording = mark.recording ∧
      ∃ kind state rest, s.saved = (kind, state) :: rest ∧ rest.length = mark.depth ∧
        s' = { s with active := state, saved := rest, floor := mark.floor } := by
  unfold restore
  by_cases hrec : s.recording = mark.recording
  · cases hsaved : s.saved with
    | nil => simp [hrec]
    | cons entry rest =>
      obtain ⟨kind, state⟩ := entry
      by_cases hdepth : rest.length = mark.depth
      · simp only [hrec, ne_eq, not_true_eq_false, if_false, hdepth, if_true, Except.ok.injEq, List.cons.injEq,
          Prod.mk.injEq, true_and]
        constructor
        · rintro rfl
          exact ⟨kind, state, rest, ⟨⟨rfl, rfl⟩, rfl⟩, hdepth, rfl⟩
        · rintro ⟨_, _, _, ⟨⟨rfl, rfl⟩, rfl⟩, _, rfl⟩
          rfl
      · simp only [hrec, ne_eq, not_true_eq_false, if_false, hdepth, reduceCtorEq, true_and, false_iff]
        rintro ⟨_, _, _, heq, hlen, _⟩
        cases heq
        exact hdepth hlen
  · simp [hrec]

theorem checkBalanced_eq_ok : s.checkBalanced = .ok () ↔ s.recording = none ∧ s.saved = [] := by
  unfold checkBalanced
  cases s.recording with
  | some name => simp
  | none => cases s.saved <;> simp

end ScopeStack

/-- The open scopes (innermost first), the floor, the object that is being recorded and the marks of the open
imports (innermost first), as they come about by opening one scope after the other. -/
inductive OpenScopes : List ScopeKind → Nat → Option String → List Mark → Prop
  | none : OpenScopes [] 0 none []
  | attributes {kinds : List ScopeKind} {floor : Nat} {recording : Option String} {marks : List Mark}
      (h : OpenScopes kinds floor recording marks) : OpenScopes (.attributes :: kinds) floor recording marks
  | transforms {kinds : List ScopeKind} {floor : Nat} {recording : Option String} {marks : List Mark}
      (h : OpenScopes kinds floor recording marks) : OpenScopes (.transforms :: kinds) floor recording marks
  | object {kinds : List ScopeKind} {floor : Nat} {marks : List Mark} (name : String)
      (h : OpenScopes kinds floor .none marks) : OpenScopes (.object :: kinds) floor (some name) marks
  | imported {kinds : List ScopeKind} {floor : Nat} {recording : Option String} {marks : List Mark}
      (h : OpenScopes kinds floor recording marks) :
      OpenScopes (.imported :: kinds) (kinds.length + 1) recording (⟨kinds.length, floor, recording⟩ :: marks)

namespace OpenScopes

variable {kinds : List ScopeKind} {floor : Nat} {recording : Option String} {marks : List Mark} {mark : Mark}

/-- Without an open scope there is no open import. -/
theorem marks_eq_nil (h : OpenScopes [] floor recording marks) : marks = [] := by
  cases h
  rfl

private theorem depth_lt (h : OpenScopes kinds floor recording (mark :: marks)) : mark.depth < kinds.length := by
  generalize hmarks : mark :: marks = all at h
  induction h with
  | none => cases hmarks
  | imported _ _ =>
    cases hmarks
    exact Nat.lt_succ_self _
  | attributes _ ih | transforms _ ih | object _ _ ih => exact Nat.lt_succ_of_lt (ih hmarks)

/-- The innermost mark has the depth of the innermost scope only if this is the import itself. -/
theorem of_depth_eq {kind : ScopeKind} (h : OpenScopes (kind :: kinds) floor recording (mark :: marks))
    (hdepth : kinds.length = mark.depth) :
    kind = .imported ∧ mark.recording = recording ∧ OpenScopes kinds mark.floor recording marks := by
  cases h with
  | imported h => exact ⟨rfl, rfl, h⟩
  | attributes h | transforms h | object _ h =>
    have := h.depth_lt
    omega

end OpenScopes

end SceneDescription
