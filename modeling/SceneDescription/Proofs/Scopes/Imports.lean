import SceneDescription.Proofs.Scopes.Machine

/-!
# Imports among the open scopes

Each mark of a consistent machine belongs to one open scope of an import, and knows its place, the floor before it and
the object that was being recorded (`OpenScopes.places_eq`, `OpenScopes.beneath`).  As long as a mark is held, no
operation reaches what lies beneath the scope of its import (`ScopeMachine.step_keeps`).  So the scopes above it come
from the operations since the import, and they are the begins among them that have not been closed (`LeftOpen`).
-/

namespace SceneDescription

/-- The places of the open imports among the open scopes, outermost first.  The outermost scope is at place 0. -/
def ScopeStack.importPlaces (s : ScopeStack) : List Nat :=
  (s.kinds.reverse.zipIdx.filter (·.1 = .imported)).map (·.2)

/-- The scopes around those of another stack, with an import between them. -/
theorem ScopeStack.kinds_eq_of_saved_eq {s t : ScopeStack} {upper : List (ScopeKind × GraphicsState)}
    {state : GraphicsState} (h : s.saved = upper ++ (.imported, state) :: t.saved) :
    s.kinds = upper.map (·.1) ++ (.imported :: t.kinds) := by
  rw [kinds, h, List.map_append, List.map_cons]
  rfl

/-- A restoration that fails with a scope open has found a scope or an object that should have been closed. -/
theorem ScopeStack.kind_of_restore_eq_error {s : ScopeStack} {mark : Mark} {fault : Fault}
    (h : s.restore mark = .error fault) (hsaved : s.saved ≠ []) : fault.kind = .unbalancedScope := by
  unfold restore at h
  split at h
  · cases h
    rfl
  split at h
  · rename_i hempty
    exact absurd hempty hsaved
  split at h
  · cases h
  · cases h
    rfl

/-! ### Marks and places -/

namespace OpenScopes

variable {kinds : List ScopeKind} {floor : Nat} {recording : Option String} {marks : List Mark} {mark other : Mark}

/-- The marks of the open imports have the places of their scopes. -/
theorem places_eq (h : OpenScopes kinds floor recording marks) :
    (kinds.reverse.zipIdx.filter (·.1 = .imported)).map (·.2) = marks.reverse.map (·.depth) := by
  induction h with
  | none => rfl
  | imported _ ih => simp [List.zipIdx_append, ih]
  | attributes _ ih | transforms _ ih | object _ _ ih => simpa [List.zipIdx_append] using ih

/-- The floor is right above the innermost import. -/
theorem floor_eq (h : OpenScopes kinds floor recording marks) : floor = (marks.head?.map (·.depth + 1)).getD 0 := by
  induction h with
  | none => rfl
  | imported _ _ => rfl
  | attributes _ ih | transforms _ ih | object _ _ ih => exact ih

private theorem floor_le (h : OpenScopes kinds floor recording marks) : floor ≤ kinds.length := by
  induction h with
  | none => exact Nat.le_refl 0
  | imported _ _ => exact Nat.le_refl _
  | attributes _ ih | transforms _ ih | object _ _ ih => exact Nat.le_succ_of_le ih

private theorem depth_lt_floor (h : OpenScopes kinds floor recording marks) (hmark : mark ∈ marks) :
    mark.depth < floor := by
  induction h with
  | none => cases hmark
  | imported h ih =>
    have hfloor := h.floor_le
    rcases List.mem_cons.1 hmark with rfl | hold
    · exact Nat.lt_succ_self _
    · have := ih hold
      omega
  | attributes _ ih | transforms _ ih | object _ _ ih => exact ih hmark

/-- The innermost mark describes the scopes beneath its import. -/
theorem beneath (h : OpenScopes kinds floor recording (mark :: marks)) :
    ∃ lower, lower.length = mark.depth ∧ OpenScopes lower mark.floor mark.recording marks := by
  generalize hmarks : mark :: marks = all at h
  induction h with
  | none => cases hmarks
  | @imported lower _ _ _ h _ =>
    cases hmarks
    exact ⟨lower, rfl, h⟩
  | attributes _ ih | transforms _ ih | object _ _ ih => exact ih hmarks

/-- An import is above those that were open before it. -/
private theorem older_lt (h : OpenScopes kinds floor recording (mark :: marks)) (hother : other ∈ marks) :
    other.depth < mark.depth := by
  obtain ⟨lower, hlength, hlower⟩ := h.beneath
  have hfloor := hlower.floor_le
  have hdepth := hlower.depth_lt_floor hother
  omega

/-- Above the innermost import there is no other one. -/
theorem imported_not_mem {upper lower : List ScopeKind}
    (h : OpenScopes (upper ++ lower) floor recording (mark :: marks)) (hlength : lower.length = mark.depth + 1) :
    ScopeKind.imported ∉ upper := by
  induction upper generalizing recording with
  | nil => simp
  | cons kind upper ih =>
    rw [List.cons_append] at h
    cases h with
    | attributes h | transforms h | object _ h => simpa using ih h
    | imported h =>
      simp only [List.length_append] at hlength
      omega

end OpenScopes

/-! ### What lies beneath an import -/

namespace ScopeMachine

variable {m m' : ScopeMachine} {x : ScopeOp} {mark : Mark} {base : List (ScopeKind × GraphicsState)}

/-- An operation that leaves an import open does not reach what lies beneath it. -/
theorem step_keeps (hm : m.Consistent) (h : m.step x = .ok m') (hmark : mark ∈ m.marks) (hmark' : mark ∈ m'.marks)
    (hbase : base <:+ m.stack.saved) (hlength : base.length = mark.depth + 1) : base <:+ m'.stack.saved := by
  have hfloor : mark.depth < m.stack.floor := OpenScopes.depth_lt_floor hm hmark
  -- what is taken off the stack lies above `base` if enough is left
  have htail : ∀ entry rest, m.stack.saved = entry :: rest → base.length ≤ rest.length → base <:+ rest := by
    intro entry rest hsaved hle
    rw [hsaved] at hbase
    exact List.suffix_of_suffix_length_le hbase (List.suffix_cons entry rest) hle
  cases x with
  | beginAttributes | beginTransforms | checkpoint =>
    cases h
    exact hbase.trans (List.suffix_cons _ _)
  | edit change =>
    cases h
    exact hbase
  | beginObject name =>
    obtain ⟨_, hbegin, rfl⟩ := bind_pure_eq_ok.1 h
    obtain ⟨_, rfl⟩ := ScopeStack.beginObject_eq_ok.1 hbegin
    exact hbase.trans (List.suffix_cons _ _)
  | endAttributes | endTransforms =>
    obtain ⟨_, hpop, rfl⟩ := bind_pure_eq_ok.1 h
    obtain ⟨habove, state, rest, hsaved, rfl⟩ := ScopeStack.pop_eq_ok.1 hpop
    refine htail _ rest hsaved ?_
    rw [ScopeStack.depth, hsaved, List.length_cons] at habove
    omega
  | endObject =>
    obtain ⟨⟨name, _⟩, hend, rfl⟩ := bind_pure_eq_ok.1 h
    obtain ⟨_, habove, state, rest, hsaved, rfl⟩ := ScopeStack.endObject_eq_ok.1 hend
    refine htail _ rest hsaved ?_
    rw [ScopeStack.depth, hsaved, List.length_cons] at habove
    omega
  | restore =>
    obtain ⟨stack, marks⟩ := m
    cases marks with
    | nil => cases h
    | cons innermost marks =>
      obtain ⟨_, hrestore, rfl⟩ := bind_pure_eq_ok.1 h
      obtain ⟨_, kind, state, rest, hsaved, hdepth, rfl⟩ := ScopeStack.restore_eq_ok.1 hrestore
      have holder : mark.depth < innermost.depth := OpenScopes.older_lt hm hmark'
      exact htail _ rest hsaved (by omega)

end ScopeMachine

/-! ### Begins that have not been closed -/

variable {α : Type} {side : α → Side} {w : List α}

/-- A letter that moves only the upper ones of the open scopes does the same without the lower ones. -/
theorem Side.next_of_append {x : Side} {upper upper' lower : List ScopeKind}
    (h : x.next (upper ++ lower) = some (upper' ++ lower)) : x.next upper = some upper' := by
  cases x with
  | opening kind =>
    simp only [next, Option.some.injEq] at h ⊢
    exact List.append_cancel_right h
  | plain =>
    simp only [next, Option.some.injEq] at h ⊢
    exact List.append_cancel_right h
  | closing kind =>
    cases upper with
    | nil =>
      simp only [next, List.nil_append, Option.ite_none_right_eq_some, Option.some.injEq] at h
      obtain ⟨hhead, htail⟩ := h
      have hlength := congrArg List.length htail
      cases lower with
      | nil => cases hhead
      | cons first rest =>
        simp only [List.tail_cons, List.length_append, List.length_cons] at hlength
        omega
    | cons first rest =>
      simp only [next, List.cons_append, List.head?_cons, List.tail_cons, Option.ite_none_right_eq_some,
        Option.some.injEq] at h ⊢
      exact ⟨h.1, List.append_cancel_right h.2⟩

/-- The begin of a scope or an object in a word has not been closed: everything behind it is well nested by itself. -/
def LeftOpen (side : α → Side) (w : List α) : Prop :=
  ∃ kind u x v, w = u ++ x :: v ∧ side x = .opening kind ∧ kind ≠ .imported ∧ WellNested side v

/-- The kinds of the open scopes behind a word. -/
def kindsBehind (side : α → Side) (kinds : List ScopeKind) (w : List α) : Option (List ScopeKind) :=
  w.foldlM (fun kinds x => (side x).next kinds) kinds

private theorem kindsBehind_append (kinds : List ScopeKind) (v w : List α) :
    kindsBehind side kinds (v ++ w) = (kindsBehind side kinds v).bind fun kinds' => kindsBehind side kinds' w :=
  List.foldlM_append ..

private theorem kindsBehind_cons (kinds : List ScopeKind) (x : α) (w : List α) :
    kindsBehind side kinds (x :: w) = ((side x).next kinds).bind fun kinds' => kindsBehind side kinds' w :=
  List.foldlM_cons ..

private theorem WellNested.kindsBehind_eq (h : WellNested side w) (kinds : List ScopeKind) :
    kindsBehind side kinds w = some kinds := by
  induction h generalizing kinds with
  | nil => rfl
  | plain hx _ ih =>
    rw [kindsBehind_cons, hx]
    exact ih kinds
  | @block kind x y inner w hx _ hy _ ihInner ih =>
    have hclose : (Side.closing kind).next (kind :: kinds) = some kinds := by simp [Side.next]
    rw [kindsBehind_cons, hx, Side.next, Option.bind_some, kindsBehind_append, ihInner, Option.bind_some,
      kindsBehind_cons, hy, hclose]
    exact ih kinds

private theorem WellNested.not_leftOpen (h : WellNested side w) : ¬ LeftOpen side w := by
  rintro ⟨kind, u, x, v, rfl, hx, _, hv⟩
  have hall := h.kindsBehind_eq []
  rw [kindsBehind_append, Option.bind_eq_some_iff] at hall
  obtain ⟨kinds, _, hrest⟩ := hall
  rw [kindsBehind_cons, hx, Side.next, Option.bind_some, hv.kindsBehind_eq] at hrest
  cases hrest

/-- A word leaves something open if and only if scopes are open behind it, when these are no imports. -/
theorem Unclosed.leftOpen_iff {kinds : List ScopeKind} (h : Unclosed side kinds w) (hkinds : .imported ∉ kinds) :
    LeftOpen side w ↔ kinds ≠ [] := by
  cases kinds with
  | nil =>
    have hnested : WellNested side w := h
    simpa using hnested.not_leftOpen
  | cons kind kinds =>
    obtain ⟨u, x, v, hw, _, hx, hv⟩ := h
    have hkind : kind ≠ .imported := by
      rintro rfl
      exact hkinds (List.mem_cons_self ..)
    have hopen : LeftOpen side w := ⟨kind, u, x, v, hw, hx, hkind, hv⟩
    simpa using hopen

end SceneDescription
