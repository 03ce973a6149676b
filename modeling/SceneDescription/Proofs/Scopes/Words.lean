import Mathlib
import SceneDescription.Graphics.ScopeKind

/-!
# Nested words

A letter opens a scope of some kind, closes one, or does neither.  `WellNested` is the grammar of the words in
which every end closes a begin of its own kind.  A word that follows the rule "an end closes the innermost open
scope" letter by letter is a chain of well-nested words with the open begins between them (`Unclosed`), and
`Pruned` is what is left of such a word when the closed blocks are taken out.
-/

namespace SceneDescription

/-- What a letter does to the nesting of scopes. -/
inductive Side
  | opening (kind : ScopeKind)
  | closing (kind : ScopeKind)
  | plain
  deriving DecidableEq

/-- The kinds of the open scopes behind a letter, innermost first.  An end that does not close the innermost scope
has no continuation. -/
def Side.next (kinds : List ScopeKind) : Side → Option (List ScopeKind)
  | opening kind => some (kind :: kinds)
  | closing kind => if kinds.head? = some kind then some kinds.tail else none
  | plain => some kinds

variable {α β : Type} {side : α → Side}

/-- The well-nested words: each end closes a begin of its own kind. -/
inductive WellNested (side : α → Side) : List α → Prop
  | nil : WellNested side []
  | plain {x : α} {w : List α} (hx : side x = .plain) (hw : WellNested side w) : WellNested side (x :: w)
  | block {kind : ScopeKind} {x y : α} {inner w : List α} (hx : side x = .opening kind)
      (hinner : WellNested side inner) (hy : side y = .closing kind) (hw : WellNested side w) :
      WellNested side (x :: (inner ++ y :: w))

/-- `Pruned side w path`: what is left of `w` when every closed block is taken out, with both its ends. -/
inductive Pruned (side : α → Side) : List α → List α → Prop
  | nil : Pruned side [] []
  | keep {x : α} {w path : List α} (hw : Pruned side w path) (hx : ∀ kind, side x ≠ .closing kind) :
      Pruned side (w ++ [x]) (path ++ [x])
  | block {kind : ScopeKind} {x y : α} {w inner path : List α} (hw : Pruned side w path)
      (hx : side x = .opening kind) (hinner : WellNested side inner) (hy : side y = .closing kind) :
      Pruned side (w ++ x :: (inner ++ [y])) path

/-- The words with open scopes of the given kinds, innermost first: around the open begins stand well-nested
words. -/
def Unclosed (side : α → Side) : List ScopeKind → List α → Prop
  | [], w => WellNested side w
  | kind :: kinds, w =>
    ∃ u x v, w = u ++ x :: v ∧ Unclosed side kinds u ∧ side x = .opening kind ∧ WellNested side v

/-- No object lies inside of another one, at whatever depth. -/
def ObjectsApart (side : α → Side) (w : List α) : Prop :=
  ∀ u x inner y v, w = u ++ x :: (inner ++ y :: v) → side x = .opening .object → WellNested side inner →
    side y = .closing .object → ∀ z ∈ inner, side z ≠ .opening .object

/-! ### Well-nested words -/

private theorem WellNested.append {v w : List α} (hv : WellNested side v) (hw : WellNested side w) :
    WellNested side (v ++ w) := by
  induction hv with
  | nil => exact hw
  | plain hx _ ih => exact .plain hx ih
  | block hx hinner hy _ _ ih =>
    rw [List.cons_append, List.append_assoc, List.cons_append]
    exact .block hx hinner hy ih

theorem WellNested.singleton {x : α} (hx : side x = .plain) : WellNested side [x] :=
  .plain hx .nil

theorem WellNested.enclose {kind : ScopeKind} {x y : α} {inner : List α} (hx : side x = .opening kind)
    (hinner : WellNested side inner) (hy : side y = .closing kind) : WellNested side (x :: (inner ++ [y])) :=
  .block hx hinner hy .nil

/-- Reading every letter as another one of the same side. -/
theorem WellNested.map {f : α → β} {side : β → Side} {w : List α} (h : WellNested (fun x => side (f x)) w) :
    WellNested side (w.map f) := by
  induction h with
  | nil => exact .nil
  | plain hx _ ih => exact .plain hx ih
  | block hx _ hy _ ihInner ih =>
    rw [List.map_cons, List.map_append, List.map_cons]
    exact .block hx ihInner hy ih

theorem ObjectsApart.infix {u v w : List α} (h : ObjectsApart side (u ++ (w ++ v))) : ObjectsApart side w := by
  rintro u' x inner y v' rfl
  exact h (u ++ u') x inner y (v' ++ v) (by simp)

/-! ### Words with open scopes -/

private theorem Unclosed.append {kinds : List ScopeKind} {u v : List α} (hu : Unclosed side kinds u)
    (hv : WellNested side v) : Unclosed side kinds (u ++ v) := by
  cases kinds with
  | nil => exact WellNested.append hu hv
  | cons kind kinds =>
    obtain ⟨t, x, w, rfl, ht, hx, hw⟩ := hu
    exact ⟨t, x, w ++ v, by simp, ht, hx, hw.append hv⟩

/-- A letter after which the innermost scopes still match keeps the word in shape. -/
theorem Unclosed.next {kinds kinds' : List ScopeKind} {w : List α} {x : α} (hw : Unclosed side kinds w)
    (hx : (side x).next kinds = some kinds') : Unclosed side kinds' (w ++ [x]) := by
  cases hside : side x with
  | opening kind =>
    rw [hside, Side.next, Option.some.injEq] at hx
    subst hx
    exact ⟨w, x, [], rfl, hw, hside, .nil⟩
  | plain =>
    rw [hside, Side.next, Option.some.injEq] at hx
    subst hx
    exact hw.append (.singleton hside)
  | closing kind =>
    rw [hside] at hx
    cases kinds with
    | nil => simp [Side.next] at hx
    | cons innermost kinds =>
      simp only [Side.next, List.head?_cons, Option.some.injEq, List.tail_cons,
        Option.ite_none_right_eq_some] at hx
      obtain ⟨rfl, rfl⟩ := hx
      -- the end closes the last open begin, and the block that results joins the word in front of it
      obtain ⟨u, y, v, rfl, hu, hy, hv⟩ := hw
      have := hu.append (hv.enclose hy hside)
      simpa using this

/-! ### Pruned words -/

/-- Behind a pruned word, a well-nested one leaves its outermost plain letters. -/
private theorem Pruned.append {w path v : List α} (hw : Pruned side w path) (hv : WellNested side v) :
    ∃ path', Pruned side (w ++ v) path' := by
  induction hv generalizing w path with
  | nil => exact ⟨path, by simpa using hw⟩
  | @plain x _ hx _ ih =>
    obtain ⟨path', h⟩ := ih (hw.keep (x := x) (by simp [hx]))
    exact ⟨path', by simpa using h⟩
  | block hx hinner hy _ _ ih =>
    obtain ⟨path', h⟩ := ih (hw.block hx hinner hy)
    exact ⟨path', by simpa using h⟩

theorem Unclosed.exists_pruned {kinds : List ScopeKind} {w : List α} (hw : Unclosed side kinds w) :
    ∃ path, Pruned side w path := by
  induction kinds generalizing w with
  | nil => simpa using Pruned.nil.append hw
  | cons kind kinds ih =>
    obtain ⟨u, x, v, rfl, hu, hx, hv⟩ := hw
    obtain ⟨path, hpath⟩ := ih hu
    have := (hpath.keep (x := x) (by simp [hx])).append hv
    simpa using this

end SceneDescription
