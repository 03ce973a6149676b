/-!
# A rank for stacks of open files

Reading takes tokens from the innermost file; an include takes tokens and then opens a file of any length; at
its end a file is closed.  No single count goes down at all of these steps, but with a limit on the number of
open files the stack as a whole does: compare the remaining lengths from the outermost file inwards, and count a
place without a file as less than any file.  `Nesting.wellFounded` says that this cannot go down for ever.
-/

namespace SceneDescription

/-- `n` natural numbers, and one more for all that follows. -/
def Ranks : Nat → Type
  | 0 => Nat
  | n + 1 => Nat × Ranks n

namespace Ranks

/-- The lexicographic order. -/
def Below : (n : Nat) → Ranks n → Ranks n → Prop
  | 0 => fun (a b : Nat) => a < b
  | n + 1 => Prod.Lex (· < ·) (Below n)

private theorem wellFounded : (n : Nat) → WellFounded (Below n)
  | 0 => Nat.lt_wfRel.wf
  | n + 1 => (Prod.lex Nat.lt_wfRel ⟨Below n, wellFounded n⟩).wf

/-- The rank of a list of numbers, most significant first.  Places beyond the list count as zero, and numbers
beyond the `n`-th are added up. -/
def ofList : (n : Nat) → List Nat → Ranks n
  | 0, ws => (ws.foldr Nat.add 0 : Nat)
  | n + 1, [] => (0, ofList n [])
  | n + 1, w :: ws => (w, ofList n ws)

/-- The last number goes down. -/
theorem below_of_last_lt (n : Nat) (ws : List Nat) {v w : Nat} (h : v < w) :
    Below n (ofList n (ws ++ [v])) (ofList n (ws ++ [w])) := by
  induction ws generalizing n with
  | nil =>
    cases n with
    | zero => simpa [ofList, Below] using h
    | succ n => exact Prod.Lex.left _ _ h
  | cons x ws ih =>
    cases n with
    | zero =>
      have := ih 0
      simp only [ofList, Below, List.cons_append, List.foldr_cons, Nat.add_eq] at this ⊢
      omega
    | succ n => exact Prod.Lex.right _ (ih n)

/-- A number goes down, and another one comes after it. -/
theorem below_of_lt_of_push (n : Nat) (ws : List Nat) {u v w : Nat} (h : v < w) (hlen : ws.length < n) :
    Below n (ofList n (ws ++ [v, u])) (ofList n (ws ++ [w])) := by
  induction ws generalizing n with
  | nil =>
    cases n with
    | zero => simp at hlen
    | succ n => exact Prod.Lex.left _ _ h
  | cons x ws ih =>
    cases n with
    | zero => simp at hlen
    | succ n => exact Prod.Lex.right _ (ih n (by simpa using hlen))

/-- The last number, which was not zero, is gone. -/
theorem below_of_pop (n : Nat) (ws : List Nat) {w : Nat} (h : 0 < w) :
    Below n (ofList n ws) (ofList n (ws ++ [w])) := by
  induction ws generalizing n with
  | nil =>
    cases n with
    | zero => simpa [ofList, Below] using h
    | succ n => exact Prod.Lex.left _ _ h
  | cons x ws ih =>
    cases n with
    | zero =>
      have := ih 0
      simp only [ofList, Below, List.cons_append, List.foldr_cons, Nat.add_eq] at this ⊢
      omega
    | succ n => exact Prod.Lex.right _ (ih n)

end Ranks

/-- A rank together with the limit on the number of files that it was made for. -/
structure Nesting where
  limit : Nat
  ranks : Ranks limit

namespace Nesting

/-- Ranks are compared under the same limit only. -/
inductive Below : Nesting → Nesting → Prop
  | mk (n : Nat) {a b : Ranks n} (h : Ranks.Below n a b) : Below ⟨n, a⟩ ⟨n, b⟩

theorem wellFounded : WellFounded Below := by
  constructor
  intro ⟨n, a⟩
  induction a using (Ranks.wellFounded n).induction with
  | _ a ih =>
    constructor
    rintro _ ⟨_, h⟩
    exact ih _ h

instance : WellFoundedRelation Nesting := ⟨Below, wellFounded⟩

end Nesting

end SceneDescription
