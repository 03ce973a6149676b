import Mathlib

/-!
# Results that may be faults

A chain of computations gives a result if and only if every link does, and a list of them if and only if every one of
them does; otherwise the first one that fails gives its fault (`mapM_eq_ok`, `mapM_eq_error`).
-/

namespace SceneDescription

variable {ε α β : Type}

theorem bind_eq_ok {first : Except ε α} {next : α → Except ε β} {b : β} :
    first >>= next = .ok b ↔ ∃ a, first = .ok a ∧ next a = .ok b := by
  cases first with
  | error e => simp [bind, Except.bind]
  | ok a =>
    constructor
    · intro h
      exact ⟨a, rfl, h⟩
    · rintro ⟨_, ⟨⟩, h⟩
      exact h

/-- The last link of a chain makes the result and cannot fail. -/
theorem bind_pure_eq_ok {first : Except ε α} {make : α → β} {b : β} :
    (first >>= fun a => pure (make a)) = .ok b ↔ ∃ a, first = .ok a ∧ make a = b := by
  simp [bind_eq_ok, pure, Except.pure]

/-- A chain fails at one of its links. -/
theorem bind_eq_error {first : Except ε α} {next : α → Except ε β} {e : ε} :
    first >>= next = .error e ↔ first = .error e ∨ ∃ a, first = .ok a ∧ next a = .error e := by
  cases first with
  | error e' => simp [bind, Except.bind]
  | ok a => simp [bind, Except.bind]

/-- Two chains give results that agree in some respect if their links do. -/
theorem map_bind_congr {γ δ : Type} {first first' : Except ε α} {next next' : α → Except ε β} {f k : α → γ}
    {m n : β → δ} (hfirst : first.map f = first'.map k)
    (hnext : ∀ a a', f a = k a' → (next a).map m = (next' a').map n) :
    (first >>= next).map m = (first' >>= next').map n := by
  cases first with
  | error e =>
    cases first' with
    | error e' =>
      cases hfirst
      rfl
    | ok a' => cases hfirst
  | ok a =>
    cases first' with
    | error e' => cases hfirst
    | ok a' => exact hnext a a' (Except.ok.inj hfirst)

/-- The same for chains with the same first link. -/
theorem map_bind_congr_next {δ : Type} {first : Except ε α} {next next' : α → Except ε β} {m n : β → δ}
    (hnext : ∀ a, (next a).map m = (next' a).map n) : (first >>= next).map m = (first >>= next').map n := by
  refine map_bind_congr (f := id) (k := id) rfl ?_
  rintro a _ rfl
  exact hnext a

/-- Where two computations agree in some respect, the second gives a result if the first does. -/
theorem exists_ok_of_map_eq {γ : Type} {first : Except ε α} {second : Except ε β} {f : α → γ} {k : β → γ} {a : α}
    (h : first.map f = second.map k) (hfirst : first = .ok a) : ∃ b, second = .ok b ∧ f a = k b := by
  subst hfirst
  cases second with
  | error e => cases h
  | ok b => exact ⟨b, rfl, Except.ok.inj h⟩

/-! ### Lists -/

section Lists

variable {f : α → Except ε β} {as : List α}

theorem mapM_eq_ok {bs : List β} : as.mapM f = .ok bs ↔ List.Forall₂ (fun a b => f a = .ok b) as bs := by
  induction as generalizing bs with
  | nil =>
    rw [List.forall₂_nil_left_iff]
    exact ⟨fun h => (Except.ok.inj h).symm, fun h => congrArg Except.ok h.symm⟩
  | cons a as ih =>
    rw [List.mapM_cons, bind_eq_ok, List.forall₂_cons_left_iff]
    constructor
    · rintro ⟨b, hb, h⟩
      obtain ⟨rest, hrest, rfl⟩ := bind_pure_eq_ok.1 h
      exact ⟨b, rest, hb, ih.1 hrest, rfl⟩
    · rintro ⟨b, rest, hb, hrest, rfl⟩
      exact ⟨b, hb, bind_pure_eq_ok.2 ⟨rest, ih.2 hrest, rfl⟩⟩

theorem exists_ok_of_mapM {bs : List β} (h : as.mapM f = .ok bs) : ∀ a ∈ as, ∃ b, f a = .ok b := by
  induction mapM_eq_ok.1 h with
  | nil => simp
  | cons hfirst hrest ih => exact List.forall_mem_cons.2 ⟨⟨_, hfirst⟩, ih (mapM_eq_ok.2 hrest)⟩

/-- The fault is that of the first element that has one. -/
theorem mapM_eq_error {e : ε} : as.mapM f = .error e ↔
    ∃ front a rest, as = front ++ a :: rest ∧ (∀ b ∈ front, ∃ c, f b = .ok c) ∧ f a = .error e := by
  induction as with
  | nil =>
    constructor
    · intro h
      cases h
    · rintro ⟨front, a, rest, h, _⟩
      exact absurd h (by simp)
  | cons a as ih =>
    rw [List.mapM_cons, bind_eq_error]
    constructor
    · rintro (ha | ⟨b, hb, h⟩)
      · exact ⟨[], a, as, rfl, by simp, ha⟩
      · rcases bind_eq_error.1 h with hrest | ⟨_, _, h⟩
        · obtain ⟨front, a', rest, rfl, hfront, ha'⟩ := ih.1 hrest
          exact ⟨a :: front, a', rest, rfl, List.forall_mem_cons.2 ⟨⟨b, hb⟩, hfront⟩, ha'⟩
        · cases h
    · rintro ⟨front, a', rest, heq, hfront, ha'⟩
      cases front with
      | nil =>
        obtain ⟨rfl, rfl⟩ := List.cons.inj heq
        exact .inl ha'
      | cons b front =>
        obtain ⟨rfl, rfl⟩ := List.cons.inj heq
        obtain ⟨⟨c, hc⟩, hfront⟩ := List.forall_mem_cons.1 hfront
        exact .inr ⟨c, hc, bind_eq_error.2 (.inl (ih.2 ⟨front, a', rest, rfl, hfront, ha'⟩))⟩

end Lists

end SceneDescription
