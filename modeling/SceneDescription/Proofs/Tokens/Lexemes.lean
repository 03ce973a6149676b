import SceneDescription.Proofs.Tokens.Sights

/-!
# What a scan finds

The text of a number is read as its numeral again, and what cannot be read is a finding on a known line.  So a cursor
over a text has nothing else in front of it (`Cursor.sound_ofText`).
-/

namespace SceneDescription

/-- A finding about the scene, on a known line. -/
def Report.Definite (r : Report Fault) : Prop :=
  r.line.isSome ∧ r.cause.isFinding

/-- What can come of a scan: a number has a text that is read as its numeral, and what cannot be read is a definite
finding. -/
def Item.Sound : Item → Prop
  | token t => ∀ numeral, t.lexeme = .number numeral → Numeral.parse? t.text.toList = some numeral
  | malformed r => r.Definite

/-- The same for what a scan comes upon. -/
def Sight.Sound : Sight → Prop
  | finished => True
  | token t => (Item.token t).Sound
  | malformed r | stuck r => r.Definite

namespace Scanner

variable (s : Scanner)

private theorem sound_next : s.next.1.Sound := by
  obtain ⟨gap, hmeets⟩ := s.exists_meets_next
  generalize s.next = found at hmeets
  cases hmeets with
  | finished => trivial
  | token _ _ hl hread =>
    rintro n rfl
    exact hl.parse?_text hread
  | malformed => exact ⟨rfl, rfl⟩
  | stuck _ _ hfault =>
    cases hfault with
    | unterminated | unexpected => exact ⟨rfl, rfl⟩

private theorem sound_scanOnto (found : List Item) (hfound : ∀ item ∈ found, item.Sound) :
    (∀ item ∈ (s.scanOnto found).1, item.Sound) ∧ ∀ r, (s.scanOnto found).2 = some r → r.Definite := by
  fun_induction Scanner.scanOnto found s with
  | case1 found s s' h => exact ⟨fun item hitem => hfound item (List.mem_reverse.1 hitem), by simp⟩
  | case2 found s r s' h =>
    have hnext := s.sound_next
    rw [h] at hnext
    refine ⟨fun item hitem => hfound item (List.mem_reverse.1 hitem), ?_⟩
    rintro _ ⟨⟩
    exact hnext
  | case3 found s t s' h ih =>
    have hnext := s.sound_next
    rw [h] at hnext
    exact ih (List.forall_mem_cons.2 ⟨hnext, hfound⟩)
  | case4 found s r s' h ih =>
    have hnext := s.sound_next
    rw [h] at hnext
    exact ih (List.forall_mem_cons.2 ⟨hnext, hfound⟩)

end Scanner

/-- What a cursor has in front of it has come of a scan. -/
structure Cursor.Sound (c : Cursor) : Prop where
  items : ∀ item ∈ c.items, item.Sound
  stuck : ∀ r, c.stuck = some r → r.Definite

theorem Cursor.sound_ofText (source : String) (text : List Char) : (Cursor.ofText source text).Sound := by
  obtain ⟨hitems, hstuck⟩ := (Scanner.ofText source text).sound_scanOnto [] (by simp)
  exact ⟨hitems, hstuck⟩

end SceneDescription
