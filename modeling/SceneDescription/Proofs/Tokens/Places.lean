import SceneDescription.Proofs.Tokens.Sights

/-!
# Places of lexemes

What a scan finds knows its place: tokens have a line, counted from one, and the reports of lexemes that cannot be
read have a line and the name of the text.
-/

namespace SceneDescription

/-- A report with a line and the name of a text, but without including files. -/
def Report.PlacedIn (source : String) (r : Report Fault) : Prop :=
  r.source = some source ∧ r.chain = [] ∧ r.line.isSome

/-- What a scan of the text of this name can find. -/
def Item.PlacedIn (source : String) : Item → Prop
  | token t => 0 < t.line
  | malformed r => r.PlacedIn source

namespace Scanner

variable {s : Scanner}

/-- What comes next knows its place. -/
def NextPlaced (source : String) : Sight × Scanner → Prop
  | (.finished, _) => True
  | (.stuck r, _) => r.PlacedIn source
  | (.token t, s') => 0 < t.line ∧ s'.source = source ∧ 0 < s'.line
  | (.malformed r, s') => r.PlacedIn source ∧ s'.source = source ∧ 0 < s'.line

private theorem placed_next (hline : 0 < s.line) : NextPlaced s.source s.next := by
  obtain ⟨gap, hmeets⟩ := s.exists_meets_next
  generalize s.next = found at hmeets
  cases hmeets with
  | finished => trivial
  | token => exact ⟨Nat.add_pos_left hline _, rfl, Nat.add_pos_left hline _⟩
  | malformed => exact ⟨⟨rfl, rfl, rfl⟩, rfl, Nat.add_pos_left hline _⟩
  | stuck => exact ⟨rfl, rfl, rfl⟩

theorem placed_scanOnto (found : List Item) (s : Scanner) (hline : 0 < s.line)
    (hfound : ∀ item ∈ found, item.PlacedIn s.source) :
    (∀ item ∈ (s.scanOnto found).1, item.PlacedIn s.source) ∧
      ∀ r, (s.scanOnto found).2 = some r → r.PlacedIn s.source := by
  fun_induction Scanner.scanOnto found s with
  | case1 found s s' h =>
    exact ⟨fun item hitem => hfound item (List.mem_reverse.1 hitem), fun r hr => by cases hr⟩
  | case2 found s r s' h =>
    have hnext := placed_next hline
    rw [h] at hnext
    refine ⟨fun item hitem => hfound item (List.mem_reverse.1 hitem), fun r' hr' => ?_⟩
    cases hr'
    exact hnext
  | case3 found s t s' h ih =>
    have hnext := placed_next hline
    rw [h] at hnext
    obtain ⟨ht, hsource, hline'⟩ := hnext
    rw [hsource] at ih
    refine ih hline' fun item hitem => ?_
    rcases List.mem_cons.1 hitem with rfl | hold
    · exact ht
    · exact hfound item hold
  | case4 found s r s' h ih =>
    have hnext := placed_next hline
    rw [h] at hnext
    obtain ⟨hr, hsource, hline'⟩ := hnext
    rw [hsource] at ih
    refine ih hline' fun item hitem => ?_
    rcases List.mem_cons.1 hitem with rfl | hold
    · exact hr
    · exact hfound item hold

end Scanner

/-- The items of a text and the fault that its scan is stuck at know their place. -/
theorem Cursor.placed_ofText (source : String) (text : List Char) :
    (∀ item ∈ (Cursor.ofText source text).items, item.PlacedIn source) ∧
      ∀ r, (Cursor.ofText source text).stuck = some r → r.PlacedIn source :=
  (Scanner.ofText source text).placed_scanOnto [] Nat.one_pos (by simp)

end SceneDescription
