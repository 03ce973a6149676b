import SceneDescription.Proofs.Tokens.Sights

/-!
# Calls of a scanner

A scanner can be called as often as one likes, also behind a fault.  It always knows its place: what it has passed and
what is still to come make up the text, and its line is one more than the number of line ends it has passed.  A call
passes over a gap and the lexeme behind it, a malformed number too; where it finds the end or cannot go on, all later
calls find the same (`Scanner.calls_keep_place`).
-/

namespace SceneDescription

namespace Scanner

/-- The scanner after a number of calls. -/
def afterCalls (s : Scanner) : Nat → Scanner
  | 0 => s
  | n + 1 => (s.afterCalls n).next.2

/-- What a call comes upon; calls are counted from zero. -/
def answer (s : Scanner) (n : Nat) : Sight :=
  (s.afterCalls n).next.1

/-- How many characters of the text the scanner has passed. -/
def position (text : List Char) (s : Scanner) : Nat :=
  text.length - s.rest.length

def passed (text : List Char) (s : Scanner) : List Char :=
  text.take (s.position text)

/-- The scanner stands in the text of this name, and knows on which line. -/
structure StandsIn (source : String) (text : List Char) (s : Scanner) : Prop where
  named : s.source = source
  split : text = s.passed text ++ s.rest
  lined : s.line = 1 + (s.passed text).count '\n'

/-- What the scanner comes upon in a text when a call leads it from one place to another.  A token or a malformed number
is passed as a whole, and its line is that of its first character; at an obstacle the scanner stops in front of it. -/
inductive Finds (source : String) (text : List Char) (s s' : Scanner) : Sight → Prop
  | finished (hgap : IsGap true s.rest) (hpassed : s'.passed text = text) : Finds source text s s' .finished
  | token {gap : List Char} {t : Token} (hgap : IsGap false gap) (hlexeme : t.lexeme.Valid)
      (hpassed : s'.passed text = s.passed text ++ gap ++ t.describe.toList)
      (hend : t.lexeme.IsBare → EndsRun s'.rest)
      (hline : t.line = 1 + (s.passed text ++ gap).count '\n') : Finds source text s s' (.token t)
  | malformed {gap run : List Char} (hgap : IsGap false gap) (hrun : IsBareRun run)
      (hfirst : ∀ c, run.head? = some c → startsNumber c) (hnumber : run ∉ numberPattern)
      (hpassed : s'.passed text = s.passed text ++ gap ++ run) (hend : EndsRun s'.rest) :
      Finds source text s s' (.malformed
        { cause := .malformedNumber (String.ofList run)
          line := some (1 + (s.passed text ++ gap).count '\n')
          source := some source })
  | stuck {gap : List Char} {fault : Fault} (hgap : IsGap false gap) (hpassed : s'.passed text = s.passed text ++ gap)
      (hfault : Obstructs fault s'.rest) :
      Finds source text s s' (.stuck
        { cause := fault, line := some (1 + (s'.passed text).count '\n'), source := some source })

/-- A call finds what stands in the text, and goes forward: never back, and further on if a lexeme is passed. -/
structure CallKeepsPlace (source : String) (text : List Char) (s s' : Scanner) (found : Sight) : Prop where
  stands : s.StandsIn source text
  stands_after : s'.StandsIn source text
  finds : Finds source text s s' found
  forward : s.position text ≤ s'.position text
  within : s'.position text ≤ text.length
  advances : found.advances → s.position text < s'.position text

variable {source : String} {text : List Char} {s : Scanner}

private theorem passed_eq {front : List Char} (h : text = front ++ s.rest) : s.passed text = front := by
  rw [passed, position, h, List.length_append, Nat.add_sub_cancel, List.take_left]

namespace StandsIn

private theorem passed_beyond (h : s.StandsIn source text) {more rest : List Char} (hrest : s.rest = more ++ rest) :
    (s.beyond more rest).passed text = s.passed text ++ more := by
  refine passed_eq ?_
  rw [List.append_assoc]
  exact h.split.trans (congrArg _ hrest)

private theorem beyond (h : s.StandsIn source text) {more rest : List Char} (hrest : s.rest = more ++ rest) :
    (s.beyond more rest).StandsIn source text := by
  have hpassed := h.passed_beyond hrest
  refine ⟨h.named, ?_, ?_⟩
  · rw [hpassed, List.append_assoc]
    exact h.split.trans (congrArg _ hrest)
  · rw [hpassed, List.count_append, ← Nat.add_assoc, ← h.lined]
    rfl

/-- A call finds what stands in the text behind the scanner's place. -/
private theorem finds_next (h : s.StandsIn source text) : Finds source text s s.next.2 s.next.1 := by
  obtain ⟨gap, hmeets⟩ := s.exists_meets_next
  have hline : s.line + gap.count '\n' = 1 + (s.passed text ++ gap).count '\n' := by
    rw [List.count_append, ← Nat.add_assoc, ← h.lined]
  generalize s.next = found at hmeets
  cases hmeets with
  | finished hrest hgap =>
    have hpassed := h.passed_beyond (hrest.trans (List.append_nil gap).symm)
    rw [← hrest, ← h.split] at hpassed
    exact .finished (hrest ▸ hgap) (hrest ▸ hpassed)
  | token hrest hgap hl _ hend =>
    have hpassed := h.passed_beyond (hrest.trans (List.append_assoc ..).symm)
    rw [← List.append_assoc] at hpassed
    exact .token hgap hl hpassed hend hline
  | malformed hrest hgap hrun hfirst hnumber hend =>
    have hpassed := h.passed_beyond (hrest.trans (List.append_assoc ..).symm)
    rw [← List.append_assoc] at hpassed
    rw [reportBehind, hline, h.named]
    exact .malformed hgap hrun hfirst hnumber hpassed hend
  | stuck hrest hgap hfault =>
    have hpassed := h.passed_beyond hrest
    rw [reportBehind, hline, h.named, ← hpassed]
    exact .stuck hgap hpassed hfault

private theorem next (h : s.StandsIn source text) : s.next.2.StandsIn source text := by
  obtain ⟨more, hrest, hnext⟩ := s.exists_passed
  rw [hnext]
  exact h.beyond hrest

private theorem length_rest_le (h : s.StandsIn source text) : s.rest.length ≤ text.length := by
  rw [h.split, List.length_append]
  exact Nat.le_add_left ..

private theorem callKeepsPlace (h : s.StandsIn source text) : CallKeepsPlace source text s s.next.2 s.next.1 := by
  have hlength := h.length_rest_le
  refine ⟨h, h.next, h.finds_next, ?_, Nat.sub_le .., fun hadvances => ?_⟩
  · obtain ⟨more, hrest, _⟩ := s.exists_passed
    refine Nat.sub_le_sub_left ?_ _
    rw [hrest, List.length_append]
    exact Nat.le_add_left ..
  · have hshrinks := s.next_shrinks hadvances
    unfold position
    omega

end StandsIn

private theorem standsIn_ofText (source : String) (text : List Char) :
    (ofText source text).StandsIn source (withoutMark text) := by
  have hpassed : (ofText source text).passed (withoutMark text) = [] := passed_eq rfl
  exact ⟨rfl, by rw [hpassed]; rfl, by rw [hpassed]; rfl⟩

private theorem standsIn_afterCalls (source : String) (text : List Char) (n : Nat) :
    ((ofText source text).afterCalls n).StandsIn source (withoutMark text) := by
  induction n with
  | zero => exact standsIn_ofText source text
  | succ n ih => exact ih.next

/-! ### Where a scan ends -/

/-- At the end and at an obstacle, the next call finds the same. -/
theorem next_next_of_not_advances (h : s.next.1.advances = false) : s.next.2.next = s.next := by
  obtain ⟨gap, hmeets⟩ := s.exists_meets_next
  generalize s.next = found at h hmeets
  cases hmeets with
  | token => cases h
  | malformed => cases h
  | finished => exact (Meets.finished rfl .nil).next_eq
  | stuck hrest hgap hfault => exact (Meets.stuck rfl .nil hfault).next_eq

private theorem answer_of_not_advances {n m : Nat} (h : (s.answer n).advances = false) (hm : n ≤ m) :
    s.answer m = s.answer n := by
  have hstays : (s.afterCalls m).next = (s.afterCalls n).next := by
    induction m, hm using Nat.le_induction with
    | base => rfl
    | succ m _ ih =>
      have hadvances : (s.afterCalls m).next.1.advances = false := by rw [ih]; exact h
      exact (next_next_of_not_advances hadvances).trans ih
  exact congrArg Prod.fst hstays

/-- Called any number of times, a scanner keeps its place in its text behind the byte-order mark.  Every call goes
forward, and names the line of what it finds; and once a call has found the end or an obstacle, every later call finds
the same. -/
theorem calls_keep_place (source : String) (text : List Char) (n : Nat) :
    CallKeepsPlace source (withoutMark text) ((ofText source text).afterCalls n)
        ((ofText source text).afterCalls (n + 1)) ((ofText source text).answer n) ∧
      (((ofText source text).answer n).advances = false →
        ∀ m, n ≤ m → (ofText source text).answer m = (ofText source text).answer n) :=
  ⟨(standsIn_afterCalls source text n).callKeepsPlace, fun h _ hm => answer_of_not_advances h hm⟩

end Scanner

namespace OpenString

/-- A malformed number, and a string on the next line that is not closed. -/
def text : List Char :=
  "Rotate 1.2.3\n \"open".toList

/-- The second call passes over the number; the third one and all later ones find the open string on the second
line, in front of which the scanner stays. -/
theorem open_string_found_again :
    (Scanner.ofText "<string>" text).answer 1 =
        .malformed { cause := .malformedNumber "1.2.3", line := some 1, source := some "<string>" } ∧
      ((Scanner.ofText "<string>" text).afterCalls 2).position text = 12 ∧
      (∀ m, 2 ≤ m → (Scanner.ofText "<string>" text).answer m =
        .stuck { cause := .unterminatedString, line := some 2, source := some "<string>" }) ∧
      ((Scanner.ofText "<string>" text).afterCalls 3).line = 1 + (text.take 14).count '\n' := by
  have hnumber : (Scanner.ofText "<string>" text).answer 1 =
      .malformed { cause := .malformedNumber "1.2.3", line := some 1, source := some "<string>" } := by cbv
  have hstring : (Scanner.ofText "<string>" text).answer 2 =
      .stuck { cause := .unterminatedString, line := some 2, source := some "<string>" } := by cbv
  have hpassed : ((Scanner.ofText "<string>" text).afterCalls 2).position text = 12 := by cbv
  have hbefore : ((Scanner.ofText "<string>" text).afterCalls 3).position text = 14 := by cbv
  obtain ⟨hplace, hstays⟩ := Scanner.calls_keep_place "<string>" text 2
  refine ⟨hnumber, hpassed, fun m hm => ?_, ?_⟩
  · rw [hstays (by rw [hstring]; rfl) m hm, hstring]
  · have hline := hplace.stands_after.lined
    rwa [Scanner.passed, withoutMark, if_neg (by decide), hbefore] at hline

end OpenString

end SceneDescription
