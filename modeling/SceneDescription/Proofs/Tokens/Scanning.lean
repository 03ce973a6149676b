import SceneDescription.Proofs.Splicing.Spliced
import SceneDescription.Proofs.Tokens.Places
import SceneDescription.Proofs.Tokens.Sights

/-!
# Scanning the same text elsewhere

What a scan finds does not depend on the name of the text, nor on the line it starts on: a scanner with another name,
some lines further down, finds the same lexemes as many lines further down (`Scanner.scan_moved`).  And a text that
can be scanned to its end can be scanned in front of a line end and any other text, which is then scanned as if
it stood alone, only further down (`Scanner.scanned_one_behind_the_other`).
-/

namespace SceneDescription

/-! ### Other names and lines -/

/-- The token some lines further down. -/
def Token.down (lines : Nat) (t : Token) : Token :=
  { t with line := t.line + lines }

/-- A report for a text of another name, some lines further down. -/
def Report.moved {α : Type} (source : String) (lines : Nat) (r : Report α) : Report α :=
  { r with line := r.line.map (· + lines), source := some source }

def Sight.moved (source : String) (lines : Nat) : Sight → Sight
  | .finished => .finished
  | .token t => .token (t.down lines)
  | .malformed r => .malformed (r.moved source lines)
  | .stuck r => .stuck (r.moved source lines)

def Item.moved (source : String) (lines : Nat) : Item → Item
  | .token t => .token (t.down lines)
  | .malformed r => .malformed (r.moved source lines)

namespace Scanner

/-- A scanner in a text of another name, some lines further down. -/
def moved (source : String) (lines : Nat) (s : Scanner) : Scanner :=
  { s with source, line := s.line + lines }

variable (source : String) (lines : Nat) (s : Scanner)

private theorem beyond_moved (passed rest : List Char) :
    (s.moved source lines).beyond passed rest = (s.beyond passed rest).moved source lines := by
  rw [beyond, moved, beyond, moved, Nat.add_right_comm]

private theorem reportBehind_moved (gap : List Char) (fault : Fault) :
    (s.moved source lines).reportBehind gap fault = (s.reportBehind gap fault).moved source lines := by
  rw [reportBehind, moved, Nat.add_right_comm]
  rfl

variable {s} in
private theorem Meets.moved {gap : List Char} {sight : Sight} {s' : Scanner} (h : s.Meets gap (sight, s')) :
    (s.moved source lines).Meets gap (sight.moved source lines, s'.moved source lines) := by
  cases h with
  | finished hrest hgap =>
    rw [← beyond_moved]
    exact .finished hrest hgap
  | @token l rest hrest hgap hl hread hend =>
    have hmeets := Meets.token (s := s.moved source lines) hrest hgap hl hread hend
    rwa [beyond_moved, Scanner.moved, Nat.add_right_comm] at hmeets
  | malformed hrest hgap hrun hfirst hnumber hend =>
    have hmeets := Meets.malformed (s := s.moved source lines) hrest hgap hrun hfirst hnumber hend
    rwa [beyond_moved, reportBehind_moved] at hmeets
  | stuck hrest hgap hfault =>
    have hmeets := Meets.stuck (s := s.moved source lines) hrest hgap hfault
    rwa [beyond_moved, reportBehind_moved] at hmeets

private theorem next_moved :
    (s.moved source lines).next = (s.next.1.moved source lines, s.next.2.moved source lines) := by
  obtain ⟨gap, hmeets⟩ := s.exists_meets_next
  exact (hmeets.moved source lines).next_eq

/-- The equation of the scan, without the proof that it ends. -/
theorem scanOnto_eq (found : List Item) :
    s.scanOnto found = match s.next with
      | (.finished, _) => (found.reverse, none)
      | (.stuck r, _) => (found.reverse, some r)
      | (.token t, s') => s'.scanOnto (.token t :: found)
      | (.malformed r, s') => s'.scanOnto (.malformed r :: found) := by
  rw [scanOnto]
  split <;> rename_i h <;> rw [h]

private theorem scanOnto_moved (found : List Item) (s : Scanner) :
    (s.moved source lines).scanOnto (found.map (Item.moved source lines)) =
      ((s.scanOnto found).1.map (Item.moved source lines),
        (s.scanOnto found).2.map (Report.moved source lines)) := by
  fun_induction Scanner.scanOnto found s with
  | case1 found s s' h =>
    rw [scanOnto_eq, next_moved, h]
    simp [Sight.moved]
  | case2 found s r s' h =>
    rw [scanOnto_eq, next_moved, h]
    simp [Sight.moved]
  | case3 found s t s' h ih =>
    rw [scanOnto_eq, next_moved, h]
    exact ih
  | case4 found s r s' h ih =>
    rw [scanOnto_eq, next_moved, h]
    exact ih

theorem scan_moved : (s.moved source lines).scan =
    (s.scan.1.map (Item.moved source lines), s.scan.2.map (Report.moved source lines)) :=
  s.scanOnto_moved source lines []

private theorem exists_tokens_of_moved {items : List Item} {tokens : List Token}
    (h : items.map (Item.moved source lines) = tokens.map .token) :
    ∃ first : List Token, items = first.map .token ∧ first.map (·.lexeme) = tokens.map (·.lexeme) := by
  induction items generalizing tokens with
  | nil =>
    obtain rfl : tokens = [] := List.map_eq_nil_iff.1 h.symm
    exact ⟨[], rfl, rfl⟩
  | cons item items ih =>
    obtain ⟨t, more, rfl, htoken, hmore⟩ := List.map_eq_cons_iff.1 h.symm
    obtain ⟨first, rfl, hlexemes⟩ := ih hmore.symm
    cases item with
    | malformed r => cases htoken
    | token u =>
      cases htoken
      exact ⟨u :: first, rfl, by rw [List.map_cons, List.map_cons, hlexemes]; rfl⟩

/-- The lexemes of a text do not depend on the line it starts on. -/
theorem exists_tokens_on_line {rest : List Char} {line : Nat} {tokens : List Token}
    (h : (Scanner.mk source rest line).scan = (tokens.map .token, none)) (line' : Nat) :
    ∃ tokens' : List Token, (Scanner.mk source rest line').scan = (tokens'.map .token, none) ∧
      tokens'.map (·.lexeme) = tokens.map (·.lexeme) := by
  have hmoved : ∀ n, (Scanner.mk source rest n).scan =
      ((Scanner.mk source rest 0).scan.1.map (Item.moved source n),
        (Scanner.mk source rest 0).scan.2.map (Report.moved source n)) := by
    intro n
    rw [← scan_moved, moved, Nat.zero_add]
  rw [hmoved line] at h
  obtain ⟨hitems, hstuck⟩ := Prod.mk.inj h
  obtain ⟨first, hfirst, hlexemes⟩ := exists_tokens_of_moved _ _ hitems
  refine ⟨first.map (Token.down line'), ?_, ?_⟩
  · rw [hmoved line', hfirst, Option.map_eq_none_iff.1 hstuck, List.map_map, List.map_map]
    rfl
  · rw [← hlexemes, List.map_map]
    rfl

/-! ### Other texts behind -/

/-- The scanner with a line end and another text behind its own. -/
def before (later : List Char) (s : Scanner) : Scanner :=
  { s with rest := s.rest ++ '\n' :: later }

variable (later : List Char)

/-- What can be passed, or holds up the scan on its own line, does so in front of a line end. -/
private theorem Meets.before {s s' : Scanner} {gap : List Char} {sight : Sight} (h : s.Meets gap (sight, s'))
    (hfinished : sight ≠ .finished) (hquote : ∀ r, sight = .stuck r → r.cause ≠ .unterminatedString) :
    (s.before later).Meets gap (sight, s'.before later) := by
  have hbehind {front rest : List Char} (hrest : s.rest = front ++ rest) :
      (s.before later).rest = front ++ (rest ++ '\n' :: later) := by
    rw [Scanner.before, hrest, List.append_assoc]
  have hends {rest : List Char} (hend : EndsRun rest) : EndsRun (rest ++ '\n' :: later) := by
    cases rest with
    | nil =>
      rintro _ ⟨⟩
      decide
    | cons c rest => exact hend
  cases h with
  | finished => contradiction
  | token hrest hgap hl hread hend =>
    refine .token ?_ hgap hl hread fun hbare => hends (hend hbare)
    rw [hbehind hrest, List.append_assoc]
    rfl
  | malformed hrest hgap hrun hfirst hnumber hend =>
    refine .malformed ?_ hgap hrun hfirst hnumber (hends hend)
    rw [hbehind hrest, List.append_assoc]
    rfl
  | stuck hrest hgap hfault =>
    refine .stuck (hbehind hrest) hgap ?_
    cases hfault with
    | unterminated => exact absurd rfl (hquote _ rfl)
    | @unexpected run rest c hprintable hrun hc hend =>
      show Obstructs _ (run ++ c :: rest ++ '\n' :: later)
      rw [List.append_assoc]
      exact .unexpected hprintable hrun hc hend

private theorem next_before {r : Sight} {s s' : Scanner} (h : s.next = (r, s')) (hfinished : r ≠ .finished)
    (hquote : ∀ report, r = .stuck report → report.cause ≠ .unterminatedString) :
    (s.before later).next = (r, s'.before later) := by
  obtain ⟨gap, hmeets⟩ := s.exists_meets_next
  rw [h] at hmeets
  exact (hmeets.before later hfinished hquote).next_eq

/-- The line that the text ends on. -/
def lastLine (s : Scanner) : Nat :=
  s.line + s.rest.count '\n'

theorem source_next : s.next.2.source = s.source := by
  obtain ⟨passed, _, hnext⟩ := s.exists_passed
  rw [hnext]
  rfl

private theorem lastLine_next : s.next.2.lastLine = s.lastLine := by
  obtain ⟨passed, hrest, hnext⟩ := s.exists_passed
  rw [hnext, lastLine, lastLine, hrest, List.count_append, ← Nat.add_assoc]
  rfl

/-- At the end of its own text, the scanner goes on with the text behind. -/
private theorem next_before_of_finished {s s' : Scanner} (h : s.next = (.finished, s')) :
    (s.before later).next = (Scanner.mk s.source later (s.lastLine + 1)).next := by
  obtain ⟨gap, hmeets⟩ := s.exists_meets_next
  rw [h] at hmeets
  cases hmeets with
  | finished hrest hgap =>
    obtain ⟨more, rest, rfl, hmore, hopens⟩ := exists_gap later
    have hbehind : (s.before (more ++ rest)).rest = (gap ++ '\n' :: more) ++ rest := by
      rw [before, hrest, List.append_assoc, List.cons_append]
    have hline : s.line + (gap ++ '\n' :: more).count '\n' = s.lastLine + 1 + more.count '\n' := by
      rw [lastLine, hrest, List.count_append, List.count_cons_self]
      omega
    rw [next_behind hbehind (hgap.append_lineEnd hmore) hopens, next_behind rfl hmore hopens]
    exact congrArg (fun line => (Scanner.mk s.source rest line).lexeme) hline

theorem scanOnto_append (found earlier : List Item) (s : Scanner) :
    s.scanOnto (found ++ earlier) = (earlier.reverse ++ (s.scanOnto found).1, (s.scanOnto found).2) := by
  fun_induction Scanner.scanOnto found s with
  | case1 found s s' h =>
    rw [scanOnto_eq, h, List.reverse_append]
  | case2 found s r s' h =>
    rw [scanOnto_eq, h, List.reverse_append]
  | case3 found s t s' h ih =>
    rw [scanOnto_eq, h]
    exact ih
  | case4 found s r s' h ih =>
    rw [scanOnto_eq, h]
    exact ih

theorem scan_of_finished {s s' : Scanner} (h : s.next = (.finished, s')) : s.scan = ([], none) := by
  rw [scan, scanOnto_eq, h]
  rfl

theorem scan_of_token {s s' : Scanner} {t : Token} (h : s.next = (.token t, s')) :
    s.scan = (.token t :: s'.scan.1, s'.scan.2) := by
  rw [scan, scanOnto_eq, h]
  exact s'.scanOnto_append [] [.token t]

theorem scan_of_malformed {s s' : Scanner} {r : Report Fault} (h : s.next = (.malformed r, s')) :
    s.scan = (.malformed r :: s'.scan.1, s'.scan.2) := by
  rw [scan, scanOnto_eq, h]
  exact s'.scanOnto_append [] [.malformed r]

theorem scan_of_stuck {s s' : Scanner} {r : Report Fault} (h : s.next = (.stuck r, s')) : s.scan = ([], some r) := by
  rw [scan, scanOnto_eq, h]
  rfl

/-- A text that can be scanned to its end can be scanned in front of a line end and any other text, which is then
scanned from the next line on. -/
private theorem scanOnto_before (found : List Item) (s : Scanner) (hend : (s.scanOnto found).2 = none) :
    (s.before later).scanOnto found = ((s.scanOnto found).1 ++ (Scanner.mk s.source later (s.lastLine + 1)).scan.1,
      (Scanner.mk s.source later (s.lastLine + 1)).scan.2) := by
  have hnext {sight : Sight} {s s' : Scanner} (h : s.next = (sight, s')) :
      s'.source = s.source ∧ s'.lastLine = s.lastLine := by
    rw [← s.source_next, ← s.lastLine_next, h]
    exact ⟨rfl, rfl⟩
  fun_induction Scanner.scanOnto found s with
  | case1 found s s' h =>
    rw [scanOnto_eq, next_before_of_finished later h, ← scanOnto_eq, ← List.nil_append found, scanOnto_append]
    rfl
  | case2 found s r s' h => contradiction
  | case3 found s t s' h ih =>
    obtain ⟨hsource, hline⟩ := hnext h
    rw [scanOnto_eq, next_before later h (by simp) (by simp), ← hsource, ← hline]
    exact ih hend
  | case4 found s r s' h ih =>
    obtain ⟨hsource, hline⟩ := hnext h
    rw [scanOnto_eq, next_before later h (by simp) (by simp), ← hsource, ← hline]
    exact ih hend

/-- In front of a line end and another text, a scan finds more behind what it finds in its own text, or is stuck in
that at the same place.  What it was stuck at is passed only if it is a string without its closing quote. -/
theorem scanOnto_before_cases (found : List Item) (s : Scanner) :
    (∃ more stuck, (s.before later).scanOnto found = ((s.scanOnto found).1 ++ more, stuck) ∧
      ∀ r, (s.scanOnto found).2 = some r → r.cause = .unterminatedString) ∨
    (s.before later).scanOnto found = s.scanOnto found := by
  have hmore (t : Scanner) (found : List Item) :
      ∃ more stuck, t.scanOnto found = (found.reverse ++ more, stuck) :=
    ⟨_, _, t.scanOnto_append [] found⟩
  fun_induction Scanner.scanOnto found s with
  | case1 found s s' h =>
    obtain ⟨more, stuck, hscan⟩ := hmore (s.before later) found
    exact .inl ⟨more, stuck, hscan, by simp⟩
  | case2 found s r s' h =>
    by_cases hcause : r.cause = .unterminatedString
    · obtain ⟨more, stuck, hscan⟩ := hmore (s.before later) found
      refine .inl ⟨more, stuck, hscan, ?_⟩
      rintro _ ⟨⟩
      exact hcause
    · refine .inr ?_
      rw [scanOnto_eq, next_before later h (by simp)]
      rintro _ ⟨⟩
      exact hcause
  | case3 found s t s' h ih =>
    rw [scanOnto_eq, next_before later h (by simp) (by simp)]
    exact ih
  | case4 found s r s' h ih =>
    rw [scanOnto_eq, next_before later h (by simp) (by simp)]
    exact ih

theorem ofText_append (text : List Char) :
    ofText source (text ++ '\n' :: later) = (ofText source text).before later := by
  cases text with
  | nil => rfl
  | cons c text =>
    by_cases hmark : c = '\ufeff' <;> simp [ofText, before, hmark]

private theorem lastLine_ofText (text : List Char) : (ofText source text).lastLine = 1 + text.count '\n' := by
  have hmark : (if text.head? = some '\ufeff' then text.tail else text).count '\n' = text.count '\n' := by
    split
    · rename_i h
      obtain ⟨rest, rfl⟩ := List.head?_eq_some_iff.1 h
      rw [List.tail_cons, List.count_cons_of_ne (by decide)]
    · rfl
  rw [lastLine, ofText, hmark]

/-- Behind a text of tokens, another text is scanned from the next line on. -/
private theorem scan_ofText_append {text : List Char} {tokens : List Token}
    (h : (Cursor.ofText source text).Over tokens) : (ofText source (text ++ '\n' :: later)).scan =
      (tokens.map .token ++ (Scanner.mk source later (1 + text.count '\n' + 1)).scan.1,
        (Scanner.mk source later (1 + text.count '\n' + 1)).scan.2) := by
  have hitems : ((ofText source text).scanOnto []).1 = tokens.map .token := h.1
  rw [ofText_append, scan, scanOnto_before later [] _ h.2, hitems, lastLine_ofText]
  rfl

end Scanner

/-- What a text holds does not depend on its name. -/
theorem Cursor.over_ofText_congr {source source' : String} {text : List Char} {tokens : List Token}
    (h : (Cursor.ofText source text).Over tokens) : (Cursor.ofText source' text).Over tokens := by
  have hscan := (Scanner.ofText source text).scan_moved source' 0
  have hsame : (Scanner.ofText source text).moved source' 0 = Scanner.ofText source' text := rfl
  rw [hsame] at hscan
  unfold Over Cursor.ofText at h ⊢
  dsimp only at h ⊢
  rw [hscan, h.1, h.2, List.map_map]
  exact ⟨rfl, rfl⟩

/-- Where a text of tokens stands in front of a line end and another text, there are only tokens if and only if there
are only tokens in the other text, scanned from some line on. -/
theorem Cursor.exists_line_ofText_append {source : String} {text : List Char} {tokens : List Token}
    (h : (Cursor.ofText source text).Over tokens) :
    ∃ line, ∀ later all, (Cursor.ofText source (text ++ '\n' :: later)).Over all ↔
      ∃ extra, all = tokens ++ extra ∧ (Scanner.mk source later line).scan = (extra.map .token, none) := by
  refine ⟨1 + text.count '\n' + 1, fun later all => ?_⟩
  unfold Over Cursor.ofText
  dsimp only
  rw [Scanner.scan_ofText_append source later h]
  constructor
  · rintro ⟨hall, hstuck⟩
    obtain ⟨extra, rfl, hextra⟩ := exists_rest_of_taken hall.symm
    exact ⟨extra, rfl, Prod.ext hextra hstuck⟩
  · rintro ⟨extra, rfl, hextra⟩
    rw [hextra, List.map_append]
    exact ⟨rfl, rfl⟩

/-! ### Texts one behind the other -/

/-- A report some lines further down. -/
def Report.down {α : Type} (lines : Nat) (r : Report α) : Report α :=
  { r with line := r.line.map (· + lines) }

def Item.down (lines : Nat) : Item → Item
  | .token t => .token (t.down lines)
  | .malformed r => .malformed (r.down lines)

/-- A report that names its text only moves down when the text does. -/
private theorem Report.PlacedIn.moved_eq {source : String} {r : Report Fault} (h : r.PlacedIn source) (lines : Nat) :
    r.moved source lines = r.down lines := by
  obtain ⟨cause, line, source', chain⟩ := r
  obtain rfl : source' = some source := h.1
  rfl

namespace Scanner

/-- Some lines further down, a text is scanned the same, some lines further down. -/
private theorem scan_down (source : String) (text : List Char) {line : Nat} (hline : 0 < line) (lines : Nat) :
    (Scanner.mk source text (line + lines)).scan =
      ((Scanner.mk source text line).scan.1.map (Item.down lines),
        (Scanner.mk source text line).scan.2.map (Report.down lines)) := by
  obtain ⟨hitems, hstuck⟩ := placed_scanOnto [] (Scanner.mk source text line) hline (by simp)
  refine (scan_moved source lines (Scanner.mk source text line)).trans (Prod.ext ?_ ?_)
  · refine List.map_congr_left fun item hitem => ?_
    cases item with
    | token t => rfl
    | malformed r => exact congrArg Item.malformed ((hitems _ hitem).moved_eq lines)
  · exact Option.map_congr fun r hr => (hstuck r hr).moved_eq lines

/-- The tokens of a text that is scanned as tokens with another scan behind them. -/
private theorem tokens_of_scan {s s' : Scanner} {tokens : List Token} {lines : Nat}
    (h : s.scan = (tokens.map .token ++ s'.scan.1.map (Item.down lines), s'.scan.2.map (Report.down lines))) :
    s.tokens = (s'.tokens.map fun more => tokens ++ more.map (Token.down lines)).mapError (Report.down lines) := by
  have hfault : ∀ items : List Item, (items.map (Item.down lines)).findSome? Item.fault? =
      (items.findSome? Item.fault?).map (Report.down lines) := by
    intro items
    rw [List.findSome?_map, List.map_findSome?]
    refine congrArg (List.findSome? · items) (funext fun item => ?_)
    cases item <;> rfl
  have htoken : ∀ items : List Item, (items.map (Item.down lines)).filterMap Item.token? =
      (items.filterMap Item.token?).map (Token.down lines) := by
    intro items
    rw [List.filterMap_map, List.map_filterMap]
    refine congrArg (List.filterMap · items) (funext fun item => ?_)
    cases item <;> rfl
  have hnone : (tokens.map Item.token).findSome? Item.fault? = none := by simp [Item.fault?]
  have hall : (tokens.map Item.token).filterMap Item.token? = tokens := by
    rw [List.filterMap_map]
    exact List.filterMap_some
  unfold Scanner.tokens
  rw [h]
  dsimp only
  rw [List.findSome?_append, hnone, hfault, List.filterMap_append, hall, htoken]
  cases s'.scan.1.findSome? Item.fault? with
  | some r => rfl
  | none => cases s'.scan.2 <;> rfl

/-- A text of tokens, a line end, and another text behind them: the scan finds the tokens, and then all that it would
find in the other text alone, tokens and faults, as many lines further down as stand in front of it.  So the tokens of
both texts follow on one another, or the first fault of the other text is found. -/
theorem scanned_one_behind_the_other {source : String} {text later : List Char} {tokens : List Token}
    (h : (Scanner.ofText source text).tokens = .ok tokens) (hmark : later.head? ≠ some '\ufeff') :
    (Scanner.ofText source (text ++ '\n' :: later)).scan =
        (tokens.map .token ++ (Scanner.ofText source later).scan.1.map (Item.down (1 + text.count '\n')),
          (Scanner.ofText source later).scan.2.map (Report.down (1 + text.count '\n'))) ∧
      (Scanner.ofText source (text ++ '\n' :: later)).tokens =
        ((Scanner.ofText source later).tokens.map fun more =>
          tokens ++ more.map (Token.down (1 + text.count '\n'))).mapError (Report.down (1 + text.count '\n')) := by
  have hstart : Scanner.ofText source later = ⟨source, later, 1⟩ := by
    rw [ofText, if_neg hmark]
  have hscan := scan_ofText_append source later (Cursor.over_ofText_iff.2 h)
  rw [Nat.add_comm _ 1, scan_down source later Nat.one_pos, ← hstart] at hscan
  exact ⟨hscan, tokens_of_scan hscan⟩

end Scanner

namespace BrokenBehindComment

/-- A text with a string over two lines, which ends in a comment. -/
def text : List Char :=
  "Shape \"a\nb\" # the end".toList

/-- A text with a malformed number and a string that is not closed. -/
def later : List Char :=
  "Rotate\n1.2.3 \"open".toList

/-- The malformed number is found on the fourth line, behind the tokens of both texts. -/
theorem malformed_on_fourth_line :
    (Scanner.ofText "<string>" (text ++ '\n' :: later)).scan =
      ([.token ⟨.identifier "Shape", 1⟩, .token ⟨.quoted "a\nb", 1⟩, .token ⟨.identifier "Rotate", 3⟩,
        .malformed { cause := .malformedNumber "1.2.3", line := some 4, source := some "<string>" }],
        some { cause := .unterminatedString, line := some 4, source := some "<string>" }) := by
  have h : (Scanner.ofText "<string>" text).tokens = .ok [⟨.identifier "Shape", 1⟩, ⟨.quoted "a\nb", 1⟩] := by cbv
  have hlater : (Scanner.ofText "<string>" later).scan =
      ([.token ⟨.identifier "Rotate", 1⟩,
        .malformed { cause := .malformedNumber "1.2.3", line := some 2, source := some "<string>" }],
        some { cause := .unterminatedString, line := some 2, source := some "<string>" }) := by cbv
  have hcount : text.count '\n' = 1 := by decide
  rw [(Scanner.scanned_one_behind_the_other h (by decide)).1, hlater, hcount]
  rfl

end BrokenBehindComment

end SceneDescription
