import SceneDescription.Proofs.Tokens.Grammar

/-!
# What a scan comes upon

A call of the scanner passes over a gap and comes upon the lexeme or the obstacle behind it, or upon the end.
`Scanner.Meets` says what can be met, in terms of the text alone.  One of these cases holds in every text
(`Scanner.exists_meets`), and whichever holds, the call gives its answer (`Scanner.Meets.next_eq`).
-/

namespace SceneDescription

namespace Scanner

/-! ### Gaps are skipped -/

section Gaps

variable {line : Nat} {c : Char} {content gap rest text : List Char}

private theorem skipGap_cons (comment : Bool) (line : Nat) (c : Char) (rest : List Char) :
    skipGap comment line (c :: rest) =
    if c = '\n' then skipGap false (line + 1) rest
    else if comment then skipGap true line rest
    else if isGapBlank c then skipGap false line rest
    else if c = '#' then skipGap true line rest
    else (c :: rest, line) := rfl

private theorem skipGap_of_not_opensGap (hc : opensGap c = false) :
    skipGap false line (c :: rest) = (c :: rest, line) := by
  simp only [opensGap, Bool.or_eq_false_iff, decide_eq_false_iff_not] at hc
  rw [skipGap_cons, if_neg hc.1.2, if_neg Bool.false_ne_true, hc.1.1, if_neg Bool.false_ne_true, if_neg hc.2]

/-- A comment goes on to the next line end. -/
private theorem skipGap_comment (hcontent : '\n' ∉ content) :
    skipGap true line (content ++ '\n' :: rest) = skipGap false (line + 1) rest := by
  induction content with
  | nil => rfl
  | cons c content ih =>
    obtain ⟨hc, hcontent⟩ := not_or.1 (List.mem_cons.not.1 hcontent)
    rw [List.cons_append, skipGap_cons, if_neg (Ne.symm hc), if_pos rfl]
    exact ih hcontent

private theorem skipGap_unfinished (hcontent : '\n' ∉ content) : skipGap true line content = ([], line) := by
  induction content with
  | nil => rfl
  | cons c content ih =>
    obtain ⟨hc, hcontent⟩ := not_or.1 (List.mem_cons.not.1 hcontent)
    rw [skipGap_cons, if_neg (Ne.symm hc), if_pos rfl]
    exact ih hcontent

/-- A gap is skipped up to the end of the text, or to a character that does not belong to a gap. -/
private theorem skipGap_gap (hgap : IsGap rest.isEmpty gap) (hrest : ∀ c, rest.head? = some c → opensGap c = false) :
    skipGap false line (gap ++ rest) = (rest, line + gap.count '\n') := by
  induction hgap generalizing line with
  | nil =>
    cases rest with
    | nil => rfl
    | cons c rest => exact skipGap_of_not_opensGap (hrest c rfl)
  | @blank c gap hc hgap ih =>
    rw [List.cons_append, skipGap_cons]
    by_cases hend : c = '\n'
    · subst hend
      rw [if_pos rfl, ih, List.count_cons_self]
      exact Prod.ext rfl (by dsimp only; omega)
    · rw [if_neg hend, if_neg Bool.false_ne_true, if_pos (hc.resolve_right hend), ih,
        List.count_cons_of_ne hend]
  | @comment content gap hcontent hgap ih =>
    have hcount : ('#' :: (content ++ '\n' :: gap)).count '\n' = gap.count '\n' + 1 := by
      rw [List.count_cons_of_ne (by decide), List.count_append, List.count_eq_zero.2 hcontent, List.count_cons_self,
        Nat.zero_add]
    have hopen : skipGap false line ('#' :: (content ++ '\n' :: (gap ++ rest))) =
        skipGap true line (content ++ '\n' :: (gap ++ rest)) := rfl
    rw [List.cons_append, List.append_assoc, List.cons_append, hopen, skipGap_comment hcontent, ih, hcount]
    exact Prod.ext rfl (by dsimp only; omega)
  | @unfinished content hend hcontent =>
    obtain rfl := List.isEmpty_iff.1 hend
    have hcount : ('#' :: content).count '\n' = 0 := by
      rw [List.count_cons_of_ne (by decide), List.count_eq_zero.2 hcontent]
    have hopen : skipGap false line ('#' :: content) = skipGap true line content := rfl
    rw [List.append_nil, hopen, skipGap_unfinished hcontent, hcount, Nat.add_zero]

end Gaps

/-! ### Where runs and strings end -/

section Spans

variable {rest : List Char}

private theorem span_run {run : List Char} (hrun : ∀ c ∈ run, isDelimiter c = false) (hend : EndsRun rest) :
    (run ++ rest).takeWhile (!isDelimiter ·) = run ∧ (run ++ rest).dropWhile (!isDelimiter ·) = rest :=
  span_append (by simpa using hrun) fun c hc => by simp [hend c hc]

private theorem span_quoted {content : List Char} (hcontent : '\x22' ∉ content) (rest : List Char) :
    (content ++ '\x22' :: rest).takeWhile (· ≠ '\x22') = content ∧
      (content ++ '\x22' :: rest).dropWhile (· ≠ '\x22') = '\x22' :: rest := by
  refine span_append (fun c hc => ?_) ?_
  · simpa using ne_of_mem_of_not_mem hc hcontent
  · rintro _ ⟨⟩
    rfl

end Spans

/-- The scanner further on: behind the passed text, in front of the rest. -/
def beyond (s : Scanner) (passed rest : List Char) : Scanner :=
  { s with rest, line := s.line + passed.count '\n' }

/-- A fault that is found behind a gap. -/
def reportBehind (s : Scanner) (gap : List Char) (fault : Fault) : Report Fault :=
  { cause := fault, line := some (s.line + gap.count '\n'), source := some s.source }

end Scanner

/-- What a call can come upon behind a gap, and where it leaves the scanner. -/
inductive Scanner.Meets (s : Scanner) (gap : List Char) : Sight × Scanner → Prop
  | finished (hrest : s.rest = gap) (hgap : IsGap true gap) : s.Meets gap (.finished, s.beyond gap [])
  | token {l : Lexeme} {rest : List Char} (hrest : s.rest = gap ++ (l.describe.toList ++ rest))
      (hgap : IsGap false gap) (hl : l.Valid) (hread : l.reread = l) (hend : l.IsBare → EndsRun rest) :
      s.Meets gap (.token ⟨l, s.line + gap.count '\n'⟩, s.beyond (gap ++ l.describe.toList) rest)
  | malformed {run rest : List Char} (hrest : s.rest = gap ++ (run ++ rest)) (hgap : IsGap false gap)
      (hrun : IsBareRun run) (hfirst : ∀ c, run.head? = some c → startsNumber c) (hnumber : run ∉ numberPattern)
      (hend : EndsRun rest) :
      s.Meets gap (.malformed (s.reportBehind gap (.malformedNumber (String.ofList run))), s.beyond (gap ++ run) rest)
  | stuck {fault : Fault} {rest : List Char} (hrest : s.rest = gap ++ rest) (hgap : IsGap false gap)
      (hfault : Obstructs fault rest) : s.Meets gap (.stuck (s.reportBehind gap fault), s.beyond gap rest)

namespace Scanner

variable {s : Scanner} {gap rest : List Char}

theorem next_behind (hrest : s.rest = gap ++ rest) (hgap : IsGap rest.isEmpty gap)
    (hopens : ∀ c, rest.head? = some c → opensGap c = false) : s.next = (s.beyond gap rest).lexeme := by
  unfold next pastGap
  rw [hrest, skipGap_gap hgap hopens]
  rfl

/-! ### What stands in a text is found -/

private theorem beyond_beyond (gap passed front rest : List Char) :
    (s.beyond gap front).beyond passed rest = s.beyond (gap ++ passed) rest := by
  simp [beyond, Nat.add_assoc]

private theorem beyond_append {more : List Char} (hmore : '\n' ∉ more) :
    s.beyond (gap ++ more) rest = s.beyond gap rest := by
  rw [beyond, List.count_append, List.count_eq_zero.2 hmore]
  rfl

/-- The quotes of a string add no line ends. -/
private theorem beyond_quoted (content : String) : s.beyond (gap ++ (Lexeme.quoted content).describe.toList) rest =
    { s.beyond gap rest with line := s.line + gap.count '\n' + content.toList.count '\n' } := by
  have hquote : ['\x22'].count '\n' = 0 := by decide
  rw [beyond, Lexeme.describe_quoted, List.count_append, List.count_cons_of_ne (by decide), List.count_append, hquote,
    Nat.add_zero, Nat.add_assoc]
  rfl

private theorem lexeme_of_bare {first : Char} {following : List Char} (hrest : s.rest = first :: following)
    (hfirst : isDelimiter first = false) : s.lexeme = s.bareRun first following := by
  obtain ⟨_, hquote, hleft, hright⟩ := isDelimiter_eq_false_iff.1 hfirst
  unfold lexeme
  rw [hrest]
  split <;> rename_i heq
  · cases heq
  · exact absurd (List.cons.inj heq).1 hleft
  · exact absurd (List.cons.inj heq).1 hright
  · exact absurd (List.cons.inj heq).1 hquote
  · cases heq
    rfl

/-- A printable run is an identifier, a number or a malformed number. -/
private theorem lexeme_of_isBareRun {first : Char} {tail : List Char} (hrest : s.rest = first :: (tail ++ rest))
    (hrun : IsBareRun (first :: tail)) (hend : EndsRun rest) :
    (startsNumber first = false →
      s.lexeme = (.token ⟨.identifier (String.ofList (first :: tail)), s.line⟩, s.beyond (first :: tail) rest)) ∧
    (∀ n, startsNumber first → Numeral.parse? (first :: tail) = some n →
      s.lexeme = (.token ⟨.number n, s.line⟩, s.beyond (first :: tail) rest)) ∧
    (startsNumber first → Numeral.parse? (first :: tail) = none →
      s.lexeme = (.malformed (s.reportBehind [] (.malformedNumber (String.ofList (first :: tail)))),
        s.beyond (first :: tail) rest)) := by
  obtain ⟨hfirst, htail⟩ := List.forall_mem_cons.1 hrun.undelimited
  obtain ⟨htake, hdrop⟩ := span_run htail hend
  have hfind : (first :: tail).find? (!isPrintable ·) = none := by simpa using hrun.printable
  have hbeyond : s.beyond ([] ++ first :: tail) rest = s.beyond [] rest :=
    beyond_append fun hmem => by cases hrun.undelimited _ hmem
  rw [lexeme_of_bare hrest hfirst, ← List.nil_append (first :: tail), hbeyond]
  dsimp only [bareRun, List.nil_append]
  rw [htake, hdrop, hfind]
  dsimp only
  refine ⟨fun hletter => ?_, fun n hnumber hread => ?_, fun hnumber hread => ?_⟩
  · rw [hletter]
    rfl
  · rw [hnumber, hread]
    rfl
  · rw [hnumber, hread]
    rfl

private theorem quotedString_of_closed {content : String} (hcontent : '\x22' ∉ content.toList) (rest : List Char) :
    s.quotedString (content.toList ++ '\x22' :: rest) =
      (.token ⟨.quoted content, s.line⟩, s.beyond (Lexeme.quoted content).describe.toList rest) := by
  obtain ⟨htake, hdrop⟩ := span_quoted hcontent rest
  dsimp only [quotedString]
  rw [htake, hdrop, ← List.nil_append (Lexeme.quoted content).describe.toList, beyond_quoted, String.ofList_toList]
  rfl

/-- A lexeme that a text begins with is found there. -/
private theorem lexeme_of_describe {l : Lexeme} (hrest : s.rest = l.describe.toList ++ rest) (hl : l.Valid)
    (hread : l.reread = l) (hend : l.IsBare → EndsRun rest) :
    s.lexeme = (.token ⟨l, s.line⟩, s.beyond l.describe.toList rest) := by
  cases l with
  | leftBracket =>
    unfold lexeme
    rw [hrest]
    rfl
  | rightBracket =>
    unfold lexeme
    rw [hrest]
    rfl
  | quoted content =>
    have hquoted : s.lexeme = s.quotedString (content.toList ++ '\x22' :: rest) := by
      rw [Lexeme.describe_quoted, List.cons_append, List.append_assoc] at hrest
      unfold lexeme
      rw [hrest]
      rfl
    rw [hquoted, quotedString_of_closed hl]
  | identifier name =>
    obtain ⟨hrun, hstart⟩ := hl
    have hdescribe : (Lexeme.identifier name).describe.toList = name.toList := rfl
    rw [hdescribe] at hrest ⊢
    cases hname : name.toList with
    | nil => exact absurd hname hrun.ne_nil
    | cons first tail =>
      rw [hname] at hrun hstart hrest
      rw [(lexeme_of_isBareRun hrest hrun (hend trivial)).1 (hstart first rfl), ← hname, String.ofList_toList]
  | number n =>
    have hrun := isBareRun_of_mem_numberPattern hl.1
    have hparse := hl.parse?_text hread
    rw [Numeral.text, String.toList_ofList] at hparse
    rw [Lexeme.describe_number] at hrest ⊢
    cases hchars : n.chars with
    | nil => exact absurd hchars hrun.ne_nil
    | cons first tail =>
      have hstart := hl.2 first (by rw [hchars]; rfl)
      rw [hchars] at hrun hrest hparse
      exact (lexeme_of_isBareRun hrest hrun (hend trivial)).2.1 n hstart hparse

/-- At an obstacle, the scanner stops. -/
private theorem lexeme_of_obstructs {fault : Fault} (h : Obstructs fault s.rest) :
    s.lexeme = (.stuck (s.reportBehind [] fault), s) := by
  generalize hrest : s.rest = text at h
  cases h with
  | @unterminated content hcontent =>
    have hdrop : content.dropWhile (· ≠ '\x22') = [] :=
      List.dropWhile_eq_nil_iff.2 fun c hc => by simpa using ne_of_mem_of_not_mem hc hcontent
    have hquoted : s.lexeme = s.quotedString content := by
      unfold lexeme
      rw [hrest]
      rfl
    rw [hquoted]
    dsimp only [quotedString]
    rw [hdrop]
    rfl
  | @unexpected run rest c hprintable hrun hc hend =>
    obtain ⟨more, rest, rfl, hmore, hstop⟩ := exists_run rest
    rw [← List.cons_append, ← List.append_assoc] at hrest
    have hall : ∀ d ∈ run ++ c :: more, isDelimiter d = false :=
      List.forall_mem_append.2 ⟨hrun, List.forall_mem_cons.2 ⟨hend, hmore⟩⟩
    have hfind : (run ++ c :: more).find? (!isPrintable ·) = some c :=
      List.find?_eq_some_iff_append.2 ⟨by simpa using hc, run, more, rfl, by simpa using hprintable⟩
    cases hwhole : run ++ c :: more with
    | nil => simp at hwhole
    | cons first tail =>
      rw [hwhole] at hall hfind
      rw [hwhole, List.cons_append] at hrest
      obtain ⟨hfirst, htail⟩ := List.forall_mem_cons.1 hall
      rw [lexeme_of_bare hrest hfirst]
      dsimp only [bareRun]
      rw [(span_run htail hstop).1, hfind]
      rfl

private theorem next_in_front (hrest : s.rest = gap ++ rest) (hgap : IsGap false gap)
    (hopens : ∃ c, rest.head? = some c ∧ opensGap c = false) : s.next = (s.beyond gap rest).lexeme := by
  obtain ⟨c, hc, hopens⟩ := hopens
  cases rest with
  | nil => cases hc
  | cons first following =>
    refine next_behind hrest hgap fun d hd => ?_
    rwa [Option.some.inj (hd.symm.trans hc)]

/-- What a call can come upon is what it comes upon. -/
theorem Meets.next_eq {found : Sight × Scanner} (h : s.Meets gap found) : s.next = found := by
  cases h with
  | finished hrest hgap => exact next_behind (hrest.trans (List.append_nil gap).symm) hgap (by simp)
  | @token l rest hrest hgap hl hread hend =>
    obtain ⟨c, hc, hopens⟩ := hl.exists_first
    have hfirst : (l.describe.toList ++ rest).head? = l.describe.toList.head? :=
      List.head?_append_of_ne_nil _ hl.describe_ne_nil
    rw [next_in_front hrest hgap ⟨c, hfirst.trans hc, hopens⟩, lexeme_of_describe rfl hl hread hend, beyond_beyond]
    rfl
  | @malformed run rest hrest hgap hrun hfirst hnumber hend =>
    obtain ⟨first, tail, rfl⟩ := List.exists_cons_of_ne_nil hrun.ne_nil
    have hopens := (isDelimiter_eq_false_iff.1 (hrun.undelimited first List.mem_cons_self)).1
    have hread : Numeral.parse? (first :: tail) = none := by
      rwa [← Option.not_isSome_iff_eq_none, Numeral.isSome_parse?_iff]
    rw [next_in_front hrest hgap ⟨first, rfl, hopens⟩,
      (lexeme_of_isBareRun rfl hrun hend).2.2 (hfirst first rfl) hread, beyond_beyond]
    rfl
  | stuck hrest hgap hfault =>
    rw [next_in_front hrest hgap hfault.exists_first, lexeme_of_obstructs hfault]
    rfl

/-- A lexeme that stands behind a gap is what a call comes upon. -/
theorem next_of_lexeme {l : Lexeme} (hrest : s.rest = gap ++ (l.describe.toList ++ rest)) (hgap : IsGap false gap)
    (hl : l.Valid) (hend : l.IsBare → EndsRun rest) :
    s.next = (.token ⟨l.reread, s.line + gap.count '\n'⟩, s.beyond (gap ++ l.describe.toList) rest) := by
  obtain ⟨hvalid, hread⟩ := hl.reread
  rw [← hl.describe_reread] at hrest ⊢
  exact (Meets.token hrest hgap hvalid hread fun hbare => hend (Lexeme.isBare_reread.1 hbare)).next_eq

/-! ### What a call comes upon -/

/-- A number is met with the numeral that is written there. -/
theorem Meets.number {n : Numeral} (hrest : s.rest = gap ++ (n.chars ++ rest)) (hgap : IsGap false gap)
    (hn : n.WellFormed) (hfirst : ∀ c, n.chars.head? = some c → startsNumber c) (hend : EndsRun rest) :
    s.Meets gap (.token ⟨.number n, s.line + gap.count '\n'⟩, s.beyond (gap ++ n.chars) rest) := by
  have hread : (Lexeme.number n).reread = .number n := by
    rw [Lexeme.reread, Numeral.parse?_chars hn, Option.getD_some]
  rw [← Lexeme.describe_number] at hrest ⊢
  exact .token hrest hgap ⟨Numeral.mem_numberPattern_iff.2 ⟨n, hn, rfl⟩, hfirst⟩ hread fun _ => hend

/-- A text that begins with a bare run begins with a lexeme, a malformed number or an obstacle. -/
private theorem exists_meets_of_bare {first : Char} {following : List Char} (hrest : s.rest = gap ++ first :: following)
    (hgap : IsGap false gap) (hfirst : isDelimiter first = false) : ∃ found, s.Meets gap found := by
  obtain ⟨tail, rest, rfl, htail, hend⟩ := exists_run following
  rw [← List.cons_append] at hrest
  have hundelimited : ∀ c ∈ first :: tail, isDelimiter c = false := List.forall_mem_cons.2 ⟨hfirst, htail⟩
  by_cases hprintable : ∀ c ∈ first :: tail, isPrintable c
  · have hrun : IsBareRun (first :: tail) := ⟨List.cons_ne_nil _ _, hprintable, hundelimited⟩
    have hstart {b : Bool} (hb : startsNumber first = b) :
        ∀ c, (first :: tail).head? = some c → startsNumber c = b := by
      rintro _ ⟨⟩
      exact hb
    generalize first :: tail = run at hrest hrun hstart
    by_cases hletter : startsNumber first = false
    · have hstart := hstart hletter
      rw [← String.toList_ofList (l := run)] at hrest hrun hstart
      exact ⟨_, .token hrest hgap (l := .identifier (String.ofList run)) ⟨hrun, hstart⟩ rfl fun _ => hend⟩
    · have hstart := hstart (Bool.of_not_eq_false hletter)
      by_cases hnumber : run ∈ numberPattern
      · obtain ⟨n, hn, rfl⟩ := Numeral.mem_numberPattern_iff.1 hnumber
        exact ⟨_, .number hrest hgap hn hstart hend⟩
      · exact ⟨_, .malformed hrest hgap hrun hstart hnumber hend⟩
  · obtain ⟨c, hfault⟩ := exists_obstructs hundelimited hprintable rest
    exact ⟨_, .stuck hrest hgap hfault⟩

private theorem exists_meets_of_quote {following : List Char} (hrest : s.rest = gap ++ '\x22' :: following)
    (hgap : IsGap false gap) : ∃ found, s.Meets gap found := by
  by_cases hclosed : '\x22' ∈ following
  · obtain ⟨content, rest, rfl, hcontent⟩ := List.eq_append_cons_of_mem hclosed
    have hdescribe : (Lexeme.quoted (String.ofList content)).describe.toList = '\x22' :: (content ++ ['\x22']) := by
      rw [Lexeme.describe_quoted, String.toList_ofList]
    have hall : s.rest = gap ++ ((Lexeme.quoted (String.ofList content)).describe.toList ++ rest) := by
      rw [hrest, hdescribe]
      simp
    have hvalid : (Lexeme.quoted (String.ofList content)).Valid := by
      rwa [Lexeme.Valid, String.toList_ofList]
    exact ⟨_, .token hall hgap hvalid rfl (by simp [Lexeme.IsBare])⟩
  · exact ⟨_, .stuck hrest hgap (.unterminated hclosed)⟩

/-- Every text begins with a gap, and behind it a lexeme, a malformed number or an obstacle, or else it ends there. -/
theorem exists_meets (s : Scanner) : ∃ gap found, s.Meets gap found := by
  obtain ⟨gap, rest, hrest, hgap, hopens⟩ := exists_gap s.rest
  refine ⟨gap, ?_⟩
  cases rest with
  | nil => exact ⟨_, .finished (hrest.trans (List.append_nil gap)) hgap⟩
  | cons c following =>
    by_cases hquote : c = '\x22'
    · subst hquote
      exact exists_meets_of_quote hrest hgap
    by_cases hleft : c = '['
    · subst hleft
      exact ⟨_, .token (l := .leftBracket) hrest hgap trivial rfl (by simp [Lexeme.IsBare])⟩
    by_cases hright : c = ']'
    · subst hright
      exact ⟨_, .token (l := .rightBracket) hrest hgap trivial rfl (by simp [Lexeme.IsBare])⟩
    exact exists_meets_of_bare hrest hgap (isDelimiter_eq_false_iff.2 ⟨hopens c rfl, hquote, hleft, hright⟩)

/-- Behind a gap, the scanner comes upon what stands there. -/
theorem exists_meets_next (s : Scanner) : ∃ gap, s.Meets gap s.next := by
  obtain ⟨gap, found, hmeets⟩ := s.exists_meets
  exact ⟨gap, hmeets.next_eq ▸ hmeets⟩

/-- Whatever a call comes upon, it passes over the front of the text. -/
theorem exists_passed (s : Scanner) :
    ∃ passed, s.rest = passed ++ s.next.2.rest ∧ s.next.2 = s.beyond passed s.next.2.rest := by
  obtain ⟨gap, hmeets⟩ := s.exists_meets_next
  generalize s.next = found at hmeets
  cases hmeets with
  | finished hrest => exact ⟨gap, hrest.trans (List.append_nil gap).symm, rfl⟩
  | @token l _ hrest => exact ⟨gap ++ l.describe.toList, hrest.trans (List.append_assoc ..).symm, rfl⟩
  | @malformed run _ hrest => exact ⟨gap ++ run, hrest.trans (List.append_assoc ..).symm, rfl⟩
  | stuck hrest => exact ⟨gap, hrest, rfl⟩

end Scanner

end SceneDescription
