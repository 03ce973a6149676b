import SceneDescription.Proofs.Tokens.NumberPattern

/-!
# The grammar of scene text

Gaps of blanks and comments, lexemes of five kinds, and the obstacles that a scan cannot pass.  Every text begins with
a gap that reaches as far as it can (`exists_gap`), and so does what stands behind it with a bare run (`exists_run`).
-/

namespace SceneDescription

/-- A text without the byte-order mark that it may begin with. -/
def withoutMark (text : List Char) : List Char :=
  if text.head? = some '\ufeff' then text.tail else text

/-! ### Gaps -/

/-- Blanks, line ends and comments.  A comment takes up the rest of its line; at the end of the text it may take up the
rest of the text. -/
inductive IsGap (atEnd : Bool) : List Char → Prop
  | nil : IsGap atEnd []
  | blank {c : Char} {gap : List Char} (hc : isGapBlank c ∨ c = '\n') (hgap : IsGap atEnd gap) : IsGap atEnd (c :: gap)
  | comment {content gap : List Char} (hcontent : '\n' ∉ content) (hgap : IsGap atEnd gap) :
      IsGap atEnd ('#' :: (content ++ '\n' :: gap))
  | unfinished {content : List Char} (hend : atEnd) (hcontent : '\n' ∉ content) : IsGap atEnd ('#' :: content)

/-- A comment at the end of a text ends at a line end behind it. -/
theorem IsGap.append_lineEnd {atEnd : Bool} {gap more : List Char} (h : IsGap true gap) (hmore : IsGap atEnd more) :
    IsGap atEnd (gap ++ '\n' :: more) := by
  induction h with
  | nil => exact .blank (.inr rfl) hmore
  | blank hc _ ih => exact .blank hc ih
  | comment hcontent _ ih =>
    rw [List.cons_append, List.append_assoc]
    exact .comment hcontent ih
  | unfinished _ hcontent => exact .comment hcontent hmore

/-- The characters that a gap can begin with. -/
def opensGap (c : Char) : Bool :=
  isGapBlank c || c = '\n' || c = '#'

theorem isDelimiter_eq_false_iff {c : Char} :
    isDelimiter c = false ↔ opensGap c = false ∧ c ≠ '\x22' ∧ c ≠ '[' ∧ c ≠ ']' := by
  simp only [isDelimiter, opensGap, Bool.or_eq_false_iff, decide_eq_false_iff_not]
  tauto

/-- Every text begins with a gap that reaches as far as it can. -/
theorem exists_gap (text : List Char) : ∃ gap rest, text = gap ++ rest ∧ IsGap rest.isEmpty gap ∧
    ∀ c, rest.head? = some c → opensGap c = false := by
  -- behind a comment the text goes on where its line ends, so the induction is on the length
  induction hlength : text.length using Nat.strong_induction_on generalizing text with
  | _ n ih =>
    cases text with
    | nil => exact ⟨[], [], rfl, .nil, by simp⟩
    | cons c text =>
      rw [List.length_cons] at hlength
      by_cases hblank : isGapBlank c ∨ c = '\n'
      · obtain ⟨gap, rest, rfl, hgap, hrest⟩ := ih _ (by omega) text rfl
        exact ⟨c :: gap, rest, rfl, .blank hblank hgap, hrest⟩
      by_cases hcomment : c = '#'
      · subst hcomment
        by_cases hend : '\n' ∈ text
        · obtain ⟨content, later, rfl, hcontent⟩ := List.eq_append_cons_of_mem hend
          rw [List.length_append, List.length_cons] at hlength
          obtain ⟨gap, rest, rfl, hgap, hrest⟩ := ih _ (by omega) later rfl
          exact ⟨'#' :: (content ++ '\n' :: gap), rest, by simp, .comment hcontent hgap, hrest⟩
        · exact ⟨'#' :: text, [], by simp, .unfinished rfl hend, by simp⟩
      · refine ⟨[], c :: text, rfl, .nil, ?_⟩
        rintro _ ⟨⟩
        simp [opensGap, not_or.1 hblank, hcomment]

/-! ### Kinds of lexemes -/

/-- What sort of lexeme a token is. -/
inductive Lexeme.Kind
  | identifier
  | quoted
  | number
  | leftBracket
  | rightBracket
  deriving DecidableEq

def Lexeme.kind : Lexeme → Kind
  | identifier _ => .identifier
  | quoted _ => .quoted
  | number _ => .number
  | leftBracket => .leftBracket
  | rightBracket => .rightBracket

/-! ### Lexemes -/

/-- The texts of bare lexemes. -/
structure IsBareRun (run : List Char) : Prop where
  ne_nil : run ≠ []
  printable : ∀ c ∈ run, isPrintable c
  undelimited : ∀ c ∈ run, isDelimiter c = false

/-- A bare run ends with the text or in front of a delimiter. -/
def EndsRun (rest : List Char) : Prop :=
  ∀ c, rest.head? = some c → isDelimiter c

namespace Lexeme

/-- Identifiers and numbers have nothing around them that would keep them apart from one another. -/
def IsBare : Lexeme → Prop
  | identifier _ | number _ => True
  | quoted _ | leftBracket | rightBracket => False

/-- The lexemes that a text can hold: what begins like a number is one, and no other bare run is. -/
def Valid : Lexeme → Prop
  | identifier name => IsBareRun name.toList ∧ ∀ c, name.toList.head? = some c → startsNumber c = false
  | quoted content => '\x22' ∉ content.toList
  | number numeral => numeral.chars ∈ numberPattern ∧ ∀ c, numeral.chars.head? = some c → startsNumber c
  | leftBracket | rightBracket => True

/-- The lexeme with its numeral as it is read from its text. -/
def reread : Lexeme → Lexeme
  | number numeral => number ((Numeral.parse? numeral.chars).getD numeral)
  | lexeme => lexeme

end Lexeme

/-- Digits of all scripts are printable: no range of unprintable characters touches their runs of ten. -/
private theorem isPrintable_of_isDecimalDigit {c : Char} (h : isDecimalDigit c) : isPrintable c := by
  have hapart : digitZeros.all (fun first => Nat.ble 0x20 first &&
      unprintableRanges.all fun range => Nat.blt range.2 first || Nat.blt (first + 9) range.1) := by decide +kernel
  rw [isDecimalDigit, decimalDigit?, Option.isSome_map, List.find?_isSome] at h
  obtain ⟨first, hfirst, hc⟩ := h
  have hthis := List.all_eq_true.1 hapart first hfirst
  simp only [Bool.and_eq_true, Nat.ble_eq, List.all_eq_true, Bool.or_eq_true, Nat.blt_eq, decide_eq_true_eq]
    at hthis hc
  unfold isPrintable
  split
  · exact decide_eq_true (hthis.1.trans hc.1)
  · rw [Bool.not_eq_true', List.any_eq_false]
    intro range hrange
    have hbeside := hthis.2 range hrange
    simp only [Bool.and_eq_true, decide_eq_true_eq]
    omega

private theorem not_isDelimiter_of_isDecimalDigit {c : Char} (h : isDecimalDigit c) : isDelimiter c = false := by
  by_contra hc
  simp only [isDelimiter, isGapBlank, Bool.not_eq_false, Bool.or_eq_true, decide_eq_true_eq] at hc
  revert h
  rcases hc with ((((((((rfl | rfl) | rfl) | rfl) | rfl) | rfl) | rfl) | rfl) | rfl) | rfl <;> decide

/-- The characters that numbers are made of. -/
private theorem Numeral.WellFormed.mem_chars {n : Numeral} (h : n.WellFormed) {c : Char} (hc : c ∈ n.chars) :
    isDecimalDigit c ∨ c ∈ ['+', '-', '.', 'e', 'E'] := by
  have hsign : ∀ {sign : Option Sign}, c ∈ signChars sign → c ∈ ['+', '-', '.', 'e', 'E'] := by
    rintro (_ | _ | _) hc
    · cases hc
    all_goals
      rw [List.mem_singleton.1 hc]
      decide
  rw [Numeral.chars, List.mem_append, List.mem_append, List.mem_append] at hc
  rcases hc with hc | hc | hc | hc
  · exact .inr (hsign hc)
  · exact .inl (h.whole c hc)
  · cases hfraction : n.fraction with
    | none =>
      rw [hfraction] at hc
      cases hc
    | some digits =>
      rw [hfraction] at hc
      rcases List.mem_cons.1 hc with rfl | hc
      · exact .inr (by decide)
      · exact .inl (h.fraction c (by rwa [hfraction]))
  · cases hexponent : n.exponent with
    | none =>
      rw [hexponent] at hc
      cases hc
    | some e =>
      rw [hexponent] at hc
      obtain ⟨hmarker, _, hdigits⟩ := h.exponent e hexponent
      rcases List.mem_cons.1 hc with rfl | hc
      · rcases hmarker with hletter | hletter <;> exact .inr (by simp [hletter])
      · rcases List.mem_append.1 hc with hc | hc
        · exact .inr (hsign hc)
        · exact .inl (hdigits c hc)

theorem isBareRun_of_mem_numberPattern {run : List Char} (h : run ∈ numberPattern) : IsBareRun run := by
  obtain ⟨n, hn, rfl⟩ := Numeral.mem_numberPattern_iff.1 h
  have hother : ∀ c ∈ ['+', '-', '.', 'e', 'E'], isPrintable c ∧ isDelimiter c = false := by
    simp [isPrintable, isDelimiter, isGapBlank]
  have hchar : ∀ c ∈ n.chars, isPrintable c ∧ isDelimiter c = false := by
    intro c hc
    rcases hn.mem_chars hc with hdigit | hc
    · exact ⟨isPrintable_of_isDecimalDigit hdigit, not_isDelimiter_of_isDecimalDigit hdigit⟩
    · exact hother c hc
  refine ⟨fun hnil => ?_, fun c hc => (hchar c hc).1, fun c hc => (hchar c hc).2⟩
  have hread := Numeral.parse?_chars hn
  rw [hnil] at hread
  cases hread

namespace Lexeme

variable {l : Lexeme}

theorem Valid.isBareRun (h : l.Valid) (hbare : l.IsBare) : IsBareRun l.text.toList := by
  cases l with
  | identifier name => exact h.1
  | number n =>
    rw [text, Numeral.text, String.toList_ofList]
    exact isBareRun_of_mem_numberPattern h.1
  | _ => cases hbare

/-- A bare lexeme is a number if it begins like one, and an identifier otherwise. -/
theorem Valid.kind_of_isBare (h : l.Valid) (hbare : l.IsBare) {c : Char} (hc : l.text.toList.head? = some c) :
    if startsNumber c then l.kind = .number ∧ l.text.toList ∈ numberPattern else l.kind = .identifier := by
  cases l with
  | identifier name =>
    rw [if_neg (by rw [h.2 c hc]; exact Bool.false_ne_true)]
    rfl
  | number n =>
    rw [text, Numeral.text, String.toList_ofList] at hc ⊢
    rw [if_pos (h.2 c hc)]
    exact ⟨rfl, h.1⟩
  | _ => cases hbare

theorem kind_reread (l : Lexeme) : l.reread.kind = l.kind := by
  cases l <;> rfl

/-- Reading a valid lexeme again does not change its text. -/
theorem Valid.text_reread (h : l.Valid) : l.reread.text = l.text := by
  cases l with
  | number n =>
    obtain ⟨m, hm⟩ := Option.isSome_iff_exists.1 (Numeral.isSome_parse?_iff.2 h.1)
    rw [reread, hm, Option.getD_some, text, text, Numeral.text, Numeral.text, Numeral.chars_of_parse? hm]
  | _ => rfl

theorem Valid.describe_reread (h : l.Valid) : l.reread.describe = l.describe := by
  cases l with
  | number n => exact h.text_reread
  | _ => rfl

theorem isBare_reread : l.reread.IsBare ↔ l.IsBare := by
  cases l <;> rfl

theorem Valid.reread (h : l.Valid) : l.reread.Valid ∧ l.reread.reread = l.reread := by
  cases l with
  | number n =>
    obtain ⟨m, hm⟩ := Option.isSome_iff_exists.1 (Numeral.isSome_parse?_iff.2 h.1)
    have hread : (number n).reread = number m := by rw [Lexeme.reread, hm, Option.getD_some]
    have hsame : Numeral.parse? m.chars = some m := by rw [Numeral.chars_of_parse? hm, hm]
    rw [hread, Valid, Lexeme.reread, hsame, Option.getD_some, Numeral.chars_of_parse? hm]
    exact ⟨h, rfl⟩
  | _ => exact ⟨h, rfl⟩

/-- A number that is the same when it is read again is read from its text. -/
theorem Valid.parse?_text {n : Numeral} (h : (number n).Valid) (hread : (number n).reread = number n) :
    Numeral.parse? n.text.toList = some n := by
  obtain ⟨m, hm⟩ := Option.isSome_iff_exists.1 (Numeral.isSome_parse?_iff.2 h.1)
  rw [Lexeme.reread, hm, Option.getD_some, number.injEq] at hread
  rw [Numeral.text, String.toList_ofList, hm, hread]

theorem describe_of_isBare (hbare : l.IsBare) : l.describe = l.text := by
  cases l with
  | identifier | number => rfl
  | _ => cases hbare

theorem describe_number (n : Numeral) : (number n).describe.toList = n.chars :=
  String.toList_ofList

theorem describe_quoted (content : String) :
    (quoted content).describe.toList = '\x22' :: (content.toList ++ ['\x22']) := by
  simp [describe]

/-- The characters that lexemes begin with do not belong to a gap. -/
theorem Valid.exists_first (hl : l.Valid) : ∃ c, l.describe.toList.head? = some c ∧ opensGap c = false := by
  by_cases hbare : l.IsBare
  · have hrun := hl.isBareRun hbare
    rw [describe_of_isBare hbare]
    refine ⟨l.text.toList.head hrun.ne_nil, List.head?_eq_some_head hrun.ne_nil, ?_⟩
    exact (isDelimiter_eq_false_iff.1 (hrun.undelimited _ (List.head_mem hrun.ne_nil))).1
  cases l with
  | identifier | number => exact absurd trivial hbare
  | leftBracket => exact ⟨'[', rfl, rfl⟩
  | rightBracket => exact ⟨']', rfl, rfl⟩
  | quoted content => exact ⟨'\x22', by rw [describe_quoted]; rfl, rfl⟩

theorem Valid.describe_ne_nil (hl : l.Valid) : l.describe.toList ≠ [] := by
  obtain ⟨c, hc, _⟩ := hl.exists_first
  exact List.ne_nil_of_mem (List.mem_of_head? hc)

end Lexeme

/-- Every text begins with a run that reaches as far as it can. -/
theorem exists_run (text : List Char) :
    ∃ run rest, text = run ++ rest ∧ (∀ c ∈ run, isDelimiter c = false) ∧ EndsRun rest := by
  refine ⟨text.takeWhile (!isDelimiter ·), text.dropWhile (!isDelimiter ·), List.takeWhile_append_dropWhile.symm,
    fun c hc => ?_, fun c hc => ?_⟩
  · simpa using List.mem_takeWhile_imp hc
  · have hnot := List.head?_dropWhile_not (!isDelimiter ·) text
    rw [hc] at hnot
    simpa using hnot

/-! ### Obstacles -/

/-- The texts that a scan cannot pass: a string without its closing quote, and a bare run with a character that is not
printable. -/
inductive Obstructs : Fault → List Char → Prop
  | unterminated {content : List Char} (hcontent : '\x22' ∉ content) :
      Obstructs .unterminatedString ('\x22' :: content)
  | unexpected {run rest : List Char} {c : Char} (hprintable : ∀ d ∈ run, isPrintable d)
      (hrun : ∀ d ∈ run, isDelimiter d = false) (hc : isPrintable c = false) (hend : isDelimiter c = false) :
      Obstructs (.unexpectedCharacter c) (run ++ c :: rest)

/-- A run that is not printable has a first character to stop at. -/
theorem exists_obstructs {run : List Char} (hrun : ∀ c ∈ run, isDelimiter c = false)
    (hprintable : ¬ ∀ c ∈ run, isPrintable c) (rest : List Char) :
    ∃ c, Obstructs (.unexpectedCharacter c) (run ++ rest) := by
  cases hfind : run.find? (!isPrintable ·) with
  | none => exact absurd (by simpa using hfind) hprintable
  | some c =>
    obtain ⟨hc, front, more, rfl, hfront⟩ := List.find?_eq_some_iff_append.1 hfind
    obtain ⟨hplain, hmore⟩ := List.forall_mem_append.1 hrun
    rw [List.append_assoc, List.cons_append]
    exact ⟨c, .unexpected (by simpa using hfront) hplain (by simpa using hc) (hmore c List.mem_cons_self)⟩

theorem Obstructs.exists_first {fault : Fault} {text : List Char} (h : Obstructs fault text) :
    ∃ c, text.head? = some c ∧ opensGap c = false := by
  cases h with
  | unterminated => exact ⟨'\x22', rfl, rfl⟩
  | @unexpected run rest c _ hrun _ hend =>
    cases run with
    | nil => exact ⟨c, rfl, (isDelimiter_eq_false_iff.1 hend).1⟩
    | cons first run => exact ⟨first, rfl, (isDelimiter_eq_false_iff.1 (hrun first List.mem_cons_self)).1⟩

end SceneDescription
