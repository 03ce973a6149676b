import SceneDescription.Directive.Reading
import SceneDescription.Proofs.Splicing.Locality
import SceneDescription.Proofs.Tokens.Sights

/-!
# What numbers denote

The texts that a double is read from may have white space around them, single underscores between their digits, and
words for the infinities and for what is not a number (`doubleText`).  The pattern of numbers is a part of this
language, so no number fails to be a double; it is an integer if and only if it is an optional sign and digits, of
which there are not too many, and then it has the value that its digits have by their places (`SpellsInteger`).  A bare
run that begins like a number is a token if it is in the pattern, and is reported otherwise
(`Scanner.next_of_number_run`).
-/

namespace SceneDescription

/-! ### Texts of doubles -/

namespace NumberPattern

/-- Digits with single underscores between them. -/
def groupedDigits : Language Char :=
  oneOf isDecimalDigit * KStar.kstar (optionally (oneOf (· = '_')) * oneOf isDecimalDigit)

def groupedMantissa : Language Char :=
  groupedDigits * optionally (point * optionally groupedDigits) + point * groupedDigits

def groupedExponent : Language Char :=
  marker * optionally sign * groupedDigits

/-- The words for infinity and for what is not a number, in either case of letters. -/
def specialWord : Language Char :=
  {text | text.map Char.toLower ∈ ["inf".toList, "infinity".toList, "nan".toList]}

def margin : Language Char :=
  KStar.kstar (oneOf isMargin)

private theorem optionally_mono {l m : Language Char} (h : l ≤ m) : optionally l ≤ optionally m := by
  unfold optionally
  gcongr

private theorem one_le_optionally (l : Language Char) : 1 ≤ optionally l :=
  le_add_right le_rfl

private theorem someDigits_le_groupedDigits : someDigits ≤ groupedDigits := by
  have hdigit : oneOf isDecimalDigit ≤ optionally (oneOf (· = '_')) * oneOf isDecimalDigit :=
    le_mul_of_one_le_left' (one_le_optionally _)
  unfold someDigits groupedDigits digits
  gcongr

/-- Behind a point there may be no digits. -/
private theorem digits_le_optionally : digits ≤ optionally groupedDigits := by
  have h : digits = optionally someDigits := (Language.one_add_self_mul_kstar_eq_kstar _).symm
  rw [h]
  exact optionally_mono someDigits_le_groupedDigits

private theorem mantissa_le_groupedMantissa : mantissa ≤ groupedMantissa := by
  have hsome := someDigits_le_groupedDigits
  have htail : optionally (point * digits) ≤ optionally (point * optionally groupedDigits) :=
    optionally_mono (mul_le_mul_right digits_le_optionally _)
  unfold mantissa groupedMantissa
  gcongr

private theorem exponent_le_groupedExponent : exponent ≤ groupedExponent :=
  mul_le_mul_right someDigits_le_groupedDigits _

end NumberPattern

section

open NumberPattern

/-- The texts that a double is read from. -/
def doubleText : Language Char :=
  margin * (optionally sign * (groupedMantissa * optionally groupedExponent + specialWord)) * margin

/-- Every number is the text of a double. -/
private theorem numberPattern_le_doubleText : numberPattern ≤ doubleText := by
  have hmargin : 1 ≤ margin := one_le_kstar
  calc numberPattern
      = optionally sign * (mantissa * optionally exponent) := mul_assoc ..
    _ ≤ optionally sign * (groupedMantissa * optionally groupedExponent + specialWord) := by
        have hmantissa := mantissa_le_groupedMantissa
        have hexponent := optionally_mono exponent_le_groupedExponent
        refine mul_le_mul_right (le_add_right ?_) _
        gcongr
    _ ≤ doubleText := by
        refine le_mul_of_le_of_one_le (le_mul_of_one_le_left' hmargin) hmargin

end

/-! ### Digits by their places -/

/-- The number that digits denote by their places, the last one counting ones. -/
def placeValue (digits : List Char) : Nat :=
  Nat.ofDigits 10 (digits.reverse.map fun c => (decimalDigit? c).getD 0)

private theorem digitsValue_append (digits : List Char) (c : Char) :
    digitsValue (digits ++ [c]) = 10 * digitsValue digits + (decimalDigit? c).getD 0 :=
  List.foldl_append ..

private theorem digitsValue_eq_placeValue (digits : List Char) : digitsValue digits = placeValue digits := by
  -- what is read last counts least
  induction digits using List.reverseRecOn with
  | nil => rfl
  | append_singleton digits c ih =>
    rw [digitsValue_append, ih, placeValue, placeValue, List.reverse_append, List.reverse_singleton,
      List.singleton_append, List.map_cons, Nat.ofDigits_cons, add_comm]

/-- A number with a sign in front of it. -/
def signed (sign : Option Sign) (n : Nat) : Int :=
  if sign = some .minus then -n else n

/-- A text of no more than a sign and digits, and the integer that it denotes. -/
inductive SpellsInteger : List Char → Int → Prop
  | intro (sign : Option Sign) {digits : List Char} (hne : digits ≠ []) (hdigits : ∀ c ∈ digits, isDecimalDigit c)
      (hfew : digits.length ≤ maxIntegerDigits) :
      SpellsInteger (signChars sign ++ digits) (signed sign (placeValue digits))

namespace Numeral

variable {n : Numeral} {i : Int}

/-- A numeral without point and exponent, and with not too many digits. -/
def IsInteger (n : Numeral) : Prop :=
  n.fraction = none ∧ n.exponent = none ∧ n.whole.length ≤ maxIntegerDigits

theorem toInt?_eq_some : n.toInt? = some i ↔ n.IsInteger ∧ i = signed n.sign (placeValue n.whole) := by
  unfold toInt? IsInteger signed
  rw [digitsValue_eq_placeValue]
  split
  · rename_i h
    simp only [Bool.and_eq_true, Option.isNone_iff_eq_none, decide_eq_true_eq, and_assoc] at h
    rw [Option.some_inj]
    exact ⟨fun hi => ⟨h, hi.symm⟩, fun hi => hi.2.symm⟩
  · rename_i h
    simp only [Bool.and_eq_true, Option.isNone_iff_eq_none, decide_eq_true_eq, and_assoc] at h
    constructor
    · intro hi
      cases hi
    · intro hi
      exact absurd hi.1 h

/-- A numeral as it can be read denotes an integer if and only if its text does. -/
theorem WellFormed.toInt?_eq_some_iff (h : n.WellFormed) : n.toInt? = some i ↔ SpellsInteger n.chars i := by
  rw [toInt?_eq_some]
  constructor
  · obtain ⟨sign, whole, fraction, exponent⟩ := n
    rintro ⟨⟨rfl, rfl, hfew⟩, rfl⟩
    have hne : whole ≠ [] := h.some_digit.resolve_right (by simp)
    have hchars : Numeral.chars ⟨sign, whole, none, none⟩ = signChars sign ++ whole := by
      simp [chars, fractionChars]
    rw [hchars]
    exact .intro sign hne h.whole hfew
  · generalize htext : n.chars = text
    rintro ⟨sign, hne, hdigits, hfew⟩
    rename_i digits
    -- sign and digits are read back, and so is the numeral
    let m : Numeral := ⟨sign, digits, none, none⟩
    have hm : m.WellFormed := ⟨hdigits, by simp [m], .inl hne, by simp [m]⟩
    have hchars : m.chars = signChars sign ++ digits := by simp [m, chars, fractionChars]
    have hsame : some n = some m := by rw [← parse?_chars h, ← parse?_chars hm, htext, hchars]
    obtain rfl := Option.some.inj hsame
    exact ⟨⟨rfl, rfl, hfew⟩, rfl⟩

end Numeral

/-! ### Conversions -/

theorem Heading.number_of_items (h : Heading) {c : Cursor} {numeral : Numeral} {line : Nat} {rest : List Item}
    (hitems : c.items = .token ⟨.number numeral, line⟩ :: rest) :
    ∃ c', h.number c = .ok numeral.toFloat c' ∧ c'.items = rest := by
  obtain ⟨c', htake, hrest⟩ := Read.take_of_items hitems
  exact ⟨c', Read.bind_ok.2 ⟨_, _, htake, rfl⟩, hrest⟩

theorem Token.toInt_number {n : Numeral} {heading : String} {line : Nat} {i : Int} :
    Token.toInt heading ⟨.number n, line⟩ = .ok i ↔ n.toInt? = some i := by
  unfold Token.toInt
  dsimp only
  cases n.toInt? with
  | none => simp [Token.unconvertible]
  | some j => simp

/-- What is to be known of the numeral that a run of characters is read as: the run is the text of a double, which it
is read as wherever a number is wanted, and it is an integer just where it is spelled like one. -/
structure Numeral.ReadFrom (n : Numeral) (run : List Char) : Prop where
  chars : n.chars = run
  double : run ∈ doubleText
  component (heading : String) (line : Nat) : Token.toFloat heading ⟨.number n, line⟩ = .ok n.toFloat
  operand (h : Heading) {c : Cursor} {line : Nat} {rest : List Item}
    (hitems : c.items = .token ⟨.number n, line⟩ :: rest) :
    ∃ c', h.number c = .ok n.toFloat c' ∧ c'.items = rest
  integer (heading : String) (line : Nat) (i : Int) :
    Token.toInt heading ⟨.number n, line⟩ = .ok i ↔ SpellsInteger run i

private theorem Numeral.WellFormed.readFrom {n : Numeral} (h : n.WellFormed) : n.ReadFrom n.chars where
  chars := rfl
  double := numberPattern_le_doubleText (Numeral.mem_numberPattern_iff.2 ⟨n, h, rfl⟩)
  component _ _ := rfl
  operand heading := heading.number_of_items
  integer _ _ _ := Token.toInt_number.trans h.toInt?_eq_some_iff

/-! ### Runs -/

namespace Scanner

variable {s : Scanner} {gap run rest : List Char}

/-- A run that begins like a number, and is none, is passed over or blocks the scan; either is reported. -/
private theorem exists_fault_of_run (hrest : s.rest = gap ++ (run ++ rest)) (hgap : IsGap false gap)
    (hrun : ∀ c ∈ run, isDelimiter c = false) (hend : EndsRun rest)
    (hfirst : ∃ c, run.head? = some c ∧ startsNumber c) (hnumber : run ∉ numberPattern) :
    ∃ fault : Fault, fault.kind = .lexical ∧
      (s.next.1 = .malformed (s.reportBehind gap fault) ∨ s.next.1 = .stuck (s.reportBehind gap fault)) := by
  obtain ⟨c, hc, hstart⟩ := hfirst
  by_cases hprintable : ∀ c ∈ run, isPrintable c
  · have hbare : IsBareRun run := ⟨List.ne_nil_of_mem (List.mem_of_head? hc), hprintable, hrun⟩
    have hall : ∀ d, run.head? = some d → startsNumber d := fun d hd => by rwa [Option.some.inj (hd.symm.trans hc)]
    have hmeets := Meets.malformed hrest hgap hbare hall hnumber hend
    exact ⟨.malformedNumber (String.ofList run), rfl, .inl (congrArg Prod.fst hmeets.next_eq)⟩
  · obtain ⟨d, hfault⟩ := exists_obstructs hrun hprintable rest
    exact ⟨.unexpectedCharacter d, rfl, .inr (congrArg Prod.fst (Meets.stuck hrest hgap hfault).next_eq)⟩

/-- Where a bare run begins like a number, the scanner comes upon a number if the run is in the pattern, and reports
it otherwise; and the number can be used wherever a number is wanted. -/
theorem next_of_number_run (hrest : s.rest = gap ++ (run ++ rest)) (hgap : IsGap false gap)
    (hrun : ∀ c ∈ run, isDelimiter c = false) (hend : EndsRun rest)
    (hfirst : ∃ c, run.head? = some c ∧ startsNumber c) :
    (run ∈ numberPattern → ∃ n : Numeral, n.ReadFrom run ∧
      s.next = (.token ⟨.number n, s.line + gap.count '\n'⟩, s.beyond (gap ++ run) rest)) ∧
    (run ∉ numberPattern → ∃ fault : Fault, fault.kind = .lexical ∧
      (s.next.1 = .malformed (s.reportBehind gap fault) ∨ s.next.1 = .stuck (s.reportBehind gap fault))) := by
  refine ⟨fun hnumber => ?_, exists_fault_of_run hrest hgap hrun hend hfirst⟩
  obtain ⟨n, hn, rfl⟩ := Numeral.mem_numberPattern_iff.1 hnumber
  obtain ⟨c, hc, hstart⟩ := hfirst
  refine ⟨n, hn.readFrom, (Meets.number hrest hgap hn (fun d hd => ?_) hend).next_eq⟩
  rwa [Option.some.inj (hd.symm.trans hc)]

end Scanner

namespace IntegerBehindComment

/-- An integer whose last digit is a wide one. -/
def run : List Char :=
  ['-', '4', '２']

/-- A text with the integer behind a comment. -/
def scanner : Scanner :=
  .ofText "<string>" ("# sign\n ".toList ++ (run ++ [']']))

/-- The integer is found on the second line. -/
theorem integer_on_second_line : ∃ n : Numeral,
    scanner.next = (.token ⟨.number n, 2⟩, scanner.beyond ("# sign\n ".toList ++ run) [']']) ∧
    n.ReadFrom run ∧ Token.toInt "integer i" ⟨.number n, 2⟩ = .ok (-42) := by
  have hrest : scanner.rest = "# sign\n ".toList ++ (run ++ [']']) := rfl
  have hcomment : '\n' ∉ " sign".toList := by decide
  have hgap : IsGap false "# sign\n ".toList := .comment hcomment (.blank (.inl rfl) .nil)
  have hnumber : run ∈ numberPattern := Numeral.isSome_parse?_iff.1 (by decide)
  have hrun : ∀ c ∈ run, isDelimiter c = false := (isBareRun_of_mem_numberPattern hnumber).undelimited
  have hend : EndsRun [']'] := by
    rintro _ ⟨⟩
    rfl
  have hdigits : ∀ c ∈ ['4', '２'], isDecimalDigit c := List.all_eq_true.1 rfl
  have hfew : ['4', '２'].length ≤ maxIntegerDigits := by simp [maxIntegerDigits]
  have hspells : SpellsInteger run (-42) := .intro (some .minus) (List.cons_ne_nil _ _) hdigits hfew
  obtain ⟨n, hread, hnext⟩ := (Scanner.next_of_number_run hrest hgap hrun hend ⟨'-', rfl, rfl⟩).1 hnumber
  exact ⟨n, hnext, hread, (hread.integer "integer i" 2 (-42)).2 hspells⟩

end IntegerBehindComment

end SceneDescription
