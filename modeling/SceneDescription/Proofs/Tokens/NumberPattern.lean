import SceneDescription.Proofs.Results
import SceneDescription.Token.Cursor

/-!
# The pattern of numbers

The texts of numbers as a regular language: an optional sign, digits with an optional point among or in front of them,
and an optional exponent.  A text is read as a numeral if and only if it is in this language
(`Numeral.isSome_parse?_iff`), and every numeral that is made of digits as its parts demand is read back from its own
characters (`Numeral.parse?_chars`).
-/

namespace SceneDescription

/-- A text is cut in front of the first character that fails a test. -/
theorem span_append {test : Char → Bool} {front rest : List Char} (hfront : ∀ c ∈ front, test c)
    (hrest : ∀ c, rest.head? = some c → test c = false) :
    (front ++ rest).takeWhile test = front ∧ (front ++ rest).dropWhile test = rest := by
  rw [List.takeWhile_append_of_pos hfront, List.dropWhile_append_of_pos hfront]
  cases rest with
  | nil => exact ⟨by simp, rfl⟩
  | cons c rest =>
    have hc : ¬ test c = true := by simp [hrest c rfl]
    rw [List.takeWhile_cons_of_neg hc, List.dropWhile_cons_of_neg hc]
    exact ⟨List.append_nil _, rfl⟩

/-! ### The language -/

namespace NumberPattern

/-- The texts of one character that passes a test. -/
def oneOf (test : Char → Bool) : Language Char :=
  {text | ∃ c, test c = true ∧ text = [c]}

def optionally (texts : Language Char) : Language Char :=
  1 + texts

def sign : Language Char :=
  oneOf fun c => c = '+' || c = '-'

def point : Language Char :=
  oneOf fun c => c = '.'

def marker : Language Char :=
  oneOf fun c => c = 'e' || c = 'E'

def digits : Language Char :=
  KStar.kstar (oneOf isDecimalDigit)

def someDigits : Language Char :=
  oneOf isDecimalDigit * digits

private theorem mem_optionally {texts : Language Char} {text : List Char} :
    text ∈ optionally texts ↔ text = [] ∨ text ∈ texts :=
  Iff.rfl

private theorem mem_optionally_sign {text : List Char} : text ∈ optionally sign ↔ ∃ sign, text = signChars sign := by
  rw [mem_optionally]
  constructor
  · rintro (rfl | ⟨c, hc, rfl⟩)
    · exact ⟨none, rfl⟩
    · rcases Bool.or_eq_true_iff.1 hc with hc | hc
      · exact ⟨some .plus, by rw [of_decide_eq_true hc]; rfl⟩
      · exact ⟨some .minus, by rw [of_decide_eq_true hc]; rfl⟩
  · rintro ⟨_ | _ | _, rfl⟩
    · exact .inl rfl
    · exact .inr ⟨'+', rfl, rfl⟩
    · exact .inr ⟨'-', rfl, rfl⟩

private theorem mem_point {text : List Char} : text ∈ point ↔ text = ['.'] := by
  constructor
  · rintro ⟨c, hc, rfl⟩
    rw [of_decide_eq_true hc]
  · rintro rfl
    exact ⟨'.', rfl, rfl⟩

private theorem mem_marker {text : List Char} : text ∈ marker ↔ ∃ c, (c = 'e' ∨ c = 'E') ∧ text = [c] := by
  have htest (c : Char) : (c = 'e' || c = 'E') = true ↔ c = 'e' ∨ c = 'E' := by simp
  exact exists_congr fun c => and_congr_left' (htest c)

private theorem mem_digits {text : List Char} : text ∈ digits ↔ ∀ c ∈ text, isDecimalDigit c := by
  constructor
  · rintro ⟨parts, rfl, hparts⟩ c hc
    obtain ⟨part, hpart, hmem⟩ := List.mem_flatten.1 hc
    obtain ⟨d, hd, rfl⟩ := hparts part hpart
    rwa [List.mem_singleton.1 hmem]
  · intro h
    refine ⟨text.map fun c => [c], by rw [← List.flatMap_def, List.flatMap_singleton'], ?_⟩
    intro part hpart
    obtain ⟨c, hc, rfl⟩ := List.mem_map.1 hpart
    exact ⟨c, h c hc, rfl⟩

private theorem mem_someDigits {text : List Char} : text ∈ someDigits ↔ text ≠ [] ∧ ∀ c ∈ text, isDecimalDigit c := by
  rw [someDigits, Language.mem_mul]
  constructor
  · rintro ⟨_, ⟨c, hc, rfl⟩, rest, hrest, rfl⟩
    exact ⟨List.cons_ne_nil c rest, List.forall_mem_cons.2 ⟨hc, mem_digits.1 hrest⟩⟩
  · rintro ⟨hne, h⟩
    cases text with
    | nil => contradiction
    | cons c rest =>
      obtain ⟨hc, hrest⟩ := List.forall_mem_cons.1 h
      exact ⟨[c], ⟨c, hc, rfl⟩, rest, mem_digits.2 hrest, rfl⟩

/-- Digits with an optional point among or in front of them. -/
def mantissa : Language Char :=
  someDigits * optionally (point * digits) + point * someDigits

def exponent : Language Char :=
  marker * optionally sign * someDigits

end NumberPattern

open NumberPattern in
/-- The texts of numbers. -/
def numberPattern : Language Char :=
  optionally sign * mantissa * optionally exponent

/-! ### The characters of numerals -/

private theorem signChars_takeSign (text : List Char) : signChars (takeSign text).1 ++ (takeSign text).2 = text := by
  unfold takeSign
  split <;> rfl

private theorem Exponent.chars_of_parse? {text : List Char} {e : Exponent} (h : Exponent.parse? text = some e) :
    e.chars = text := by
  cases text with
  | nil => cases h
  | cons marker rest =>
    dsimp only [parse?] at h
    split at h
    · cases h
      rw [chars, signChars_takeSign]
    · cases h

namespace Numeral

private theorem fractionChars_takeFraction (text : List Char) :
    fractionChars (takeFraction text).1 ++ (takeFraction text).2 = text := by
  unfold takeFraction
  split
  · rename_i rest
    rw [fractionChars, List.cons_append, List.takeWhile_append_dropWhile]
  · rfl

/-- A numeral is written as the text that it was read from. -/
theorem chars_of_parse? {text : List Char} {n : Numeral} (h : parse? text = some n) : n.chars = text := by
  have hbody := List.takeWhile_append_dropWhile (p := isDecimalDigit) (l := (takeSign text).2)
  have htail := fractionChars_takeFraction ((takeSign text).2.dropWhile isDecimalDigit)
  have hsign := signChars_takeSign text
  dsimp only [parse?] at h
  split at h
  · cases h
  split at h
  · rename_i hend
    cases h
    rw [List.isEmpty_iff.1 hend] at htail
    rw [chars]
    dsimp only
    rw [Option.map_none, Option.getD_none, htail, hbody, hsign]
  · obtain ⟨e, hexponent, rfl⟩ := Option.map_eq_some_iff.1 h
    rw [chars]
    dsimp only
    rw [Option.map_some, Option.getD_some, Exponent.chars_of_parse? hexponent, htail, hbody, hsign]

end Numeral

/-! ### Well-formed numerals -/

/-- The digits of an exponent are digits, and there are some. -/
structure Exponent.WellFormed (e : Exponent) : Prop where
  marker : e.marker = 'e' ∨ e.marker = 'E'
  digits_ne_nil : e.digits ≠ []
  digits : ∀ c ∈ e.digits, isDecimalDigit c

/-- The digits of a numeral are digits, and there are some beside the point. -/
structure Numeral.WellFormed (n : Numeral) : Prop where
  whole : ∀ c ∈ n.whole, isDecimalDigit c
  fraction : ∀ c ∈ n.fraction.getD [], isDecimalDigit c
  some_digit : n.whole ≠ [] ∨ n.fraction.getD [] ≠ []
  exponent : ∀ e, n.exponent = some e → e.WellFormed

/-- A sign is read back in front of a text that does not begin with one. -/
private theorem takeSign_signChars (sign : Option Sign) {rest : List Char}
    (hrest : ∀ c, rest.head? = some c → c ≠ '+' ∧ c ≠ '-') : takeSign (signChars sign ++ rest) = (sign, rest) := by
  rcases sign with _ | _ | _
  · cases rest with
    | nil => rfl
    | cons c rest =>
      obtain ⟨hplus, hminus⟩ := hrest c rfl
      exact takeSign.eq_3 (c :: rest) (fun _ h => hplus (List.cons.inj h).1) fun _ h => hminus (List.cons.inj h).1
  · rfl
  · rfl

private theorem ne_sign_of_isDecimalDigit {c : Char} (h : isDecimalDigit c) : c ≠ '+' ∧ c ≠ '-' := by
  constructor
  · rintro rfl
    revert h
    decide
  · rintro rfl
    revert h
    decide

namespace Exponent

variable {text : List Char} {e : Exponent}

private theorem wellFormed_of_parse? (h : parse? text = some e) : e.WellFormed := by
  cases text with
  | nil => cases h
  | cons marker rest =>
    dsimp only [parse?] at h
    split at h
    · rename_i htest
      cases h
      simp only [Bool.and_eq_true, Bool.or_eq_true, decide_eq_true_eq, Bool.not_eq_true', List.all_eq_true,
        List.isEmpty_eq_false_iff] at htest
      exact ⟨htest.1.1, htest.1.2, htest.2⟩
    · cases h

private theorem parse?_chars (h : e.WellFormed) : parse? e.chars = some e := by
  obtain ⟨marker, sign, digits⟩ := e
  obtain ⟨hmarker, hne, hdigits⟩ := h
  have hsign : takeSign (signChars sign ++ digits) = (sign, digits) := by
    refine takeSign_signChars sign fun c hc => ?_
    exact ne_sign_of_isDecimalDigit (hdigits c (List.mem_of_head? hc))
  dsimp only [chars, parse?]
  rw [hsign, if_pos]
  simp only [Bool.and_eq_true, Bool.or_eq_true, decide_eq_true_eq, Bool.not_eq_true', List.all_eq_true,
    List.isEmpty_eq_false_iff]
  exact ⟨⟨hmarker, hne⟩, hdigits⟩

end Exponent

namespace Numeral

variable {text : List Char} {n : Numeral}

private theorem isDecimalDigit_of_takeFraction {c : Char} (h : c ∈ (takeFraction text).1.getD []) :
    isDecimalDigit c := by
  unfold takeFraction at h
  split at h
  · exact List.mem_takeWhile_imp h
  · simp at h

private theorem wellFormed_of_parse? (h : parse? text = some n) : n.WellFormed := by
  have hwhole : ∀ c ∈ (takeSign text).2.takeWhile isDecimalDigit, isDecimalDigit c :=
    fun c hc => List.mem_takeWhile_imp hc
  dsimp only [parse?] at h
  split at h
  · cases h
  rename_i hsome
  rw [Bool.and_eq_true, List.isEmpty_iff, List.isEmpty_iff, not_and_or] at hsome
  split at h
  · cases h
    exact ⟨hwhole, fun c => isDecimalDigit_of_takeFraction, hsome, by simp⟩
  · obtain ⟨e, hexponent, rfl⟩ := Option.map_eq_some_iff.1 h
    refine ⟨hwhole, fun c => isDecimalDigit_of_takeFraction, hsome, ?_⟩
    rintro _ ⟨⟩
    exact Exponent.wellFormed_of_parse? hexponent

/-- A well-formed numeral is read back from its characters. -/
theorem parse?_chars (h : n.WellFormed) : parse? n.chars = some n := by
  obtain ⟨sign, whole, fraction, exponent⟩ := n
  obtain ⟨hwhole, hfraction, hsome, hexponent⟩ := h
  dsimp only at hwhole hfraction hsome hexponent
  -- behind the digits on either side of the point stands the marker of the exponent, or nothing
  let tail := (exponent.map Exponent.chars).getD []
  have htail : ∀ c, tail.head? = some c → c = 'e' ∨ c = 'E' := by
    intro c hc
    cases exponent with
    | none => cases hc
    | some e =>
      cases hc
      exact (hexponent e rfl).marker
  have hmarker : ∀ c, tail.head? = some c → isDecimalDigit c = false := by
    intro c hc
    rcases htail c hc with rfl | rfl <;> decide
  have htake : takeFraction (fractionChars fraction ++ tail) = (fraction, tail) := by
    cases fraction with
    | none =>
      refine takeFraction.eq_2 tail fun rest htext => ?_
      have hpoint := htail '.' (by rw [htext]; rfl)
      revert hpoint
      decide
    | some digits =>
      obtain ⟨htaken, hleft⟩ := span_append hfraction hmarker
      rw [fractionChars, List.cons_append, takeFraction]
      exact Prod.ext (congrArg some htaken) hleft
  have hbody : ∀ c, (fractionChars fraction ++ tail).head? = some c → c = '.' ∨ c = 'e' ∨ c = 'E' := by
    intro c hc
    cases fraction with
    | none => exact .inr (htail c hc)
    | some digits =>
      cases hc
      exact .inl rfl
  obtain ⟨hdigits, hrest⟩ := span_append hwhole fun c hc => by
    rcases hbody c hc with rfl | rfl | rfl <;> decide
  have hsign : takeSign (signChars sign ++ (whole ++ (fractionChars fraction ++ tail))) =
      (sign, whole ++ (fractionChars fraction ++ tail)) := by
    refine takeSign_signChars sign fun c hc => ?_
    cases whole with
    | nil => rcases hbody c hc with rfl | rfl | rfl <;> decide
    | cons first whole =>
      cases hc
      exact ne_sign_of_isDecimalDigit (hwhole c List.mem_cons_self)
  have hdigit : (whole.isEmpty && (fraction.getD []).isEmpty) = false := by
    rw [Bool.and_eq_false_iff, List.isEmpty_eq_false_iff, List.isEmpty_eq_false_iff]
    exact hsome
  dsimp only [chars, parse?]
  rw [hsign, hdigits, hrest, htake]
  dsimp only
  rw [hdigit, if_neg Bool.false_ne_true]
  cases exponent with
  | none => rfl
  | some e =>
    have hread : Exponent.parse? tail = some e := Exponent.parse?_chars (hexponent e rfl)
    rw [hread]
    rfl

end Numeral

/-! ### Numerals and the language -/

namespace NumberPattern

variable {text : List Char}

private theorem mem_mantissa : text ∈ mantissa ↔ ∃ whole fraction, text = whole ++ Numeral.fractionChars fraction ∧
    (∀ c ∈ whole, isDecimalDigit c) ∧ (∀ c ∈ fraction.getD [], isDecimalDigit c) ∧
    (whole ≠ [] ∨ fraction.getD [] ≠ []) := by
  rw [mantissa, Language.mem_add, Language.mem_mul, Language.mem_mul]
  constructor
  · rintro (⟨whole, hwhole, tail, htail, rfl⟩ | ⟨_, hpoint, after, hafter, rfl⟩)
    · obtain ⟨hne, hdigits⟩ := mem_someDigits.1 hwhole
      rcases mem_optionally.1 htail with rfl | htail
      · exact ⟨whole, none, rfl, hdigits, by simp, .inl hne⟩
      · obtain ⟨_, hpoint, after, hafter, rfl⟩ := Language.mem_mul.1 htail
        obtain rfl := mem_point.1 hpoint
        exact ⟨whole, some after, rfl, hdigits, mem_digits.1 hafter, .inl hne⟩
    · obtain ⟨hne, hdigits⟩ := mem_someDigits.1 hafter
      obtain rfl := mem_point.1 hpoint
      exact ⟨[], some after, rfl, by simp, hdigits, .inr hne⟩
  · rintro ⟨whole, fraction, rfl, hwhole, hfraction, hsome⟩
    cases fraction with
    | none =>
      have hne : whole ≠ [] := hsome.resolve_right (by simp)
      exact .inl ⟨whole, mem_someDigits.2 ⟨hne, hwhole⟩, [], mem_optionally.2 (.inl rfl), rfl⟩
    | some after =>
      by_cases hne : whole = []
      · subst hne
        have hafter : after ≠ [] := hsome.resolve_left (by simp)
        exact .inr ⟨['.'], mem_point.2 rfl, after, mem_someDigits.2 ⟨hafter, hfraction⟩, rfl⟩
      · have htail : '.' :: after ∈ point * digits :=
          Language.mem_mul.2 ⟨['.'], mem_point.2 rfl, after, mem_digits.2 hfraction, rfl⟩
        exact .inl ⟨whole, mem_someDigits.2 ⟨hne, hwhole⟩, _, mem_optionally.2 (.inr htail), rfl⟩

private theorem mem_exponent : text ∈ exponent ↔ ∃ e : Exponent, e.WellFormed ∧ e.chars = text := by
  rw [exponent, Language.mem_mul]
  constructor
  · rintro ⟨_, hfront, digits, hdigits, rfl⟩
    obtain ⟨_, hmarker, _, hsign, rfl⟩ := Language.mem_mul.1 hfront
    obtain ⟨marker, hletter, rfl⟩ := mem_marker.1 hmarker
    obtain ⟨sign, rfl⟩ := mem_optionally_sign.1 hsign
    obtain ⟨hne, hdigits⟩ := mem_someDigits.1 hdigits
    exact ⟨⟨marker, sign, digits⟩, ⟨hletter, hne, hdigits⟩, rfl⟩
  · rintro ⟨⟨marker, sign, digits⟩, ⟨hletter, hne, hdigits⟩, rfl⟩
    have hfront : marker :: signChars sign ∈ NumberPattern.marker * optionally NumberPattern.sign :=
      Language.mem_mul.2 ⟨[marker], mem_marker.2 ⟨marker, hletter, rfl⟩, _, mem_optionally_sign.2 ⟨sign, rfl⟩, rfl⟩
    exact ⟨_, hfront, digits, mem_someDigits.2 ⟨hne, hdigits⟩, rfl⟩

end NumberPattern

namespace Numeral

open NumberPattern

variable {text : List Char}

/-- The texts of the pattern are the characters of well-formed numerals. -/
theorem mem_numberPattern_iff : text ∈ numberPattern ↔ ∃ n : Numeral, n.WellFormed ∧ n.chars = text := by
  rw [numberPattern, Language.mem_mul]
  constructor
  · rintro ⟨_, hfront, tail, htail, rfl⟩
    obtain ⟨_, hsign, _, hbody, rfl⟩ := Language.mem_mul.1 hfront
    obtain ⟨sign, rfl⟩ := mem_optionally_sign.1 hsign
    obtain ⟨whole, fraction, rfl, hwhole, hfraction, hsome⟩ := mem_mantissa.1 hbody
    rcases mem_optionally.1 htail with rfl | htail
    · exact ⟨⟨sign, whole, fraction, none⟩, ⟨hwhole, hfraction, hsome, by simp⟩, by simp [chars]⟩
    · obtain ⟨e, he, rfl⟩ := mem_exponent.1 htail
      refine ⟨⟨sign, whole, fraction, some e⟩, ⟨hwhole, hfraction, hsome, ?_⟩, by simp [chars]⟩
      rintro _ ⟨⟩
      exact he
  · rintro ⟨⟨sign, whole, fraction, exponent⟩, ⟨hwhole, hfraction, hsome, hexponent⟩, rfl⟩
    have hfront := Language.append_mem_mul (mem_optionally_sign.2 ⟨sign, rfl⟩)
      (mem_mantissa.2 ⟨whole, fraction, rfl, hwhole, hfraction, hsome⟩)
    have htail : (exponent.map Exponent.chars).getD [] ∈ optionally NumberPattern.exponent := by
      cases exponent with
      | none => exact mem_optionally.2 (.inl rfl)
      | some e => exact mem_optionally.2 (.inr (mem_exponent.2 ⟨e, hexponent e rfl, rfl⟩))
    exact ⟨_, hfront, _, htail, by simp [chars]⟩

/-- A text is read as a numeral if and only if it is in the pattern. -/
theorem isSome_parse?_iff : (parse? text).isSome ↔ text ∈ numberPattern := by
  rw [mem_numberPattern_iff, Option.isSome_iff_exists]
  constructor
  · rintro ⟨n, h⟩
    exact ⟨n, wellFormed_of_parse? h, chars_of_parse? h⟩
  · rintro ⟨n, hn, rfl⟩
    exact ⟨n, parse?_chars hn⟩

end Numeral

end SceneDescription
