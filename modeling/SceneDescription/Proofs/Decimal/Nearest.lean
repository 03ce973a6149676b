import SceneDescription.Proofs.Decimal.BitPatterns
import SceneDescription.Token.Numeral

/-!
# The double nearest to a numeral

Doubles without a sign are ordered as their patterns are, and the pattern of the infinity follows the largest one as if
it stood for one more power of two.  Among all these, `nearestBits` gives the pattern of the double nearest to a
fraction, and of two equally near ones the even one (`nearestPattern_nearestBits`).  There is no other such pattern
(`NearestPattern.unique`).  Decimals that are too large or too small to be computed with make no exception
(`nearestPattern_decimal`).  So a numeral denotes the double nearest to it (`Numeral.toBits_toFloat`).
-/

namespace SceneDescription

/-! ### Values of patterns -/

/-- The value of a pattern without a sign, in units of the least positive double: the exponent is in front of the 52
bits of the fraction, and a number has a further leading bit unless its exponent is zero. -/
def patternUnits (bits : ℕ) : ℕ :=
  if bits / 2 ^ 52 = 0 then bits % 2 ^ 52 else (2 ^ 52 + bits % 2 ^ 52) * 2 ^ (bits / 2 ^ 52 - 1)

/-- The value of a pattern without a sign. -/
def patternValue (bits : ℕ) : ℚ :=
  patternUnits bits * 2 ^ (-1074 : ℤ)

/-- A pattern is that of the double nearest to a number, and even if another double is as near. -/
structure NearestPattern (x : ℚ) (bits : ℕ) : Prop where
  le_infinity : bits ≤ infinityBits
  nearest : ∀ other ≤ infinityBits, |patternValue bits - x| ≤ |patternValue other - x|
  even_of_tie : ∀ other ≤ infinityBits, patternValue other ≠ patternValue bits →
    |patternValue bits - x| = |patternValue other - x| → Even bits

variable {E r : ℕ}

/-- One more power of two makes up for one bit of the significand. -/
private theorem carry (d : ℕ) : 2 ^ 53 * 2 ^ d = 2 ^ 52 * 2 ^ (d + 1) := by
  rw [Nat.pow_succ' (n := d), ← Nat.mul_assoc]
  rfl

/-- A significand stands next to its exponent; it may carry into it. -/
private theorem patternUnits_add (hr : r ≤ 2 ^ 53) (hE : E = 0 ∨ 2 ^ 52 ≤ r) :
    patternUnits (E * 2 ^ 52 + r) = r * 2 ^ E := by
  unfold patternUnits
  rcases Nat.lt_or_ge r (2 ^ 52) with hshort | hlong
  · obtain rfl : E = 0 := by omega
    rw [if_pos (by omega)]
    omega
  rcases Nat.eq_or_lt_of_le hr with rfl | hlt
  · have hexponent : (E * 2 ^ 52 + 2 ^ 53) / 2 ^ 52 = E + 2 := by omega
    have hfraction : (E * 2 ^ 52 + 2 ^ 53) % 2 ^ 52 = 0 := by omega
    rw [hexponent, hfraction, if_neg (by omega), Nat.add_zero, show E + 2 - 1 = E + 1 from rfl, carry]
  · have hexponent : (E * 2 ^ 52 + r) / 2 ^ 52 = E + 1 := by omega
    have hfraction : 2 ^ 52 + (E * 2 ^ 52 + r) % 2 ^ 52 = r := by omega
    rw [hexponent, hfraction, if_neg (by omega), Nat.add_sub_cancel]

/-- The exponent and the significand of a pattern. -/
private theorem exists_significand (bits : ℕ) : ∃ E r, bits = E * 2 ^ 52 + r ∧ r < 2 ^ 53 ∧ (E = 0 ∨ 2 ^ 52 ≤ r) :=
  ⟨bits / 2 ^ 52 - 1, bits - (bits / 2 ^ 52 - 1) * 2 ^ 52, by omega, by omega, by omega⟩

/-- Doubles are ordered as their patterns. -/
theorem patternUnits_strictMono : StrictMono patternUnits := by
  refine strictMono_nat_of_lt_succ fun bits => ?_
  obtain ⟨E, r, rfl, hr, hE⟩ := exists_significand bits
  rw [Nat.add_assoc, patternUnits_add hr.le hE, patternUnits_add hr (by omega)]
  exact Nat.mul_lt_mul_of_pos_right (Nat.lt_succ_self r) (Nat.two_pow_pos E)

theorem patternValue_strictMono : StrictMono patternValue := fun _ _ h =>
  mul_lt_mul_of_pos_right (Nat.cast_lt.2 (patternUnits_strictMono h)) (by positivity)

/-- There is no more than one such pattern. -/
theorem NearestPattern.unique {x : ℚ} {bits other : ℕ} (h : NearestPattern x bits) (h' : NearestPattern x other) :
    bits = other := by
  wlog hlt : bits < other generalizing bits other
  · rcases Nat.lt_or_ge other bits with hgt | hle
    · exact (this h' h hgt).symm
    · omega
  have hdistance : |patternValue bits - x| = |patternValue other - x| :=
    le_antisymm (h.nearest _ h'.le_infinity) (h'.nearest _ h.le_infinity)
  have hvalue := patternValue_strictMono hlt
  -- The number is in the middle, so there is no pattern between the two, and one of them is odd.
  have hmiddle : x - patternValue bits = patternValue other - x := by
    rcases abs_eq_abs.1 hdistance with hsame | hopposite <;> linarith
  have hnext : bits + 1 = other := by
    by_contra hne
    have hbelow := patternValue_strictMono (Nat.lt_succ_self bits)
    have habove := patternValue_strictMono (show bits + 1 < other by omega)
    have hnear := h.nearest (bits + 1) (by have := h'.le_infinity; omega)
    rw [abs_of_nonpos (by linarith), le_abs] at hnear
    rcases hnear with hnear | hnear <;> linarith
  have heven := h.even_of_tie other h'.le_infinity hvalue.ne' hdistance
  have heven' := h'.even_of_tie bits h.le_infinity hvalue.ne hdistance.symm
  rw [← hnext] at heven'
  exact absurd heven (by simpa [Nat.even_add_one] using heven')

/-- With a larger exponent, or the same, a value is a multiple of the given unit; else it is below the significands of
full length. -/
private theorem patternUnits_cases (bits E : ℕ) :
    (∃ k, patternUnits bits = k * 2 ^ E) ∨ (0 < E ∧ patternUnits bits < 2 ^ 52 * 2 ^ E) := by
  obtain ⟨F, r, rfl, hr, hF⟩ := exists_significand bits
  rw [patternUnits_add hr.le hF]
  rcases Nat.lt_or_ge F E with hbelow | habove
  · obtain ⟨d, rfl⟩ : ∃ d, E = d + 1 := ⟨E - 1, by omega⟩
    refine .inr ⟨Nat.succ_pos d, ?_⟩
    calc r * 2 ^ F < 2 ^ 53 * 2 ^ F := Nat.mul_lt_mul_of_pos_right hr (Nat.two_pow_pos F)
      _ ≤ 2 ^ 53 * 2 ^ d := Nat.mul_le_mul_left _ (Nat.pow_le_pow_right (by decide) (by omega))
      _ = 2 ^ 52 * 2 ^ (d + 1) := carry d
  · obtain ⟨d, rfl⟩ := Nat.exists_eq_add_of_le habove
    exact .inl ⟨r * 2 ^ d, by rw [Nat.pow_add, Nat.mul_assoc, Nat.mul_comm (2 ^ E)]⟩

private theorem patternUnits_infinityBits : patternUnits infinityBits = 2 ^ 52 * 2 ^ (2045 + 1) := by
  have hpattern : infinityBits = (2045 + 1) * 2 ^ 52 + 2 ^ 52 := rfl
  rw [hpattern]
  exact patternUnits_add (by omega) (.inr le_rfl)

/-! ### Rounding to an integer -/

/-- An integer is the nearest one to a number, and even if another one is as near. -/
def NearestInteger (y : ℚ) (r : ℕ) : Prop :=
  ∀ k : ℕ, |r - y| < |k - y| ∨ |r - y| = |k - y| ∧ (k = r ∨ Even r)

/-- A quotient is rounded down or up according to the rest, and to the even side in the middle. -/
private theorem roundDiv_cases (num den : ℕ) :
    (roundDiv num den = num / den ∧ 2 * (num % den) ≤ den ∧ (2 * (num % den) = den → num / den % 2 = 0)) ∨
      (roundDiv num den = num / den + 1 ∧ den ≤ 2 * (num % den) ∧ (2 * (num % den) = den → num / den % 2 = 1)) := by
  unfold roundDiv
  dsimp only
  split
  · omega
  split <;> omega

/-- Rounding a quotient gives the nearest integer. -/
private theorem nearestInteger_roundDiv (num : ℕ) {den : ℕ} (hden : 0 < den) :
    NearestInteger (num / den) (roundDiv num den) := by
  intro k
  have hpos : (0 : ℚ) < den := by exact_mod_cast hden
  -- The distances in units of the denominator are integers.
  have hdistance (j : ℕ) : |(j : ℚ) - num / den| = (((j * den : ℕ) - num : ℤ).natAbs : ℚ) / den := by
    rw [Nat.cast_natAbs, Int.cast_abs, ← abs_of_pos hpos, ← abs_div, abs_of_pos hpos]
    congr 1
    push_cast
    field_simp
  rw [hdistance, hdistance, div_lt_div_iff_of_pos_right hpos, div_left_inj' hpos.ne', Nat.cast_lt, Nat.cast_inj]
  have hrest : num % den < den := Nat.mod_lt _ hden
  have hnum : num / den * den + num % den = num := Nat.div_add_mod' num den
  have hup : (num / den + 1) * den = num / den * den + den := Nat.succ_mul _ _
  have hk : k * den + den ≤ num / den * den ∨ k = num / den ∨ k = num / den + 1 ∨
      (num / den + 1) * den + den ≤ k * den := by
    rcases Nat.lt_or_ge k (num / den) with hbelow | habove
    · exact .inl (Nat.succ_mul k den ▸ Nat.mul_le_mul_right den hbelow)
    rcases Nat.lt_or_ge (num / den + 1) k with hbeyond | hnext
    · exact .inr (.inr (.inr (Nat.succ_mul _ den ▸ Nat.mul_le_mul_right den hbeyond)))
    · omega
  rw [Nat.even_iff]
  rcases roundDiv_cases num den with ⟨hr, hhalf, heven⟩ | ⟨hr, hhalf, hodd⟩ <;> rw [hr] <;>
    rcases hk with hk | rfl | rfl | hk <;> omega

/-! ### Rounding to a pattern -/

/-- It is enough to compare patterns in units of the least positive double. -/
private theorem nearestPattern_of_units {z : ℚ} {bits : ℕ} (hle : bits ≤ infinityBits)
    (h : ∀ other ≤ infinityBits, |patternUnits bits - z| < |patternUnits other - z| ∨
      |patternUnits bits - z| = |patternUnits other - z| ∧ (patternUnits other = patternUnits bits ∨ Even bits)) :
    NearestPattern (z * 2 ^ (-1074 : ℤ)) bits := by
  have hpos : (0 : ℚ) < 2 ^ (-1074 : ℤ) := by positivity
  have hdistance (bits : ℕ) : |patternValue bits - z * 2 ^ (-1074 : ℤ)| =
      |patternUnits bits - z| * 2 ^ (-1074 : ℤ) := by
    rw [patternValue, ← sub_mul, abs_mul, abs_of_pos hpos]
  refine ⟨hle, fun other hother => ?_, fun other hother hne htie => ?_⟩
  · rw [hdistance, hdistance]
    exact mul_le_mul_of_nonneg_right ((h other hother).elim le_of_lt fun h => h.1.le) hpos.le
  · rw [hdistance, hdistance, mul_left_inj' hpos.ne'] at htie
    rcases h other hother with hlt | ⟨-, hsame | heven⟩
    · exact absurd htie hlt.ne
    · exact absurd (congrArg (fun units : ℕ => (units : ℚ) * 2 ^ (-1074 : ℤ)) hsame) hne
    · exact heven

/-- The infinity is nearest to whatever is at least as large. -/
private theorem nearestPattern_infinityBits {z : ℚ} (h : patternUnits infinityBits ≤ z) :
    NearestPattern (z * 2 ^ (-1074 : ℤ)) infinityBits := by
  refine nearestPattern_of_units le_rfl fun other hother => ?_
  have hle : (patternUnits other : ℚ) ≤ patternUnits infinityBits := by
    exact_mod_cast patternUnits_strictMono.monotone hother
  rw [abs_of_nonpos (by linarith), abs_of_nonpos (by linarith)]
  rcases hle.eq_or_lt with hsame | hless
  · exact .inr ⟨by rw [hsame], .inl (by exact_mod_cast hsame)⟩
  · exact .inl (by linarith)

section

variable {y : ℚ} (h : NearestInteger y r)

include h

/-- Rounding does not go past an integer. -/
private theorem NearestInteger.le {k : ℕ} (hy : y ≤ k) : r ≤ k := by
  by_contra hlt
  rw [Nat.not_le] at hlt
  have hcast : (k : ℚ) < r := by exact_mod_cast hlt
  have hnear := h k
  rw [abs_of_nonneg (by linarith), abs_of_nonneg (by linarith)] at hnear
  rcases hnear with hnear | ⟨hnear, -⟩ <;> linarith

private theorem NearestInteger.ge {k : ℕ} (hy : k ≤ y) : k ≤ r := by
  by_contra hlt
  rw [Nat.not_le] at hlt
  have hcast : (r : ℚ) < k := by exact_mod_cast hlt
  have hnear := h k
  rw [abs_of_nonpos (by linarith), abs_of_nonpos (by linarith)] at hnear
  rcases hnear with hnear | ⟨hnear, -⟩ <;> linarith

private theorem NearestInteger.abs_sub_le {k : ℕ} (hy : k ≤ y) : |r - y| ≤ y - k := by
  have hnear := h k
  rw [abs_of_nonpos (sub_nonpos.2 hy), neg_sub] at hnear
  exact hnear.elim le_of_lt fun hnear => hnear.1.le

/-- The significand that is nearest for an exponent is nearer than any other value, or as near and even. -/
private theorem NearestInteger.units (hge : E = 0 ∨ 2 ^ 52 ≤ y) (other : ℕ) :
    |(r * 2 ^ E : ℕ) - y * 2 ^ E| < |patternUnits other - y * 2 ^ E| ∨
      |(r * 2 ^ E : ℕ) - y * 2 ^ E| = |patternUnits other - y * 2 ^ E| ∧
        (patternUnits other = r * 2 ^ E ∨ Even r) := by
  have hpos : (0 : ℚ) < 2 ^ E := by positivity
  have hscaled (k : ℕ) : |((k * 2 ^ E : ℕ) : ℚ) - y * 2 ^ E| = |k - y| * 2 ^ E := by
    rw [← abs_of_pos hpos, ← abs_mul, abs_of_pos hpos]
    push_cast
    ring_nf
  rcases patternUnits_cases other E with ⟨k, hk⟩ | ⟨hE, hbelow⟩
  · rw [hk, hscaled, hscaled]
    rcases h k with hnear | ⟨htie, heven⟩
    · exact .inl (mul_lt_mul_of_pos_right hnear hpos)
    · exact .inr ⟨by rw [htie], heven.imp (congrArg (· * 2 ^ E)) id⟩
  · -- The least significand of full length lies between the other value and the number.
    have hfull : 2 ^ 52 ≤ y := hge.resolve_left (by omega)
    have hcast : (patternUnits other : ℚ) < 2 ^ 52 * 2 ^ E := by exact_mod_cast hbelow
    have hleast : |r - y| ≤ y - 2 ^ 52 := by exact_mod_cast h.abs_sub_le (k := 2 ^ 52) (by exact_mod_cast hfull)
    have hgap : patternUnits other - y * 2 ^ E < 0 := by
      have hfar := mul_le_mul_of_nonneg_right hfull hpos.le
      linarith
    refine .inl ?_
    calc |((r * 2 ^ E : ℕ) : ℚ) - y * 2 ^ E| = |r - y| * 2 ^ E := hscaled r
      _ ≤ (y - 2 ^ 52) * 2 ^ E := mul_le_mul_of_nonneg_right hleast hpos.le
      _ < y * 2 ^ E - patternUnits other := by linarith
      _ = |patternUnits other - y * 2 ^ E| := by rw [abs_of_neg hgap, neg_sub]

/-- The significand that is nearest for an exponent makes up the pattern of the nearest double, unless there is none as
large; then the infinity is next to the largest one. -/
private theorem NearestInteger.pattern (hlt : y ≤ 2 ^ 53) (hge : E = 0 ∨ 2 ^ 52 ≤ y) :
    NearestPattern (y * 2 ^ E * 2 ^ (-1074 : ℤ)) (min infinityBits (E * 2 ^ 52 + r)) := by
  have hr : r ≤ 2 ^ 53 := h.le (by exact_mod_cast hlt)
  have hE : E = 0 ∨ 2 ^ 52 ≤ r := hge.imp id fun hy => h.ge (by exact_mod_cast hy)
  rcases Nat.lt_or_ge infinityBits (E * 2 ^ 52 + r) with hlarge | hfinite
  · have hbits : infinityBits = 2047 * 2 ^ 52 := rfl
    have hfull : 2 ^ 52 ≤ y := hge.resolve_left (by omega)
    have hpower : (2 : ℚ) ^ (2045 + 1) ≤ 2 ^ E := pow_le_pow_right₀ (by norm_num) (by omega)
    rw [min_eq_left hlarge.le]
    refine nearestPattern_infinityBits ?_
    rw [patternUnits_infinityBits, Nat.cast_mul, Nat.cast_pow, Nat.cast_pow, Nat.cast_ofNat]
    exact mul_le_mul hfull hpower (by positivity) (le_trans (by positivity) hfull)
  · rw [min_eq_right hfinite]
    refine nearestPattern_of_units hfinite fun other _ => ?_
    rw [patternUnits_add hr hE]
    refine (h.units hge other).imp id fun ⟨htie, heven⟩ => ⟨htie, heven.imp id fun hr => ?_⟩
    exact (Nat.even_mul.2 (.inr (by decide))).add hr

end

/-! ### The pattern of a fraction -/

private theorem powerParts_pos {base : ℕ} (hbase : 0 < base) (e : ℤ) :
    0 < (powerParts base e).1 ∧ 0 < (powerParts base e).2 :=
  ⟨Nat.pow_pos hbase, Nat.pow_pos hbase⟩

private theorem powerParts_div {base : ℕ} (hbase : 0 < base) (e : ℤ) :
    ((powerParts base e).1 : ℚ) / (powerParts base e).2 = (base : ℚ) ^ e := by
  have hne : (base : ℚ) ≠ 0 := by exact_mod_cast hbase.ne'
  rcases Int.eq_nat_or_neg e with ⟨n, rfl | rfl⟩ <;> simp [powerParts]

/-- Comparing two fractions without dividing. -/
theorem div_lt_zpow_iff {num den : ℕ} (hden : 0 < den) (e : ℤ) :
    (num / den : ℚ) < 2 ^ e ↔ num * (powerParts 2 e).2 < den * (powerParts 2 e).1 := by
  have hparts := powerParts_pos Nat.two_pos e
  have hpower := powerParts_div Nat.two_pos e
  rw [Nat.cast_ofNat] at hpower
  rw [← hpower, div_lt_div_iff₀ (by exact_mod_cast hden) (by exact_mod_cast hparts.2),
    mul_comm ((powerParts 2 e).1 : ℚ)]
  exact_mod_cast Iff.rfl

/-- The powers of two around a fraction, from the leading bits of its two parts. -/
private theorem zpow_le_div_lt {num den : ℕ} (hnum : num ≠ 0) (hden : den ≠ 0) :
    (2 : ℚ) ^ ((num.log2 : ℤ) - den.log2 - 1) ≤ num / den ∧ (num / den : ℚ) < 2 ^ ((num.log2 : ℤ) - den.log2 + 1) := by
  have htwo : (2 : ℚ) ≠ 0 := by norm_num
  have hnumLow : (2 : ℚ) ^ num.log2 ≤ num := by exact_mod_cast Nat.log2_self_le hnum
  have hnumHigh : (num : ℚ) < 2 ^ (num.log2 + 1) := by exact_mod_cast Nat.lt_log2_self
  have hdenLow : (2 : ℚ) ^ den.log2 ≤ den := by exact_mod_cast Nat.log2_self_le hden
  have hdenHigh : (den : ℚ) < 2 ^ (den.log2 + 1) := by exact_mod_cast Nat.lt_log2_self
  have hlow : (2 : ℚ) ^ ((num.log2 : ℤ) - den.log2 - 1) = 2 ^ num.log2 / 2 ^ (den.log2 + 1) := by
    rw [sub_sub, zpow_sub₀ htwo, zpow_natCast]
    norm_cast
  have hhigh : (2 : ℚ) ^ ((num.log2 : ℤ) - den.log2 + 1) = 2 ^ (num.log2 + 1) / 2 ^ den.log2 := by
    rw [sub_add_eq_add_sub, zpow_sub₀ htwo, zpow_natCast]
    norm_cast
  constructor
  · rw [hlow]
    gcongr
  · rw [hhigh]
    gcongr

private theorem zpow_fullExponent {num den : ℕ} (hnum : num ≠ 0) (hden : 0 < den) :
    (2 : ℚ) ^ (fullExponent num den + 52) ≤ num / den ∧ (num / den : ℚ) < 2 ^ (fullExponent num den + 53) := by
  obtain ⟨hge, hlt⟩ := zpow_le_div_lt hnum hden.ne'
  obtain ⟨low, hlow⟩ : ∃ low : ℤ, low = num.log2 - den.log2 - 53 := ⟨_, rfl⟩
  rw [show (num.log2 : ℤ) - den.log2 - 1 = low + 52 by omega] at hge
  rw [show (num.log2 : ℤ) - den.log2 + 1 = low + 1 + 53 by omega] at hlt
  unfold fullExponent
  dsimp only
  rw [← hlow]
  split
  · rename_i hsmall
    exact ⟨hge, (div_lt_zpow_iff hden _).2 hsmall⟩
  · rename_i hlarge
    rw [← div_lt_zpow_iff hden, not_lt, show low + 53 = low + 1 + 52 by omega] at hlarge
    exact ⟨hlarge, hlt⟩

/-- The pattern that is computed for a fraction is that of the nearest double. -/
theorem nearestPattern_nearestBits (num : ℕ) {den : ℕ} (hden : 0 < den) :
    NearestPattern (num / den) (nearestBits num den) := by
  unfold nearestBits
  split
  · subst num
    have hzero : NearestInteger 0 0 := by simpa [roundDiv] using nearestInteger_roundDiv 0 Nat.one_pos
    simpa using hzero.pattern (E := 0) (by norm_num) (.inl rfl)
  rename_i hnum
  obtain ⟨hge, hlt⟩ := zpow_fullExponent hnum hden
  dsimp only
  generalize hq : max (fullExponent num den) (-1074) = q
  have htwo : (2 : ℚ) ≠ 0 := by norm_num
  have hpower := powerParts_div Nat.two_pos q
  have hparts := powerParts_pos Nat.two_pos q
  rw [Nat.cast_ofNat] at hpower
  have hinteger := nearestInteger_roundDiv (num * (powerParts 2 q).2) (Nat.mul_pos hden hparts.1)
  have hvalue : ((num * (powerParts 2 q).2 : ℕ) : ℚ) / (den * (powerParts 2 q).1 : ℕ) = num / den / 2 ^ q := by
    rw [← hpower]
    push_cast
    have hup : ((powerParts 2 q).1 : ℚ) ≠ 0 := by exact_mod_cast hparts.1.ne'
    have hdown : ((powerParts 2 q).2 : ℚ) ≠ 0 := by exact_mod_cast hparts.2.ne'
    field_simp
  rw [hvalue] at hinteger
  have hscaled : (num / den : ℚ) = num / den / 2 ^ q * 2 ^ (q + 1074).toNat * 2 ^ (-1074 : ℤ) := by
    rw [← zpow_natCast, Int.toNat_of_nonneg (by omega), mul_assoc, ← zpow_add₀ htwo, add_neg_cancel_right,
      div_mul_cancel₀ _ (zpow_ne_zero _ htwo)]
  have hpos : (0 : ℚ) < 2 ^ q := by positivity
  have hfits : (num / den / 2 ^ q : ℚ) ≤ 2 ^ 53 := by
    have hbound : (2 : ℚ) ^ (fullExponent num den + 53) ≤ 2 ^ (53 + q) := zpow_le_zpow_right₀ (by norm_num) (by omega)
    rw [div_le_iff₀ hpos]
    exact hlt.le.trans (hbound.trans_eq (zpow_add₀ htwo 53 q))
  have hfull : (q + 1074).toNat = 0 ∨ (2 : ℚ) ^ 52 ≤ num / den / 2 ^ q := by
    by_cases hleast : (q + 1074).toNat = 0
    · exact .inl hleast
    · have hsame : 52 + q = fullExponent num den + 52 := by omega
      rw [le_div_iff₀ hpos]
      exact .inr ((zpow_add₀ htwo 52 q).symm.trans_le (hsame ▸ hge))
  rw [hscaled]
  exact hinteger.pattern hfits hfull

/-! ### The double of a decimal -/

/-- Numbers beyond all doubles go to the infinity. -/
private theorem nearestPattern_of_large {x : ℚ} (h : 2 ^ (1024 : ℤ) ≤ x) : NearestPattern x infinityBits := by
  have htwo : (2 : ℚ) ≠ 0 := by norm_num
  have hunits : (patternUnits infinityBits : ℚ) = 2 ^ (1024 : ℤ) / 2 ^ (-1074 : ℤ) := by
    rw [patternUnits_infinityBits, Nat.cast_mul, Nat.cast_pow, Nat.cast_pow, Nat.cast_ofNat, ← zpow_sub₀ htwo,
      ← pow_add, ← zpow_natCast]
    rfl
  have hlarge : (patternUnits infinityBits : ℚ) ≤ x / 2 ^ (-1074 : ℤ) := by
    rw [hunits]
    gcongr
  have hnearest := nearestPattern_infinityBits hlarge
  rwa [div_mul_cancel₀ _ (zpow_ne_zero _ htwo)] at hnearest

/-- Numbers below half of the least double go to zero. -/
private theorem nearestPattern_of_small {x : ℚ} (h0 : 0 ≤ x) (h : x < 2 ^ (-1075 : ℤ)) : NearestPattern x 0 := by
  have htwo : (2 : ℚ) ≠ 0 := by norm_num
  have hhalf : x / 2 ^ (-1074 : ℤ) < 1 / 2 := by
    rw [div_lt_iff₀ (by positivity)]
    refine h.trans_eq ?_
    rw [show (-1075 : ℤ) = -1 + -1074 from rfl, zpow_add₀ htwo, zpow_neg_one, one_div]
  have hy : 0 ≤ x / 2 ^ (-1074 : ℤ) := div_nonneg h0 (by positivity)
  have hinteger : NearestInteger (x / 2 ^ (-1074 : ℤ)) 0 := by
    intro k
    rcases Nat.eq_zero_or_pos k with rfl | hk
    · exact .inr ⟨rfl, .inl rfl⟩
    · have hone : (1 : ℚ) ≤ k := by exact_mod_cast hk
      refine .inl ?_
      rw [Nat.cast_zero, zero_sub, abs_neg, abs_of_nonneg hy, abs_of_nonneg (by linarith)]
      linarith
  have hnearest := hinteger.pattern (E := 0) (by linarith [show (1 / 2 : ℚ) ≤ 2 ^ 53 by norm_num]) (.inl rfl)
  rwa [pow_zero, mul_one, div_mul_cancel₀ _ (zpow_ne_zero _ htwo)] at hnearest

/-- A positive number has as many digits as powers of ten are below it. -/
private theorem pow_length_toDigits {m : ℕ} (hm : m ≠ 0) :
    10 ^ ((Nat.toDigits 10 m).length - 1) ≤ m ∧ m < 10 ^ (Nat.toDigits 10 m).length := by
  have hpos : 0 < (Nat.toDigits 10 m).length := Nat.length_toDigits_pos
  refine ⟨?_, (Nat.length_toDigits_le_iff (by decide) hpos).1 le_rfl⟩
  rcases Nat.eq_zero_or_pos ((Nat.toDigits 10 m).length - 1) with hone | hmore
  · rw [hone]
    omega
  · by_contra hlt
    have hshort := (Nat.length_toDigits_le_iff (by decide) hmore).2 (Nat.not_le.1 hlt)
    omega

private theorem two_zpow_le_ten_zpow : (2 : ℚ) ^ (1025 : ℤ) ≤ 10 ^ (310 : ℤ) := by
  have hfifth : ((2 : ℚ) ^ 205) ^ 5 ≤ (10 ^ 62) ^ 5 := by
    gcongr
    norm_num
  rw [← pow_mul, ← pow_mul] at hfifth
  exact hfifth

private theorem ten_zpow_le_two_zpow : (10 : ℚ) ^ (-330 : ℤ) ≤ 2 ^ (-1075 : ℤ) := by
  have hmost : (10 : ℚ) ^ (-310 : ℤ) ≤ 2 ^ (-1025 : ℤ) := by
    rw [zpow_neg, zpow_neg]
    exact inv_anti₀ (by positivity) two_zpow_le_ten_zpow
  calc (10 : ℚ) ^ (-330 : ℤ) = 10 ^ (-310 : ℤ) * 10 ^ (-20 : ℤ) := zpow_add₀ (by norm_num) (-310) (-20)
    _ ≤ 2 ^ (-1025 : ℤ) * 2 ^ (-50 : ℤ) := mul_le_mul hmost (by norm_num) (by positivity) (by positivity)
    _ = 2 ^ (-1075 : ℤ) := (zpow_add₀ (by norm_num) (-1025) (-50)).symm

/-- What is left out of the computation for its magnitude would have come to zero or to the infinity. -/
theorem nearestPattern_decimal (m : ℕ) (e : ℤ) :
    ∃ bits, NearestPattern (m * 10 ^ e) bits ∧ decimalFloat m e = Float.ofBits (.ofNat bits) := by
  have hten : (10 : ℚ) ≠ 0 := by norm_num
  unfold decimalFloat nearestFloat
  dsimp only
  by_cases hm : m = 0
  · subst hm
    refine ⟨_, ?_, if_pos rfl⟩
    simpa using nearestPattern_nearestBits 0 Nat.one_pos
  have hmQ : (0 : ℚ) < m := by exact_mod_cast Nat.pos_of_ne_zero hm
  obtain ⟨hlow, hhigh⟩ := pow_length_toDigits hm
  generalize (Nat.toDigits 10 m).length = digits at hlow hhigh ⊢
  rcases lt_or_ge (e + digits) (-330) with hsmall | hnotSmall
  · refine ⟨_, ?_, if_pos (by simp [hsmall])⟩
    refine nearestPattern_of_small (by positivity) ?_
    calc (m : ℚ) * 10 ^ e < 10 ^ digits * 10 ^ e := by gcongr; exact_mod_cast hhigh
      _ = 10 ^ (digits + e) := by rw [zpow_add₀ hten, zpow_natCast]
      _ ≤ 10 ^ (-330 : ℤ) := zpow_le_zpow_right₀ (by norm_num) (by omega)
      _ ≤ 2 ^ (-1075 : ℤ) := ten_zpow_le_two_zpow
  rw [if_neg (by simp [hm, hnotSmall])]
  rcases lt_or_ge 310 (e + digits) with hlarge | hnotLarge
  · refine ⟨_, ?_, if_pos hlarge⟩
    have hbits : nearestBits (Nat.pow 10 310) 1 = infinityBits := by decide +kernel
    rw [hbits]
    refine nearestPattern_of_large ?_
    calc (2 : ℚ) ^ (1024 : ℤ) ≤ 2 ^ (1025 : ℤ) := zpow_le_zpow_right₀ (by norm_num) (by decide)
      _ ≤ 10 ^ (310 : ℤ) := two_zpow_le_ten_zpow
      _ ≤ 10 ^ ((digits - 1 : ℕ) + e) := zpow_le_zpow_right₀ (by norm_num) (by omega)
      _ = 10 ^ (digits - 1) * 10 ^ e := by rw [zpow_add₀ hten, zpow_natCast]
      _ ≤ m * 10 ^ e := by gcongr; exact_mod_cast hlow
  · rw [if_neg (by omega)]
    refine ⟨_, ?_, rfl⟩
    have hparts := powerParts_pos (show 0 < 10 by decide) e
    have hpower := powerParts_div (show 0 < 10 by decide) e
    have hnearest := nearestPattern_nearestBits (m * (powerParts 10 e).1) hparts.2
    rwa [Nat.cast_mul, mul_div_assoc, hpower] at hnearest

/-- An integer is turned into the double nearest to it, with its sign, unless that would be infinite. -/
theorem toBits_integerFloat (i : ℤ) : ∃ bits, NearestPattern i.natAbs bits ∧
    (integerFloat? i).map (·.toBits.toNat) =
      if bits < infinityBits then some (if i < 0 then 2 ^ 63 + bits else bits) else none := by
  have hnearest := nearestPattern_nearestBits i.natAbs Nat.one_pos
  rw [Nat.cast_one, div_one] at hnearest
  refine ⟨_, hnearest, ?_⟩
  unfold integerFloat? nearestFloat
  split
  · rw [Option.map_some]
    split
    · rw [toBits_neg_ofBits hnearest.le_infinity]
    · rw [toBits_ofBits hnearest.le_infinity]
  · rfl

namespace Numeral

/-- The number that a numeral without its sign denotes. -/
def magnitude (n : Numeral) : ℚ :=
  n.significand * 10 ^ n.scale

/-- A numeral denotes the double nearest to it, with its sign. -/
theorem toBits_toFloat (n : Numeral) : ∃ bits, NearestPattern n.magnitude bits ∧
    n.toFloat.toBits.toNat = if n.sign = some .minus then 2 ^ 63 + bits else bits := by
  obtain ⟨bits, hnearest, hdouble⟩ := nearestPattern_decimal n.significand n.scale
  refine ⟨bits, hnearest, ?_⟩
  unfold toFloat
  rw [hdouble]
  split
  · exact toBits_neg_ofBits hnearest.le_infinity
  · exact toBits_ofBits hnearest.le_infinity

end Numeral

end SceneDescription
