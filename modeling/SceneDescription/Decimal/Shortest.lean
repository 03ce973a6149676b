import SceneDescription.Decimal.Binary64

/-!
# Decimal digits of a double

`shortestDigits` gives the fewest decimal digits that read back as the same double, and `roundedDigits` a fixed
number of digits, rounded half to even.  Both compute with exact fractions.  A result `(d, e)` stands for `d ·
10 ^ e`.
-/

namespace SceneDescription

/-- Whether `10 ^ k ≤ m · 2 ^ q`. -/
def powerOfTenLE (k : Int) (m : Nat) (q : Int) : Bool :=
  let (tenUp, tenDown) := powerParts 10 k
  let (twoUp, twoDown) := powerParts 2 q
  tenUp * twoDown ≤ m * twoUp * tenDown

/-- The exponent `k` with `10 ^ k ≤ m · 2 ^ q < 10 ^ (k + 1)`, for a positive `m`.  The logarithm of the leading
power of two is at most one too small, or, by rounding, one too large. -/
def leadingExponent (m : Nat) (q : Int) : Int :=
  let estimate := ((m.log2 + q) * 30103).fdiv 100000
  if powerOfTenLE (estimate + 1) m q then estimate + 1
  else if powerOfTenLE estimate m q then estimate
  else estimate - 1

/-- The numerator and denominator of `m · 2 ^ q / 10 ^ e`. -/
def inUnitsOfTen (m : Nat) (q e : Int) : Nat × Nat :=
  let (tenUp, tenDown) := powerParts 10 e
  let (twoUp, twoDown) := powerParts 2 q
  (m * twoUp * tenDown, tenUp * twoDown)

/-- The first `count` significant digits of `m · 2 ^ q`, rounded half to even. -/
def roundedDigits (count m : Nat) (q : Int) : Nat × Int :=
  let e := leadingExponent m q - (count - 1 : Nat)
  let (num, den) := inUnitsOfTen m q e
  let d := roundDiv num den
  if d < Nat.pow 10 count then (d, e) else (d / 10, e + 1)

/-- The multiple of `10 ^ e` nearest to `m · 2 ^ q` among those that read back as this double, if there is
one.  The numbers that read back as it reach half way to the neighbouring doubles, and include the two ends when
`m` is even; the lower neighbour of a power of two is half as far away. -/
def shortestAt? (m : Nat) (q e : Int) : Option Nat :=
  let (unit, den) := inUnitsOfTen 1 (q - 2) e
  let centre := 4 * m * unit
  let lower := (if m = Nat.pow 2 52 && q ≠ -1074 then 4 * m - 1 else 4 * m - 2) * unit
  let upper := (4 * m + 2) * unit
  let readsBack (d : Nat) : Bool :=
    if m % 2 = 0 then lower ≤ d * den && d * den ≤ upper else lower < d * den && d * den < upper
  let below := centre / den
  let above := below + 1
  if readsBack below && readsBack above then some (roundDiv centre den)
  else if readsBack below then some below
  else if readsBack above then some above
  else none

/-- Moves the trailing zeros of `d` into the exponent. -/
def dropTrailingZeros (d : Nat) (e : Int) : Nat × Int :=
  if h : 0 < d ∧ d % 10 = 0 then dropTrailingZeros (d / 10) (e + 1) else (d, e)
termination_by d
decreasing_by omega

/-- The fewest digits that read back as `m · 2 ^ q`, for a positive `m`; 17 digits are always enough. -/
def shortestDigits (m : Nat) (q : Int) : Nat × Int :=
  let k := leadingExponent m q
  let found := (List.range 17).findSome? fun (n : Nat) =>
    (shortestAt? m q (k - n)).map fun d => dropTrailingZeros d (k - n)
  found.getD (roundedDigits 17 m q)

end SceneDescription
