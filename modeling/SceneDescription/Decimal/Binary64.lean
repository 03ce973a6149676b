/-!
# Double-precision numbers as exact fractions

A finite double is a signed natural number times a power of two.  `Binary64.ofFloat` reads these parts off the
bit pattern, and `nearestBits` goes the other way: it rounds an exact fraction to the nearest double, a tie
going to the even neighbour.
-/

namespace SceneDescription

/-- The value of a double: `± m · 2 ^ q`, an infinity, or not a number. -/
inductive Binary64
  | finite (negative : Bool) (m : Nat) (q : Int)
  | infinite (negative : Bool)
  | nan
  deriving DecidableEq

/-- The parts of a double, read off its bit pattern: sign, eleven bits of exponent, 52 bits of fraction. -/
def Binary64.ofFloat (x : Float) : Binary64 :=
  let bits := x.toBits.toNat
  let negative := decide (Nat.pow 2 63 ≤ bits)
  let exponent : Nat := bits / Nat.pow 2 52 % Nat.pow 2 11
  let fraction := bits % Nat.pow 2 52
  if exponent = 2047 then
    if fraction = 0 then .infinite negative else .nan
  else if exponent = 0 then .finite negative fraction (-1074)
  else .finite negative (Nat.pow 2 52 + fraction) ((exponent : Int) - 1075)

/-- The natural number nearest to `num / den`, a tie going to the even one. -/
def roundDiv (num den : Nat) : Nat :=
  let quotient := num / den
  let twice := 2 * (num % den)
  if twice < den then quotient
  else if den < twice then quotient + 1
  else quotient + quotient % 2

/-- The powers of `base` that turn `x · base ^ e` into the fraction `x · up / down`. -/
def powerParts (base : Nat) (e : Int) : Nat × Nat :=
  (base.pow e.toNat, base.pow (-e).toNat)

/-- The bit pattern of the infinity. -/
def infinityBits : Nat := 2047 * Nat.pow 2 52

/-- The exponent with which the significand of a fraction has 53 bits. -/
def fullExponent (num den : Nat) : Int :=
  -- `num / den` lies between `2 ^ (low + 52)` and `2 ^ (low + 54)`
  let low : Int := (num.log2 : Int) - den.log2 - 53
  let (up, down) := powerParts 2 (low + 53)
  if num * down < den * up then low else low + 1

/-- The bit pattern of the double nearest to `num / den`: the fraction is rounded to a significand of 53 bits,
or of fewer at the lower end of the range.  A significand that rounds up to `2 ^ 53` carries into the exponent,
which stands next to it in the pattern; that is also how the largest values reach the infinity. -/
def nearestBits (num den : Nat) : Nat :=
  if num = 0 then 0
  else
    let q := max (fullExponent num den) (-1074)
    let (up, down) := powerParts 2 q
    min infinityBits ((q + 1074).toNat * Nat.pow 2 52 + roundDiv (num * down) (den * up))

/-- The double nearest to `num / den`. -/
def nearestFloat (num den : Nat) : Float :=
  Float.ofBits (UInt64.ofNat (nearestBits num den))

end SceneDescription
