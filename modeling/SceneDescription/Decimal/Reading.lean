import SceneDescription.Decimal.Binary64

/-!
# Reading decimals

The double nearest to a decimal fraction.  Exponents may be arbitrarily large in either direction, so magnitudes
that are certainly beyond the range of doubles are recognised by their number of digits before any power is
computed.
-/

namespace SceneDescription

/-- The double nearest to `m · 10 ^ e`. -/
def decimalFloat (m : Nat) (e : Int) : Float :=
  let magnitude := e + (Nat.toDigits 10 m).length
  if m = 0 || magnitude < -330 then nearestFloat 0 1
  else if 310 < magnitude then nearestFloat (Nat.pow 10 310) 1
  else
    let (up, down) := powerParts 10 e
    nearestFloat (m * up) down

/-- The double nearest to an integer; `none` if it is beyond the range of doubles. -/
def integerFloat? (i : Int) : Option Float :=
  if nearestBits i.natAbs 1 < infinityBits then
    let magnitude := nearestFloat i.natAbs 1
    some (if i < 0 then -magnitude else magnitude)
  else none

end SceneDescription
