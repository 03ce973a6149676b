import SceneDescription.Decimal.Shortest
import SceneDescription.Text.Integer

/-!
# Texts of numbers

`exactText` writes the fewest digits that read back, positionally for decimal exponents from -4 up to 15 and with an
exponent otherwise; a number without an exponent always has a point.
-/

namespace SceneDescription

/-- A sign and at least two digits. -/
def exponentText (e : Int) : String :=
  let digits := Nat.repr e.natAbs
  (if e < 0 then "e-" else "e+") ++ (if digits.length < 2 then "0" ++ digits else digits)

/-- The digits with a point after the first `place` of them, filled with zeros on either side. -/
def positionalText (digits : List Char) (place : Int) : String :=
  let leading := List.replicate (1 - place).toNat '0' ++ digits
  let place := max place 1
  let padded := leading ++ List.replicate (place.toNat + 1 - leading.length) '0'
  String.ofList (padded.take place.toNat) ++ "." ++ String.ofList (padded.drop place.toNat)

/-- The digits with a point after the first of them, unless it is the only one, and the given exponent. -/
def scientificText (digits : List Char) (e : Int) : String :=
  let fraction := digits.drop 1
  String.ofList (digits.take 1) ++ (if fraction.isEmpty then "" else "." ++ String.ofList fraction) ++ exponentText e

/-- The sign of a written number. -/
def signText (negative : Bool) : String :=
  if negative then "-" else ""

/-- A double in the fewest digits that read back as it. -/
def exactText (x : Float) : String :=
  match Binary64.ofFloat x with
  | .nan => "nan"
  | .infinite negative => signText negative ++ "inf"
  | .finite negative 0 _ => signText negative ++ "0.0"
  | .finite negative m q =>
    let (d, e) := shortestDigits m q
    let digits := Nat.toDigits 10 d
    let place := e + digits.length
    signText negative ++
      (if -4 < place && place ≤ 16 then positionalText digits place else scientificText digits (place - 1))

end SceneDescription
