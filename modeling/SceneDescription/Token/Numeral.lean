import SceneDescription.Decimal.Reading
import SceneDescription.Text.Integer

/-!
# Numerals

A numeral has an optional sign, digits before and after an optional point, and an optional exponent; there is at
least one digit beside the point.  Digits may be of any script.  `Numeral.parse?` reads a numeral that takes up
a whole run of characters, and `Numeral.chars` writes it back.  Every numeral denotes a double; the ones that
are no more than a sign and digits also denote an integer.
-/

namespace SceneDescription

inductive Sign
  | plus
  | minus
  deriving DecidableEq

def Sign.char : Sign → Char
  | plus => '+'
  | minus => '-'

/-- The characters of an optional sign. -/
def signChars (sign : Option Sign) : List Char :=
  (sign.map Sign.char).toList

/-- The sign at the front of a text, and what follows it. -/
def takeSign : List Char → Option Sign × List Char
  | '+' :: rest => (some .plus, rest)
  | '-' :: rest => (some .minus, rest)
  | rest => (none, rest)

/-- The power of ten at the end of a numeral, with the letter that marks it. -/
structure Exponent where
  marker : Char
  sign : Option Sign
  digits : List Char
  deriving DecidableEq

namespace Exponent

def chars (e : Exponent) : List Char :=
  e.marker :: (signChars e.sign ++ e.digits)

def value (e : Exponent) : Int :=
  if e.sign = some .minus then -digitsValue e.digits else digitsValue e.digits

/-- Reads an exponent that takes up the whole text. -/
def parse? : List Char → Option Exponent
  | [] => none
  | marker :: rest =>
    let (sign, digits) := takeSign rest
    if (marker = 'e' || marker = 'E') && !digits.isEmpty && digits.all isDecimalDigit then
      some ⟨marker, sign, digits⟩
    else none

end Exponent

/-- A numeral as it is written.  `fraction` holds the digits after the point, if there is one. -/
structure Numeral where
  sign : Option Sign
  whole : List Char
  fraction : Option (List Char)
  exponent : Option Exponent
  deriving DecidableEq

namespace Numeral

/-- The point and the digits after it. -/
def fractionChars : Option (List Char) → List Char
  | none => []
  | some digits => '.' :: digits

def chars (n : Numeral) : List Char :=
  signChars n.sign ++ (n.whole ++ (fractionChars n.fraction ++ (n.exponent.map Exponent.chars).getD []))

def text (n : Numeral) : String :=
  String.ofList n.chars

/-- The point at the front of a text with the digits after it, and what follows them. -/
def takeFraction : List Char → Option (List Char) × List Char
  | '.' :: rest => (some (rest.takeWhile isDecimalDigit), rest.dropWhile isDecimalDigit)
  | rest => (none, rest)

/-- Reads a numeral that takes up the whole text. -/
def parse? (text : List Char) : Option Numeral :=
  let (sign, body) := takeSign text
  let whole := body.takeWhile isDecimalDigit
  let (fraction, tail) := takeFraction (body.dropWhile isDecimalDigit)
  if whole.isEmpty && (fraction.getD []).isEmpty then none
  else if tail.isEmpty then some ⟨sign, whole, fraction, none⟩
  else (Exponent.parse? tail).map fun exponent => ⟨sign, whole, fraction, some exponent⟩

/-- The digits on both sides of the point as one number. -/
def significand (n : Numeral) : Nat :=
  digitsValue (n.whole ++ n.fraction.getD [])

/-- The power of ten that the significand is multiplied with. -/
def scale (n : Numeral) : Int :=
  (n.exponent.map Exponent.value).getD 0 - (n.fraction.getD []).length

/-- The double nearest to the number that a numeral denotes; the sign is kept even of a zero. -/
def toFloat (n : Numeral) : Float :=
  let magnitude := decimalFloat n.significand n.scale
  if n.sign = some .minus then -magnitude else magnitude

/-- The integer that a numeral denotes, if it has neither point nor exponent and not too many digits. -/
def toInt? (n : Numeral) : Option Int :=
  if n.fraction.isNone && n.exponent.isNone && n.whole.length ≤ maxIntegerDigits then
    some (if n.sign = some .minus then -digitsValue n.whole else digitsValue n.whole)
  else none

end Numeral

end SceneDescription
