import SceneDescription.Text.Blank
import SceneDescription.Text.DecimalDigit

/-!
# Texts of integers

Integers are read with blanks around them, with either sign, with digits of any script, and with single underscores
between digits.
-/

namespace SceneDescription

/-- The digits of a numeral without the underscores between them; `afterDigit` tells whether an underscore may
follow. -/
def ungroupedDigits? (afterDigit : Bool) : List Char → Option (List Char)
  | [] => if afterDigit then some [] else none
  | c :: rest =>
    if isDecimalDigit c then (ungroupedDigits? true rest).map (c :: ·)
    else if c = '_' && afterDigit then ungroupedDigits? false rest
    else none

/-- The largest number of digits of an integer that is read. -/
def maxIntegerDigits : Nat := 4300

/-- The natural number that digits denote, if there are not too many of them. -/
def natural? (digits : List Char) : Option Nat :=
  match ungroupedDigits? false digits with
  | some digits => if digits.length ≤ maxIntegerDigits then some (digitsValue digits) else none
  | none => none

/-- The white space that may stand around an integer; here the four information separators do not count. -/
def isMargin (c : Char) : Bool :=
  isBlank c && !(0x1C ≤ c.toNat && c.toNat ≤ 0x1F)

/-- The integer that a text denotes. -/
def integer? (text : String) : Option Int :=
  match ((text.toList.dropWhile isMargin).reverse.dropWhile isMargin).reverse with
  | '-' :: digits => (natural? digits).map fun n => -(n : Int)
  | '+' :: digits => (natural? digits).map Int.ofNat
  | digits => (natural? digits).map Int.ofNat

end SceneDescription
