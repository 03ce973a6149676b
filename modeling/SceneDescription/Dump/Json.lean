import SceneDescription.Decimal.Format
import SceneDescription.Dump.Document
import SceneDescription.Text.Quoted

/-!
# Documents as JSON

Documents are written in ASCII, with every item and field on a line of its own.  Numbers have all the digits
that are needed to read them back, and a matrix is a list of four rows.
-/

namespace SceneDescription.Json

/-- The escape of a code unit of sixteen bits. -/
def unitEscape (unit : Nat) : String :=
  "\\u" ++ Quoted.hex 4 unit

/-- A character inside a string.  Characters beyond the basic plane are written as a pair of surrogates. -/
def characterText (c : Char) : String :=
  if c = '\x22' then "\\\""
  else if c = '\\' then "\\\\"
  else if c = '\n' then "\\n"
  else if c = '\r' then "\\r"
  else if c = '\t' then "\\t"
  else if c = '\x08' then "\\b"
  else if c = '\x0c' then "\\f"
  else if 0x20 ≤ c.toNat && c.toNat < 0x7F then c.toString
  else if c.toNat < 0x10000 then unitEscape c.toNat
  else
    let n := c.toNat - 0x10000
    unitEscape (0xD800 + n / 0x400) ++ unitEscape (0xDC00 + n % 0x400)

def stringText (s : String) : String :=
  "\"" ++ String.join (s.toList.map characterText) ++ "\""

def realText (x : Float) : String :=
  if x.isNaN then "NaN"
  else if x.isInf then if x < 0 then "-Infinity" else "Infinity"
  else exactText x

/-- The items between two brackets, each on a line of its own; `indent` is the width of a level. -/
def bracketed (opening closing : String) (indent level : Nat) (items : List String) : String :=
  let newline (level : Nat) : String := "\n" ++ "".pushn ' ' (indent * level)
  if items.isEmpty then opening ++ closing
  else opening ++ newline (level + 1) ++ ("," ++ newline (level + 1)).intercalate items ++ newline level ++ closing

def matrixText (indent level : Nat) (m : Matrix) : String :=
  bracketed "[" "]" indent level (m.rows.map fun row => bracketed "[" "]" indent (level + 1) (row.map realText))

mutual

/-- A document at a level of indentation. -/
def text (indent level : Nat) : Document → String
  | .null => "null"
  | .flag value => if value then "true" else "false"
  | .integer value => Int.repr value
  | .real value => realText value
  | .text value => stringText value
  | .matrix value => matrixText indent level value
  | .list items => bracketed "[" "]" indent level (itemTexts indent (level + 1) items)
  | .record fields => bracketed "\x7b" "\x7d" indent level (fieldTexts indent (level + 1) fields)

def itemTexts (indent level : Nat) : List Document → List String
  | [] => []
  | item :: items => text indent level item :: itemTexts indent level items

def fieldTexts (indent level : Nat) : List (String × Document) → List String
  | [] => []
  | (name, value) :: fields => (stringText name ++ ": " ++ text indent level value) :: fieldTexts indent level fields

end

/-- A document as JSON; a negative indentation is as good as none. -/
def render (indent : Int) (d : Document) : String :=
  text indent.toNat 0 d

end SceneDescription.Json
