import SceneDescription.Text.Printable

/-!
# Quoted literals

Texts and byte strings written as literals in diagnostics: between single quotes, or between double quotes if the
content has single quotes and no double ones.  The backslash, the enclosing quote and everything that is not
printable are escaped, with the shortest of the three hexadecimal forms.
-/

namespace SceneDescription.Quoted

/-- A hexadecimal numeral in lower case, filled with zeros up to the given width. -/
def hex (width n : Nat) : String :=
  let digits := Nat.toDigits 16 n
  String.ofList (List.replicate (width - digits.length) '0' ++ digits)

/-- The quote a literal stands in. -/
def quoteFor (content : List Char) : Char :=
  if content.contains '\x27' && !content.contains '\x22' then '\x22' else '\x27'

/-- The escape of a character that cannot be shown as it is. -/
def hexEscape (n : Nat) : String :=
  if n < 0x100 then "\\x" ++ hex 2 n
  else if n < 0x10000 then "\\u" ++ hex 4 n
  else "\\U" ++ hex 8 n

/-- The backslash forms that texts and byte strings share. -/
def shortEscape? (quote c : Char) : Option String :=
  if c = '\\' || c = quote then some (String.ofList ['\\', c])
  else if c = '\t' then some "\\t"
  else if c = '\n' then some "\\n"
  else if c = '\r' then some "\\r"
  else none

/-- The literal of a text. -/
def text (content : String) : String :=
  let quote := quoteFor content.toList
  let body := content.toList.map fun c =>
    (shortEscape? quote c).getD (if isPrintable c then c.toString else hexEscape c.toNat)
  quote.toString ++ String.join body ++ quote.toString

/-- The literal of a byte string: visible ASCII as it is, every other byte escaped. -/
def bytes (content : List UInt8) : String :=
  let chars := content.map fun b => Char.ofNat b.toNat
  let quote := quoteFor chars
  let body := chars.map fun c =>
    (shortEscape? quote c).getD (if 0x20 ≤ c.toNat && c.toNat < 0x7F then c.toString else hexEscape c.toNat)
  "b" ++ quote.toString ++ String.join body ++ quote.toString

end SceneDescription.Quoted
