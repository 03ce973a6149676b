import SceneDescription.Token.Numeral

/-!
# Tokens

The five kinds of lexemes of scene text, and tokens, which are lexemes with the line they start on.
-/

namespace SceneDescription

inductive Lexeme
  /-- A bare run that does not look like a number. -/
  | identifier (name : String)
  /-- The text between two double quotes, without the quotes. -/
  | quoted (content : String)
  | number (numeral : Numeral)
  | leftBracket
  | rightBracket
  deriving DecidableEq

namespace Lexeme

/-- The text of a lexeme; of a quoted one, what stands between the quotes. -/
def text : Lexeme → String
  | identifier name => name
  | quoted content => content
  | number numeral => numeral.text
  | leftBracket => "["
  | rightBracket => "]"

/-- A lexeme as it stands in the source. -/
def describe : Lexeme → String
  | quoted content => "\"" ++ content ++ "\""
  | lexeme => lexeme.text

end Lexeme

structure Token where
  lexeme : Lexeme
  /-- The line the lexeme starts on, counted from one. -/
  line : Nat
  deriving DecidableEq

namespace Token

def text (t : Token) : String := t.lexeme.text

def describe (t : Token) : String := t.lexeme.describe

end Token

end SceneDescription
