/-!
# Blank characters and words

The words of a text are its maximal runs of characters that are not blank, where blank means white space of any
script.  This is the splitting used for parameter headings; the blanks between tokens are a smaller set.
-/

namespace SceneDescription

/-- The code points of white space, as inclusive ranges in increasing order. -/
def blankRanges : List (Nat × Nat) := [
  (0x9, 0xD), (0x1C, 0x20), (0x85, 0x85), (0xA0, 0xA0), (0x1680, 0x1680), (0x2000, 0x200A), (0x2028, 0x2029),
  (0x202F, 0x202F), (0x205F, 0x205F), (0x3000, 0x3000)]

/-- Whether a character is white space of any script. -/
def isBlank (c : Char) : Bool :=
  blankRanges.any fun (first, last) => first ≤ c.toNat && c.toNat ≤ last

/-- The words of a text, from left to right; `word` holds the characters of the current word, last one first. -/
def wordsAfter (word : List Char) : List Char → List String
  | [] => if word.isEmpty then [] else [String.ofList word.reverse]
  | c :: rest =>
    if isBlank c then
      if word.isEmpty then wordsAfter [] rest else String.ofList word.reverse :: wordsAfter [] rest
    else wordsAfter (c :: word) rest

/-- The maximal runs of a text without white space, from left to right. -/
def words (text : String) : List String :=
  wordsAfter [] text.toList

end SceneDescription
