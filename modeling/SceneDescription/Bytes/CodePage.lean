import SceneDescription.Bytes.BadBytes

/-!
# Encodings with one byte for each character

Latin-1 gives every byte the code point of the same number.  The other code pages here agree with it but for a few
bytes, which stand for other characters or for none.
-/

namespace SceneDescription

/-- A code page, by its differences from Latin-1. -/
structure CodePage where
  /-- The bytes that stand for other characters, with the code points of these. -/
  replaced : List (Nat × Nat) := []
  /-- The bytes that stand for no character. -/
  undefined : List Nat := []

namespace CodePage

def latin1 : CodePage := {}

/-- Latin-9, which has the euro sign. -/
def latin9 : CodePage where
  replaced := [(0xA4, 0x20AC), (0xA6, 0x160), (0xA8, 0x161), (0xB4, 0x17D), (0xB8, 0x17E), (0xBC, 0x152),
    (0xBD, 0x153), (0xBE, 0x178)]

/-- The Windows code page 1252, which has characters in the place of control codes. -/
def windows1252 : CodePage where
  replaced := [(0x80, 0x20AC), (0x82, 0x201A), (0x83, 0x192), (0x84, 0x201E), (0x85, 0x2026), (0x86, 0x2020),
    (0x87, 0x2021), (0x88, 0x2C6), (0x89, 0x2030), (0x8A, 0x160), (0x8B, 0x2039), (0x8C, 0x152), (0x8E, 0x17D),
    (0x91, 0x2018), (0x92, 0x2019), (0x93, 0x201C), (0x94, 0x201D), (0x95, 0x2022), (0x96, 0x2013), (0x97, 0x2014),
    (0x98, 0x2DC), (0x99, 0x2122), (0x9A, 0x161), (0x9B, 0x203A), (0x9C, 0x153), (0x9E, 0x17E), (0x9F, 0x178)]
  undefined := [0x81, 0x8D, 0x8F, 0x90, 0x9D]

/-- The character that a byte stands for. -/
def char (page : CodePage) (b : UInt8) : Char :=
  Char.ofNat ((page.replaced.lookup b.toNat).getD b.toNat)

/-- The text that a byte string encodes. -/
def decode (page : CodePage) (bytes : List UInt8) : Except BadBytes (List Char) :=
  match bytes.findIdx? fun b => page.undefined.contains b.toNat with
  | some position => .error ⟨"charmap", position, 1, bytes.getD position 0, "character maps to <undefined>"⟩
  | none => .ok (bytes.map page.char)

end CodePage

end SceneDescription
