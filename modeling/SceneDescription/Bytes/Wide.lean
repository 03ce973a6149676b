import SceneDescription.Bytes.BadBytes

/-!
# Encodings in units of two and four bytes

A unit of four bytes is a character.  A unit of two bytes is a character of the basic plane, or one half of a
pair of surrogates, which together stand for a character beyond it.  Units are written with the low or the high
byte first; a byte-order mark at the front tells which.
-/

namespace SceneDescription.Wide

inductive ByteOrder
  | little
  | big
  deriving DecidableEq

/-- The number that the bytes of a unit stand for. -/
def ByteOrder.value : ByteOrder → List UInt8 → Nat
  | little, bytes => bytes.foldr (fun b n => b.toNat + 256 * n) 0
  | big, bytes => bytes.foldl (fun n b => 256 * n + b.toNat) 0

def ByteOrder.ending : ByteOrder → String
  | little => "-le"
  | big => "-be"

/-- The first halves of pairs. -/
def isHighSurrogate (n : Nat) : Bool := 0xD800 ≤ n && n < 0xDC00

/-- The second halves of pairs. -/
def isLowSurrogate (n : Nat) : Bool := 0xDC00 ≤ n && n < 0xE000

/-- Decodes units of two bytes from a position on; `acc` holds the characters read so far, last one first. -/
def decode16From (order : ByteOrder) (position : Nat) (acc : List Char) :
    List UInt8 → Except BadBytes (List Char)
  | [] => .ok acc.reverse
  | [b] => .error ⟨"utf-16" ++ order.ending, position, 1, b, "truncated data"⟩
  | a :: b :: rest =>
    let unit := order.value [a, b]
    let bad (span : Nat) (reason : String) : BadBytes := ⟨"utf-16" ++ order.ending, position, span, a, reason⟩
    if isLowSurrogate unit then .error (bad 2 "illegal encoding")
    else if isHighSurrogate unit then
      match rest with
      | c :: d :: rest =>
        let low := order.value [c, d]
        if isLowSurrogate low then
          let scalar := 0x10000 + 0x400 * (unit - 0xD800) + (low - 0xDC00)
          decode16From order (position + 4) (Char.ofNat scalar :: acc) rest
        else .error (bad 2 "illegal UTF-16 surrogate")
      | rest => .error (bad (2 + rest.length) "unexpected end of data")
    else decode16From order (position + 2) (Char.ofNat unit :: acc) rest

/-- Decodes units of four bytes from a position on; `acc` holds the characters read so far, last one first. -/
def decode32From (order : ByteOrder) (position : Nat) (acc : List Char) :
    List UInt8 → Except BadBytes (List Char)
  | [] => .ok acc.reverse
  | a :: b :: c :: d :: rest =>
    let unit := order.value [a, b, c, d]
    let bad (reason : String) : BadBytes := ⟨"utf-32" ++ order.ending, position, 4, a, reason⟩
    if isHighSurrogate unit || isLowSurrogate unit then
      .error (bad "code point in surrogate code point range(0xd800, 0xe000)")
    else if 0x110000 ≤ unit then .error (bad "code point not in range(0x110000)")
    else decode32From order (position + 4) (Char.ofNat unit :: acc) rest
  | a :: rest => .error ⟨"utf-32" ++ order.ending, position, 1 + rest.length, a, "truncated data"⟩

/-- Decodes units of `width` bytes, two or four. -/
def decodeFrom (width : Nat) (order : ByteOrder) (position : Nat) (bytes : List UInt8) :
    Except BadBytes (List Char) :=
  if width = 2 then decode16From order position [] bytes else decode32From order position [] bytes

/-- The order of bytes that a byte-order mark at the front tells. -/
def markedOrder? (width : Nat) (bytes : List UInt8) : Option ByteOrder :=
  let first := bytes.take width
  if first.length < width then none
  else if ByteOrder.little.value first = 0xFEFF then some .little
  else if ByteOrder.big.value first = 0xFEFF then some .big
  else none

end SceneDescription.Wide
