import SceneDescription.Bytes.BadBytes

/-!
# UTF-8

Decoding with exact diagnostics: a fault names the longest run of bytes that could have begun a character, and
says whether its first byte starts no character, the byte after it cannot continue it, or the data end inside
it.
-/

namespace SceneDescription

namespace Utf8

/-- The first character of a byte string, or what is wrong with it; `width` counts the bytes it takes. -/
inductive Head
  | scalar (c : Char) (width : Nat)
  | flaw (reason : String) (width : Nat)

/-- What a leading byte announces: the bits it carries, the number of bytes that follow, and the bounds of the
next one.  The bounds exclude overlong forms, surrogates, and numbers beyond the last code point. -/
def announced (lead : Nat) : Nat × Nat × Nat × Nat :=
  if lead < 0xE0 then (lead - 0xC0, 1, 0x80, 0xBF)
  else if lead < 0xF0 then (lead - 0xE0, 2, if lead = 0xE0 then 0xA0 else 0x80, if lead = 0xED then 0x9F else 0xBF)
  else (lead - 0xF0, 3, if lead = 0xF0 then 0x90 else 0x80, if lead = 0xF4 then 0x8F else 0xBF)

/-- The bytes at the front that continue a character, at most `count` of them. -/
def continuation : (count low high : Nat) → List UInt8 → List UInt8
  | 0, _, _, _ => []
  | _ + 1, _, _, [] => []
  | count + 1, low, high, b :: rest =>
    if low ≤ b.toNat && b.toNat ≤ high then b :: continuation count 0x80 0xBF rest else []

def head (first : UInt8) (rest : List UInt8) : Head :=
  let lead := first.toNat
  if lead < 0x80 then .scalar (Char.ofNat lead) 1
  else if lead < 0xC2 || 0xF5 ≤ lead then .flaw "invalid start byte" 1
  else
    let (bits, count, low, high) := announced lead
    let tail := continuation count low high rest
    if tail.length = count then
      .scalar (Char.ofNat (tail.foldl (fun n b => 64 * n + (b.toNat - 0x80)) bits)) (count + 1)
    else if tail.length < (rest.take count).length then .flaw "invalid continuation byte" (tail.length + 1)
    else .flaw "unexpected end of data" (tail.length + 1)

/-- Decodes the bytes from a position on; `skip` counts the bytes of the last character that are still in front,
and `acc` holds the characters read so far, last one first. -/
def decodeFrom (position skip : Nat) (acc : List Char) : List UInt8 → Except BadBytes (List Char)
  | [] => .ok acc.reverse
  | b :: rest =>
    if 0 < skip then decodeFrom (position + 1) (skip - 1) acc rest
    else match head b rest with
      | .scalar c width => decodeFrom (position + 1) (width - 1) (c :: acc) rest
      | .flaw reason width => .error ⟨"utf-8", position, width, b, reason⟩

/-- The text that a byte string encodes. -/
def decode (bytes : List UInt8) : Except BadBytes (List Char) :=
  decodeFrom 0 0 [] bytes

end Utf8

end SceneDescription
