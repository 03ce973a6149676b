import SceneDescription.Bytes.Crc32
import SceneDescription.Bytes.Inflate
import SceneDescription.Text.Quoted

/-!
# Compressed files

A compressed file is a sequence of members, each with a header, a deflated stream and a trailer that checks the
content.  Zero bytes may stand between members and at the end, and an empty file has empty content.
-/

namespace SceneDescription.Gzip

inductive Fault
  | notCompressed (found : List UInt8)
  | unknownMethod
  | wrongChecksum (stored computed : UInt32)
  | wrongLength
  | cutShort
  | damaged (reason : String)
  deriving DecidableEq

def Fault.message : Fault → String
  | notCompressed found => "Not a gzipped file (" ++ Quoted.bytes found ++ ")"
  | unknownMethod => "Unknown compression method"
  | wrongChecksum stored computed =>
    "CRC check failed 0x" ++ Quoted.hex 1 stored.toNat ++ " != 0x" ++ Quoted.hex 1 computed.toNat
  | wrongLength => "Incorrect length of data produced"
  | cutShort => "Compressed file ended before the end-of-stream marker was reached"
  | damaged reason => "Error -3 while decompressing data: " ++ reason

/-- The first bytes, which must be there. -/
def exactly (count : Nat) (bytes : List UInt8) : Except Fault (List UInt8 × List UInt8) :=
  if bytes.length < count then .error .cutShort else .ok (bytes.splitAt count)

/-- The number written in bytes, lowest first. -/
def littleEndian (bytes : List UInt8) : Nat :=
  bytes.foldr (fun b n => b.toNat + 256 * n) 0

/-- Skips a text that ends with a zero byte, or with the data. -/
def skipName (bytes : List UInt8) : List UInt8 :=
  (bytes.dropWhile (· ≠ 0)).drop 1

/-- Skips the rest of a header, after the two bytes that mark a member. -/
def skipHeader (bytes : List UInt8) : Except Fault (List UInt8) := do
  let (fixed, bytes) ← exactly 8 bytes
  let flags := (fixed.getD 1 0).toNat
  if fixed.head? ≠ some 8 then .error .unknownMethod
  let bytes ← if flags.testBit 2 then do
      let (size, bytes) ← exactly 2 bytes
      let (_, bytes) ← exactly (littleEndian size) bytes
      pure bytes
    else pure bytes
  let bytes := if flags.testBit 3 then skipName bytes else bytes
  let bytes := if flags.testBit 4 then skipName bytes else bytes
  if flags.testBit 1 then do
    let (_, bytes) ← exactly 2 bytes
    pure bytes
  else pure bytes

/-- Reads one member after the two bytes that mark it. -/
def member (bytes : List UInt8) : Except Fault (List UInt8 × List UInt8) := do
  let bytes ← skipHeader bytes
  let (content, bytes) ← match Inflate.inflate bytes with
    | .ok result => .ok result
    | .error .cutShort => .error .cutShort
    | .error (.damaged reason) => .error (.damaged reason)
  let (check, bytes) ← exactly 4 bytes
  let (size, bytes) ← exactly 4 bytes
  let stored := UInt32.ofNat (littleEndian check)
  let computed := crc32 content
  if stored ≠ computed then .error (.wrongChecksum stored computed)
  if littleEndian size ≠ content.length % Nat.pow 2 32 then .error .wrongLength
  return (content, bytes.dropWhile (· = 0))

/-- Reads all members; `fuel` bounds their number, and every member takes a byte. -/
def members : (fuel : Nat) → List UInt8 → List UInt8 → Except Fault (List UInt8)
  | 0, content, _ => .ok content
  | _ + 1, content, [] => .ok content
  | fuel + 1, content, bytes => do
    let (mark, rest) := bytes.splitAt 2
    if mark ≠ [0x1F, 0x8B] then .error (.notCompressed mark)
    let (more, rest) ← member rest
    members fuel (content ++ more) rest

/-- The content of a compressed file. -/
def expand (bytes : List UInt8) : Except Fault (List UInt8) :=
  members (bytes.length + 1) [] bytes

end SceneDescription.Gzip
