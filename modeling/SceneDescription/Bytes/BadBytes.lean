import SceneDescription.Text.Integer
import SceneDescription.Text.Quoted

/-!
# Bytes that are not text
-/

namespace SceneDescription

/-- Bytes that are not text: where they stand, and why. -/
structure BadBytes where
  /-- The name of the encoding. -/
  codec : String
  position : Nat
  span : Nat
  /-- The first of them. -/
  byte : UInt8
  reason : String
  deriving DecidableEq

def BadBytes.message (b : BadBytes) : String :=
  let place := Nat.repr b.position
  let what := if b.span = 1 then "byte 0x" ++ Quoted.hex 2 b.byte.toNat ++ " in position " ++ place
    else "bytes in position " ++ place ++ "-" ++ Nat.repr (b.position + b.span - 1)
  "'" ++ b.codec ++ "' codec can't decode " ++ what ++ ": " ++ b.reason

end SceneDescription
