/-!
# The cyclic redundancy check of compressed files
-/

namespace SceneDescription

/-- Divides one more bit out of the register, least significant bit first. -/
def crc32Step (register : UInt32) : UInt32 :=
  if register &&& 1 = 1 then (register >>> 1) ^^^ 0xEDB88320 else register >>> 1

/-- The 32-bit check of a byte string. -/
def crc32 (bytes : List UInt8) : UInt32 :=
  let register := bytes.foldl
    (fun register b => (List.range 8).foldl (fun r _ => crc32Step r) (register ^^^ b.toUInt32)) 0xFFFFFFFF
  register ^^^ 0xFFFFFFFF

end SceneDescription
