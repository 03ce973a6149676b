/-!
# Inflating compressed data

The blocks of a deflated stream: stored bytes, or literals and back references under prefix codes, which are
either fixed or described at the start of the block by their code lengths.  Bits are taken from each byte least
significant one first.
-/

namespace SceneDescription.Inflate

/-- Why data could not be inflated: they end too early, or they are no deflated stream. -/
inductive Flaw
  | cutShort
  | damaged (reason : String)
  deriving DecidableEq

/-- A prefix code as a binary tree; no code word leads to `absent`. -/
inductive PrefixCode
  | absent
  | leaf (symbol : Nat)
  | node (zero one : PrefixCode)

namespace PrefixCode

/-- Adds a code word, given by its bits from the first on. -/
def insert (symbol : Nat) : List Bool → PrefixCode → PrefixCode
  | [], _ => .leaf symbol
  | bit :: word, tree =>
    let (left, right) := match tree with
      | .node left right => (left, right)
      | _ => (.absent, .absent)
    if bit then .node left (insert symbol word right) else .node (insert symbol word left) right

/-- The `length` lowest bits of a number, highest of them first. -/
def bitsOf (length n : Nat) : List Bool :=
  (List.range length).map fun i => n.testBit (length - 1 - i)

/-- The code with the given lengths of its code words, which are numbered by length and then by symbol.  Even a
code without words takes a bit to be found empty. -/
def ofLengths (lengths : List Nat) : PrefixCode :=
  let count (length : Nat) : Nat := lengths.count length
  let words := (List.range 15).foldl (fun (acc : PrefixCode × Nat) i =>
    let length := i + 1
    let first := acc.2
    let symbols := lengths.zipIdx.filterMap fun (l, symbol) => if l = length then some symbol else none
    let tree := symbols.zipIdx.foldl (fun tree (symbol, k) => tree.insert symbol (bitsOf length (first + k))) acc.1
    (tree, 2 * (first + count length))) (.node .absent .absent, 0)
  words.1

/-- Whether the code words of these lengths fit without a gap.  A code with no word, or with a single one of
length one, may have gaps if `lenient` is set. -/
def isComplete (lenient : Bool) (lengths : List Nat) : Bool :=
  let used := lengths.filter (· ≠ 0)
  let total := used.foldl (fun n l => n + Nat.pow 2 (15 - l)) 0
  used.isEmpty || total = Nat.pow 2 15 || (lenient && total < Nat.pow 2 15 && used.all (· = 1))

/-- Reads one code word. -/
def read (invalid : String) : PrefixCode → List Bool → Except Flaw (Nat × List Bool)
  | .leaf symbol, bits => .ok (symbol, bits)
  | .absent, _ => .error (.damaged invalid)
  | .node _ _, [] => .error .cutShort
  | .node zero one, bit :: bits => read invalid (if bit then one else zero) bits

end PrefixCode

/-- The bits of a byte string in the order of reading. -/
def bitsOfBytes (bytes : List UInt8) : List Bool :=
  bytes.flatMap fun b => (List.range 8).map b.toNat.testBit

/-- Reads a number of the given width, lowest bit first. -/
def number : Nat → List Bool → Except Flaw (Nat × List Bool)
  | 0, bits => .ok (0, bits)
  | _ + 1, [] => .error .cutShort
  | width + 1, bit :: bits => do
    let (n, rest) ← number width bits
    return (2 * n + bit.toNat, rest)

/-- The least length of a match and the number of extra bits, for the length symbols from 257 on. -/
def lengthTable : List (Nat × Nat) := [
  (3, 0), (4, 0), (5, 0), (6, 0), (7, 0), (8, 0), (9, 0), (10, 0), (11, 1), (13, 1), (15, 1), (17, 1), (19, 2),
  (23, 2), (27, 2), (31, 2), (35, 3), (43, 3), (51, 3), (59, 3), (67, 4), (83, 4), (99, 4), (115, 4), (131, 5),
  (163, 5), (195, 5), (227, 5), (258, 0)]

/-- The least distance and the number of extra bits, for each distance symbol. -/
def distanceTable : List (Nat × Nat) := [
  (1, 0), (2, 0), (3, 0), (4, 0), (5, 1), (7, 1), (9, 2), (13, 2), (17, 3), (25, 3), (33, 4), (49, 4), (65, 5),
  (97, 5), (129, 6), (193, 6), (257, 7), (385, 7), (513, 8), (769, 8), (1025, 9), (1537, 9), (2049, 10),
  (3073, 10), (4097, 11), (6145, 11), (8193, 12), (12289, 12), (16385, 13), (24577, 13)]

/-- Appends `length` bytes that stand `distance` bytes back; the copy may run into itself. -/
def copyBack (distance : Nat) : (length : Nat) → Array UInt8 → Array UInt8
  | 0, out => out
  | length + 1, out => copyBack distance length (out.push (out.getD (out.size - distance) 0))

/-- Reads the symbols of a block up to its end; `fuel` bounds their number, and every symbol takes a bit. -/
def symbols (literals distances : PrefixCode) :
    (fuel : Nat) → Array UInt8 → List Bool → Except Flaw (Array UInt8 × List Bool)
  | 0, _, _ => .error .cutShort
  | fuel + 1, out, bits => do
    let (symbol, bits) ← literals.read "invalid literal/length code" bits
    if symbol < 256 then symbols literals distances fuel (out.push (UInt8.ofNat symbol)) bits
    else if symbol = 256 then return (out, bits)
    else
      let some (base, extra) := lengthTable[symbol - 257]? | .error (.damaged "invalid literal/length code")
      let (more, bits) ← number extra bits
      let (symbol, bits) ← distances.read "invalid distance code" bits
      let some (start, extra) := distanceTable[symbol]? | .error (.damaged "invalid distance code")
      let (further, bits) ← number extra bits
      let distance := start + further
      if out.size < distance then .error (.damaged "invalid distance too far back")
      else symbols literals distances fuel (copyBack distance (base + more) out) bits

/-- The order in which the lengths of the code-length code are given. -/
def lengthOrder : List Nat := [16, 17, 18, 0, 8, 7, 9, 6, 10, 5, 11, 4, 12, 3, 13, 2, 14, 1, 15]

/-- Reads `count` code lengths: single ones, and runs of the last length or of zeros. -/
def codeLengths (code : PrefixCode) (count : Nat) :
    (fuel : Nat) → List Nat → List Bool → Except Flaw (List Nat × List Bool)
  | 0, _, _ => .error .cutShort
  | fuel + 1, lengths, bits =>
    if count ≤ lengths.length then .ok (lengths, bits)
    else do
      let (symbol, bits) ← code.read "invalid code lengths set" bits
      if symbol < 16 then codeLengths code count fuel (lengths ++ [symbol]) bits
      else
        let (width, base) := if symbol = 16 then (2, 3) else if symbol = 17 then (3, 3) else (7, 11)
        let (more, bits) ← number width bits
        let value? := if symbol = 16 then lengths.getLast? else some 0
        let some value := value? | .error (.damaged "invalid bit length repeat")
        let lengths := lengths ++ List.replicate (base + more) value
        if count < lengths.length then .error (.damaged "invalid bit length repeat")
        else codeLengths code count fuel lengths bits

/-- Reads the two codes at the start of a block. -/
def describedCodes (bits : List Bool) : Except Flaw (PrefixCode × PrefixCode × List Bool) := do
  let (n, bits) ← number 5 bits
  let (d, bits) ← number 5 bits
  let (c, bits) ← number 4 bits
  let literalCount := n + 257
  let distanceCount := d + 1
  if 286 < literalCount || 30 < distanceCount then .error (.damaged "too many length or distance symbols")
  let (given, bits) ← (List.range (c + 4)).foldlM (fun (acc : List Nat × List Bool) _ => do
    let (length, bits) ← number 3 acc.2
    return (acc.1 ++ [length], bits)) ([], bits)
  let ordered := lengthOrder.zip given
  let lengths := (List.range 19).map fun symbol => (ordered.lookup symbol).getD 0
  unless PrefixCode.isComplete false lengths do .error (.damaged "invalid code lengths set")
  -- without any code word, each bit stands for a length of zero
  let code := if lengths.all (· = 0) then .node (.leaf 0) (.leaf 0) else .ofLengths lengths
  let (lengths, bits) ← codeLengths code (literalCount + distanceCount) (bits.length + 1) [] bits
  let literals := lengths.take literalCount
  let distances := lengths.drop literalCount
  if literals.getD 256 0 = 0 then .error (.damaged "invalid code -- missing end-of-block")
  unless PrefixCode.isComplete true literals do .error (.damaged "invalid literal/lengths set")
  unless PrefixCode.isComplete true distances do .error (.damaged "invalid distances set")
  return (.ofLengths literals, .ofLengths distances, bits)

/-- The code lengths of literals in a block with fixed codes. -/
def fixedLengths : List Nat :=
  List.replicate 144 8 ++ List.replicate 112 9 ++ List.replicate 24 7 ++ List.replicate 8 8

/-- The bytes at the front of a bit string that starts on a byte boundary. -/
def takeBytes : (count : Nat) → List Bool → Except Flaw (List UInt8 × List Bool)
  | 0, bits => .ok ([], bits)
  | count + 1, bits => do
    let (b, bits) ← number 8 bits
    let (rest, bits) ← takeBytes count bits
    return (UInt8.ofNat b :: rest, bits)

/-- Reads one block after its header. -/
def block (kind : Nat) (out : Array UInt8) (bits : List Bool) : Except Flaw (Array UInt8 × List Bool) := do
  match kind with
  | 0 =>
    let (length, bits) ← number 16 (bits.drop (bits.length % 8))
    let (complement, bits) ← number 16 bits
    if length + complement ≠ 0xFFFF then .error (.damaged "invalid stored block lengths")
    let (bytes, bits) ← takeBytes length bits
    return (out ++ bytes, bits)
  | 1 => symbols (.ofLengths fixedLengths) (.ofLengths (List.replicate 32 5)) (bits.length + 1) out bits
  | 2 =>
    let (literals, distances, bits) ← describedCodes bits
    symbols literals distances (bits.length + 1) out bits
  | _ => .error (.damaged "invalid block type")

/-- Reads blocks up to the last one; `fuel` bounds their number, and every block takes a bit. -/
def blocks : (fuel : Nat) → Array UInt8 → List Bool → Except Flaw (Array UInt8 × List Bool)
  | 0, _, _ => .error .cutShort
  | fuel + 1, out, bits => do
    let (last, bits) ← number 1 bits
    let (kind, bits) ← number 2 bits
    let (out, bits) ← block kind out bits
    if last = 1 then return (out, bits) else blocks fuel out bits

/-- Inflates the stream at the front of a byte string, and gives the bytes after it. -/
def inflate (bytes : List UInt8) : Except Flaw (List UInt8 × List UInt8) := do
  let bits := bitsOfBytes bytes
  let (out, rest) ← blocks (bits.length + 1) #[] bits
  return (out.toList, bytes.drop (bytes.length - rest.length / 8))

end SceneDescription.Inflate
