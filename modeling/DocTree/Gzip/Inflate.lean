import DocTree.Gzip.Huffman

/-!
# Compressed data

Compressed data is a sequence of blocks. A block is stored as it is, or its symbols are written in
prefix codes that are fixed or described at its start. A symbol is a byte, the end of the block, or
the length of a copy of earlier output; the distance of the copy follows in a code of its own.

`deflate` writes stored blocks only.
-/

set_option autoImplicit false
set_option relaxedAutoImplicit false

namespace DocTree.Gzip

/-! ### Stored blocks -/

/-- Reads a stored block: its length, the complement of that, and its bytes. -/
def stored? (bits : Bits) (output : Array UInt8) : Option (Array UInt8 × Bits) := do
  let (length, bits) ← bits.align.number? 16
  let (complement, bits) ← bits.number? 16
  if length + complement ≠ 0xffff then none
  else
    let (bytes, bits) ← bits.bytes? length
    return (output ++ bytes, bits)

/-! ### Compressed blocks -/

/-- The least copy length of each length symbol, and the count of bits that are added to it. -/
def lengthSymbols : List (Nat × Nat) :=
  [(3, 0), (4, 0), (5, 0), (6, 0), (7, 0), (8, 0), (9, 0), (10, 0), (11, 1), (13, 1), (15, 1),
    (17, 1), (19, 2), (23, 2), (27, 2), (31, 2), (35, 3), (43, 3), (51, 3), (59, 3), (67, 4),
    (83, 4), (99, 4), (115, 4), (131, 5), (163, 5), (195, 5), (227, 5), (258, 0)]

/-- The least distance of each distance symbol, and the count of bits that are added to it. -/
def distanceSymbols : List (Nat × Nat) :=
  [(1, 0), (2, 0), (3, 0), (4, 0), (5, 1), (7, 1), (9, 2), (13, 2), (17, 3), (25, 3), (33, 4),
    (49, 4), (65, 5), (97, 5), (129, 6), (193, 6), (257, 7), (385, 7), (513, 8), (769, 8),
    (1025, 9), (1537, 9), (2049, 10), (3073, 10), (4097, 11), (6145, 11), (8193, 12),
    (12289, 12), (16385, 13), (24577, 13)]

/-- Reads the number that belongs to a symbol. -/
def extended? (table : List (Nat × Nat)) (number : Nat) (bits : Bits) : Option (Nat × Bits) := do
  let (least, width) ← table[number]?
  let (added, bits) ← bits.number? width
  return (least + added, bits)

/-- Appends bytes that stand at a distance before the end, those that are just appended included. -/
def copy? (distance : Nat) : Nat → Array UInt8 → Option (Array UInt8)
  | 0, output => some output
  | length + 1, output =>
    if output.size < distance then none
    else
      match output[output.size - distance]? with
      | some byte => copy? distance length (output.push byte)
      | none => none

/-- The codes of a compressed block: one for bytes and lengths, and one for distances. -/
structure BlockCodes where
  symbols : CodeTree
  distances : CodeTree

/-- Reads the symbols of a block up to its end. -/
def symbols? (codes : BlockCodes) : Nat → Bits → Array UInt8 → Option (Array UInt8 × Bits)
  | 0, _, _ => none
  | fuel + 1, bits, output => do
    let (number, bits) ← codes.symbols.read? bits
    if number < 256 then symbols? codes fuel bits (output.push number.toUInt8)
    else if number = 256 then return (output, bits)
    else
      let (length, bits) ← extended? lengthSymbols (number - 257) bits
      let (distanceNumber, bits) ← codes.distances.read? bits
      let (distance, bits) ← extended? distanceSymbols distanceNumber bits
      let output ← copy? distance length output
      symbols? codes fuel bits output

/-- The codes of a block with the given code lengths. -/
def BlockCodes.ofLengths? (symbols distances : List Nat) : Option BlockCodes := do
  return ⟨← CodeTree.ofLengths? symbols, ← CodeTree.ofLengths? distances⟩

/-- The fixed codes. -/
def fixedCodes? : Option BlockCodes :=
  BlockCodes.ofLengths?
    (List.replicate 144 8 ++ List.replicate 112 9 ++ List.replicate 24 7 ++ List.replicate 8 8)
    (List.replicate 32 5)

/-- The order in which the lengths of the code for code lengths are written. -/
def lengthOrder : List Nat := [16, 17, 18, 0, 8, 7, 9, 6, 10, 5, 11, 4, 12, 3, 13, 2, 14, 1, 15]

/-- Reads the given count of numbers of three bits. -/
def triples? : Nat → Bits → Option (List Nat × Bits)
  | 0, bits => some ([], bits)
  | count + 1, bits => do
    let (number, bits) ← bits.number? 3
    let (numbers, bits) ← triples? count bits
    return (number :: numbers, bits)

/-- Reads code lengths after `done`, last one first, up to `count` of them. A symbol of 16 or more
repeats the last length or zero. -/
def codeLengths? (tree : CodeTree) (count : Nat) :
    Nat → Bits → List Nat → Option (List Nat × Bits)
  | 0, _, _ => none
  | fuel + 1, bits, done => do
    if done.length = count then return (done.reverse, bits)
    else if count < done.length then none
    else
      let (number, bits) ← tree.read? bits
      if number < 16 then codeLengths? tree count fuel bits (number :: done)
      else if number = 16 then
        let last ← done.head?
        let (more, bits) ← bits.number? 2
        codeLengths? tree count fuel bits (List.replicate (3 + more) last ++ done)
      else
        let (least, width) := if number = 17 then (3, 3) else (11, 7)
        let (more, bits) ← bits.number? width
        codeLengths? tree count fuel bits (List.replicate (least + more) 0 ++ done)

/-- Reads the codes at the start of a block. -/
def blockCodes? (bits : Bits) : Option (BlockCodes × Bits) := do
  let (moreSymbols, bits) ← bits.number? 5
  let (moreDistances, bits) ← bits.number? 5
  let (moreLengths, bits) ← bits.number? 4
  let (written, bits) ← triples? (moreLengths + 4) bits
  let lengthOf (number : Nat) : Nat :=
    ((lengthOrder.zip written).find? fun entry ↦ entry.1 = number).elim 0 (·.2)
  let tree ← CodeTree.ofLengths? ((List.range 19).map lengthOf)
  let symbolCount := moreSymbols + 257
  let count := symbolCount + moreDistances + 1
  let (lengths, bits) ← codeLengths? tree count (count + 1) bits []
  let codes ← BlockCodes.ofLengths? (lengths.take symbolCount) (lengths.drop symbolCount)
  return (codes, bits)

/-! ### Blocks -/

/-- Reads one block after its first bit. -/
def block? (bits : Bits) (output : Array UInt8) : Option (Array UInt8 × Bits) := do
  let (kind, bits) ← bits.number? 2
  match kind with
  | 0 => stored? bits output
  | 1 =>
    let codes ← fixedCodes?
    symbols? codes (bits.length + 1) bits output
  | 2 =>
    let (codes, bits) ← blockCodes? bits
    symbols? codes (bits.length + 1) bits output
  | _ => none

/-- Reads blocks up to the one that is marked as the last. -/
def blocks? : Nat → Bits → Array UInt8 → Option (Array UInt8 × Bits)
  | 0, _, _ => none
  | fuel + 1, bits, output => do
    let (last, bits) ← bits.bit?
    let (output, bits) ← block? bits output
    if last then return (output, bits) else blocks? fuel bits output

/-- The data that is compressed at the front of a sequence of bytes, and the bytes after it. -/
def inflate? (bytes : List UInt8) : Option (List UInt8 × List UInt8) := do
  let bits := bitsOfBytes bytes
  let (output, rest) ← blocks? (bits.length + 1) bits #[]
  return (output.toList, bytesOfBits rest.align)

/-! ### Writing -/

/-- The greatest length of a stored block. -/
def maxStored : Nat := 0xffff

/-- A number as two bytes, the lower one first. -/
def pairOfNat (number : Nat) : List UInt8 := [number.toUInt8, (number / 256).toUInt8]

/-- The bytes of a stored block. -/
def storedBlock (last : Bool) (bytes : List UInt8) : List UInt8 :=
  (if last then 1 else 0) :: pairOfNat bytes.length ++ pairOfNat (maxStored - bytes.length) ++ bytes

/-- Writes data as at most `fuel + 1` stored blocks. -/
def storedBlocks : Nat → List UInt8 → List UInt8
  | 0, bytes => storedBlock true bytes
  | fuel + 1, bytes =>
    if bytes.length ≤ maxStored then storedBlock true bytes
    else storedBlock false (bytes.take maxStored) ++ storedBlocks fuel (bytes.drop maxStored)

/-- The compressed form of data, which is not any shorter. -/
def deflate (bytes : List UInt8) : List UInt8 := storedBlocks (bytes.length / maxStored) bytes

end DocTree.Gzip
