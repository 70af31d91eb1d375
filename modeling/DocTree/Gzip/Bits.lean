/-!
# Bits of compressed data

The bits of a sequence of bytes come lowest bit first, and so do the bits of a number. `align` moves
on to the next full byte.
-/

set_option autoImplicit false
set_option relaxedAutoImplicit false

namespace DocTree.Gzip

/-- A sequence of bits. -/
abbrev Bits := List Bool

/-- The lowest `width` bits of a number, lowest first. -/
def bitsOfNat : Nat → Nat → Bits
  | 0, _ => []
  | width + 1, number => (number % 2 = 1) :: bitsOfNat width (number / 2)

/-- The number with the given bits, lowest first. -/
def natOfBits : Bits → Nat
  | [] => 0
  | bit :: rest => bit.toNat + 2 * natOfBits rest

/-- The bits of a sequence of bytes. -/
def bitsOfBytes (bytes : List UInt8) : Bits := bytes.flatMap fun byte ↦ bitsOfNat 8 byte.toNat

/-- The full bytes of a sequence of bits. -/
def bytesOfBits : Bits → List UInt8
  | a :: b :: c :: d :: e :: f :: g :: h :: rest =>
    (natOfBits [a, b, c, d, e, f, g, h]).toUInt8 :: bytesOfBits rest
  | _ => []

namespace Bits

/-- Reads one bit. -/
def bit? : Bits → Option (Bool × Bits)
  | [] => none
  | bit :: rest => some (bit, rest)

/-- Reads a number of `width` bits. -/
def number? (width : Nat) (bits : Bits) : Option (Nat × Bits) :=
  let first := bits.take width
  if first.length < width then none else some (natOfBits first, bits.drop width)

/-- The bits from the next full byte on, the last bit being the last one of a byte. -/
def align (bits : Bits) : Bits := bits.drop (bits.length % 8)

/-- Reads the given number of bytes. -/
def bytes? (count : Nat) (bits : Bits) : Option (List UInt8 × Bits) :=
  let first := bytesOfBits (bits.take (8 * count))
  if first.length < count then none else some (first, bits.drop (8 * count))

end Bits

end DocTree.Gzip
