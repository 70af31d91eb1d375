/-!
# The cyclic redundancy check of 32 bits

The check of a sequence of bytes is the remainder of a division of polynomials over two elements.
The lowest bit of a byte is the coefficient of the highest power, so that the divisor is written with
its bits reversed.
-/

set_option autoImplicit false
set_option relaxedAutoImplicit false

namespace DocTree.Gzip

/-- The divisor, its bits reversed. -/
def divisor : UInt32 := 0xedb88320

/-- Divides by one more power. -/
def checksumBit (remainder : UInt32) : UInt32 :=
  if remainder &&& 1 = 1 then (remainder >>> 1) ^^^ divisor else remainder >>> 1

/-- Divides by the powers of one more byte. -/
def checksumByte (remainder : UInt32) (byte : UInt8) : UInt32 :=
  Nat.repeat checksumBit 8 (remainder ^^^ byte.toUInt32)

/-- The check of a sequence of bytes. -/
def checksum (bytes : List UInt8) : UInt32 :=
  bytes.foldl checksumByte 0xffffffff ^^^ 0xffffffff

end DocTree.Gzip
