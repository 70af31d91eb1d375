import DocTree.Gzip.Checksum
import DocTree.Gzip.Inflate

/-!
# Gzip files

A member of a gzip file is a header, compressed data, and the check and the length of that data.
`decompress?` reads the first member of a file and nothing after it. `compress` writes a file of one
member, whose header has no optional parts.
-/

set_option autoImplicit false
set_option relaxedAutoImplicit false

namespace DocTree.Gzip

/-- The bytes with which every gzip file starts. -/
def magic : List UInt8 := [0x1f, 0x8b]

/-- Whether a sequence of bytes starts like a gzip file. -/
def hasMagic (bytes : List UInt8) : Bool := magic.isPrefixOf bytes

/-- A number as four bytes, the lowest one first. -/
def wordBytes (word : UInt32) : List UInt8 :=
  [word.toUInt8, (word >>> 8).toUInt8, (word >>> 16).toUInt8, (word >>> 24).toUInt8]

/-- Whether a bit of the flags is set. -/
def hasFlag (flags : UInt8) (bit : UInt8) : Bool := (flags >>> bit) &&& 1 = 1

/-- The bytes after a part that has its length, as two bytes, in front. -/
def skipExtra? : List UInt8 → Option (List UInt8)
  | low :: high :: rest =>
    let length := low.toNat + 256 * high.toNat
    if rest.length < length then none else some (rest.drop length)
  | _ => none

/-- The bytes after a text that ends with a zero. -/
def skipText? (bytes : List UInt8) : Option (List UInt8) :=
  match bytes.dropWhile (· ≠ 0) with
  | [] => none
  | _ :: rest => some rest

/-- The bytes after the check of the header, which has been read up to `rest`. -/
def skipHeaderCheck? (file rest : List UInt8) : Option (List UInt8) :=
  let word := checksum (file.take (file.length - rest.length))
  if ((wordBytes word).take 2).isPrefixOf rest then some (rest.drop 2) else none

/-- The bytes after the header of a file: its magic, its method, its flags, six bytes of no concern,
and the optional parts that the flags announce. -/
def skipHeader? (file : List UInt8) : Option (List UInt8) := do
  if !hasMagic file || file.length < 10 then none
  else
    let flags ← file[3]?
    if file[2]? ≠ some 8 || 0x20 ≤ flags then none
    else
      let rest := file.drop 10
      let rest ← if hasFlag flags 2 then skipExtra? rest else some rest
      let rest ← if hasFlag flags 3 then skipText? rest else some rest
      let rest ← if hasFlag flags 4 then skipText? rest else some rest
      if hasFlag flags 1 then skipHeaderCheck? file rest else some rest

/-- The bytes after the compressed data of a member: its check and its length. -/
def trailer (data : List UInt8) : List UInt8 :=
  wordBytes (checksum data) ++ wordBytes data.length.toUInt32

/-- The data of the first member of a file. -/
def decompress? (file : List UInt8) : Option (List UInt8) := do
  let rest ← skipHeader? file
  let (data, rest) ← inflate? rest
  if (trailer data).isPrefixOf rest then return data else none

/-- The header of a file with no optional parts, no date and no system. -/
def header : List UInt8 := magic ++ [8, 0, 0, 0, 0, 0, 0, 255]

/-- A file with the given data. -/
def compress (data : List UInt8) : List UInt8 := header ++ deflate data ++ trailer data

end DocTree.Gzip
