import DocTree.Text.Hexadecimal

/-!
# Sets of code points

A set of code points as a list of closed ranges. The ranges of a normal list are in increasing
order and no two of them touch; `union`, `complement`, `inter` and `diff` give normal lists.
-/

set_option autoImplicit false
set_option relaxedAutoImplicit false

namespace DocTree.Text

/-- A set of code points, as closed ranges. -/
structure CodePoints where
  ranges : List (Nat × Nat)
deriving Inhabited, DecidableEq

namespace CodePoints

/-- The greatest code point. -/
def greatest : Nat := 0x10ffff

/-- Whether a code point is in one of the ranges. -/
def contains (set : CodePoints) (point : Nat) : Bool :=
  set.ranges.any fun range ↦ range.1 ≤ point && point ≤ range.2

/-- The set of no code points. -/
def empty : CodePoints := ⟨[]⟩

/-- The set of all code points. -/
def all : CodePoints := ⟨[(0, greatest)]⟩

/-- The code points from `first` to `last`. -/
def range (first last : Nat) : CodePoints := ⟨[(first, last)]⟩

/-- The code points of the characters in a list. -/
def ofChars (chars : List Char) : CodePoints := ⟨chars.map fun c ↦ (c.toNat, c.toNat)⟩

/-- Puts a range in front of ranges that do not start before it, and joins those it reaches. -/
def insertRange (range : Nat × Nat) : List (Nat × Nat) → List (Nat × Nat)
  | [] => [range]
  | next :: rest =>
    if next.1 ≤ range.2 + 1 then insertRange (range.1, max range.2 next.2) rest
    else range :: next :: rest

/-- The same set with its ranges in increasing order, none touching the next. -/
def normalize (set : CodePoints) : CodePoints :=
  ⟨(set.ranges.mergeSort fun a b ↦ a.1 ≤ b.1).foldr insertRange []⟩

/-- The code points of either set. -/
def union (a b : CodePoints) : CodePoints := normalize ⟨a.ranges ++ b.ranges⟩

/-- The gaps of a normal list of ranges from `start` on. -/
def gaps (start : Nat) : List (Nat × Nat) → List (Nat × Nat)
  | [] => if start ≤ greatest then [(start, greatest)] else []
  | (first, last) :: rest =>
    if start < first then (start, first - 1) :: gaps (last + 1) rest else gaps (last + 1) rest

/-- The code points that are not in the set. -/
def complement (set : CodePoints) : CodePoints := ⟨gaps 0 set.normalize.ranges⟩

/-- The code points of both sets. -/
def inter (a b : CodePoints) : CodePoints := (a.complement.union b.complement).complement

/-- The code points of the first set that are not in the second. -/
def diff (a b : CodePoints) : CodePoints := a.inter b.complement

/-- The code point that hexadecimal digits write. -/
def ofDigits (digits : List Char) : Nat := (hexNumberFrom? 0 digits).getD 0

/-- One range, written as a code point or as two with a hyphen between them. -/
def rangeOfHex (text : List Char) : Nat × Nat :=
  let first := text.takeWhile (· ≠ '-')
  match text.dropWhile (· ≠ '-') with
  | [] => (ofDigits first, ofDigits first)
  | _ :: last => (ofDigits first, ofDigits last)

/-- The words of a text, between which stands white space. -/
def words (text : List Char) : List (List Char) :=
  (text.splitBy fun a b ↦ a.isWhitespace = b.isWhitespace).filter fun word ↦
    !word.any Char.isWhitespace

/-- A set written as hexadecimal ranges with white space between each two. -/
def ofHex (text : String) : CodePoints := ⟨(words text.toList).map rangeOfHex⟩

end CodePoints

end DocTree.Text
