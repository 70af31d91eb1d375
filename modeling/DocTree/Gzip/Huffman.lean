import DocTree.Gzip.Bits

/-!
# Prefix codes

A prefix code is given by the length of the code of each symbol. Codes of one length are consecutive
numbers in the order of their symbols, and shorter codes come before longer ones; a code is written
highest bit first. A code must use up all sequences of bits, unless it has at most one symbol.
-/

set_option autoImplicit false
set_option relaxedAutoImplicit false

namespace DocTree.Gzip

/-- A prefix code as a tree: the bits of a code lead from its root to its symbol. -/
inductive CodeTree where
  | empty
  | symbol (number : Nat)
  | fork (zero one : CodeTree)
deriving Inhabited

namespace CodeTree

/-- Adds a symbol at the end of a path. -/
def insert (number : Nat) : Bits → CodeTree → CodeTree
  | [], _ => symbol number
  | false :: path, fork zero one => fork (insert number path zero) one
  | true :: path, fork zero one => fork zero (insert number path one)
  | false :: path, _ => fork (insert number path empty) empty
  | true :: path, _ => fork empty (insert number path empty)

/-- Reads one symbol. -/
def read? : CodeTree → Bits → Option (Nat × Bits)
  | empty, _ => none
  | symbol number, bits => some (number, bits)
  | fork zero one, bits =>
    match bits with
    | [] => none
    | false :: rest => zero.read? rest
    | true :: rest => one.read? rest

end CodeTree

/-- The greatest length of a code. -/
def maxCodeLength : Nat := 15

/-- The share of all sequences of `maxCodeLength` bits that start with a code of a given length. -/
def codeShare (length : Nat) : Nat :=
  if length = 0 then 0 else Nat.pow 2 (maxCodeLength - length)

/-- Adds symbols in the order of their codes, of which `start` sequences are used up. -/
def insertCodes (start : Nat) (tree : CodeTree) : List (Nat × Nat) → CodeTree
  | [] => tree
  | (length, number) :: rest =>
    let code := start / codeShare length
    insertCodes (start + codeShare length)
      (tree.insert number (bitsOfNat length code).reverse) rest

/-- The symbols that have a code, by the length of their codes and then by their numbers, each with
that length. -/
def codedSymbols (lengths : List Nat) : List (Nat × Nat) :=
  (List.range maxCodeLength).flatMap fun shorter ↦
    lengths.zipIdx.filter fun entry ↦ entry.1 = shorter + 1

/-- The tree of a code with the given lengths. -/
def CodeTree.ofLengths? (lengths : List Nat) : Option CodeTree :=
  let symbols := codedSymbols lengths
  let used := lengths.foldl (fun used length ↦ used + codeShare length) 0
  if used = Nat.pow 2 maxCodeLength || symbols.length ≤ 1 then some (insertCodes 0 .empty symbols)
  else none

end DocTree.Gzip
