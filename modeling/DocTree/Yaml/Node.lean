import DocTree.Value

/-!
# YAML nodes

A node is a document tree in the sense of YAML: any node can be the key of a mapping, a node can have
a tag of its own, and integers reach up to `2 ^ 64`. Two nodes are the same when they differ in
nothing but the order of pairs (`Node.same`); unlike in the arithmetic of floats, NaN is the same as
NaN.
-/

set_option autoImplicit false
set_option relaxedAutoImplicit false

namespace DocTree.Yaml

/-- A document tree in the sense of YAML. -/
inductive Node where
  | null
  | bool (flag : Bool)
  | int (number : Int)
  | float (number : Float)
  | string (text : String)
  | sequence (items : List Node)
  | mapping (pairs : List (Node × Node))
  | tagged (tag : String) (content : Node)
deriving Inhabited

namespace Node

/-- Whether two floats are the same key. -/
def sameFloat (a b : Float) : Bool := a == b || (a.isNaN && b.isNaN)

mutual

/-- Whether two nodes differ in nothing but the order of pairs. -/
def same : Node → Node → Bool
  | null, null => true
  | bool a, bool b => a == b
  | int a, int b => a == b
  | float a, float b => sameFloat a b
  | string a, string b => a == b
  | sequence items, sequence others => sameItems items others
  | mapping pairs, mapping others => pairs.length == others.length && samePairs pairs others
  | tagged tag content, tagged tag' content' => tag == tag' && same content content'
  | _, _ => false

/-- Whether two lists of nodes are the same element by element. -/
def sameItems : List Node → List Node → Bool
  | [], [] => true
  | item :: items, other :: others => same item other && sameItems items others
  | _, _ => false

/-- Whether every pair has its like in `others`. -/
def samePairs : List (Node × Node) → List (Node × Node) → Bool
  | [], _ => true
  | (key, value) :: rest, others =>
    others.any (fun other ↦ same key other.1 && same value other.2) && samePairs rest others

end

mutual

/-- A document value as a node. -/
def ofValue : Value → Node
  | .null => null
  | .bool flag => bool flag
  | .int number => int number.toInt
  | .float number => float number
  | .string text => string text
  | .array items => sequence (ofItems items)
  | .object entries => mapping (ofEntries entries)

/-- The elements of an array as nodes. -/
def ofItems : List Value → List Node
  | [] => []
  | item :: items => ofValue item :: ofItems items

/-- The entries of an object as pairs of nodes. -/
def ofEntries : List (String × Value) → List (Node × Node)
  | [] => []
  | (key, value) :: rest => (string key, ofValue value) :: ofEntries rest

end

end Node

end DocTree.Yaml
