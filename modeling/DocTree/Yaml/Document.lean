import DocTree.Text.Blank
import DocTree.Yaml.Form.Parser
import DocTree.Yaml.Node.OfForm
import DocTree.Yaml.Node.Printer
import DocTree.Yaml.Token.Lexer

/-!
# YAML documents

`Yaml.parse?` reads a YAML text with at most one document, and `Yaml.render` writes a value as one.
On the way from a node to a value tags are dropped, integers beyond the range of `Int64` become
floats, and the keys of mappings become texts (`Node.keyText`). Of two keys with one text the first
fixes the position and the last the value.
-/

set_option autoImplicit false
set_option relaxedAutoImplicit false

namespace DocTree.Yaml

namespace Node

/-- Whether a node cannot be the key of a mapping that has no other key and no tag, when that mapping
is written. -/
def hidesMapping : Node → Bool
  | tagged _ _ => true
  | mapping [_] => true
  | _ => false

mutual

/-- Whether a node, which has a tag if `hasTag`, can be written. -/
def isWritable (hasTag : Bool) : Node → Bool
  | tagged _ content => isWritable true content
  | sequence items => areWritable items
  | mapping pairs =>
    (hasTag || pairs.length ≠ 1 || !pairs.any (hidesMapping ·.1)) && pairsAreWritable pairs
  | _ => true

/-- Whether all elements of a sequence can be written. -/
def areWritable : List Node → Bool
  | [] => true
  | item :: items => isWritable false item && areWritable items

/-- Whether all pairs of a mapping can be written. -/
def pairsAreWritable : List (Node × Node) → Bool
  | [] => true
  | (key, value) :: rest =>
    isWritable false key && isWritable false value && pairsAreWritable rest

end

/-- The text of a node as the key of an object: that of a scalar, and the YAML text of any other
node, which is empty if that cannot be written. -/
def keyText : Node → String
  | null => "null"
  | bool flag => if flag then "true" else "false"
  | int number => number.repr
  | float number => floatText number
  | string text => text
  | node => if node.isWritable false then .ofList (Text.trimEnd node.render) else ""

/-- An integer as a value: a float if it is beyond the range of `Int64`. -/
def integerValue (number : Int) : Value :=
  if Int64.minValue.toInt ≤ number && number ≤ Int64.maxValue.toInt then
    .int (Int64.ofInt number)
  else .float (nearestFloat number.toNat 1)

mutual

/-- The value of a node. -/
def toValue : Node → Value
  | null => .null
  | bool flag => .bool flag
  | int number => integerValue number
  | float number => .float number
  | string text => .string text
  | sequence items => .array (toValues items)
  | mapping pairs => .object (Entries.ofList (toEntries pairs))
  | tagged _ content => toValue content

/-- The values of the elements of a sequence. -/
def toValues : List Node → List Value
  | [] => []
  | item :: items => toValue item :: toValues items

/-- The pairs of a mapping with the texts of their keys. -/
def toEntries : List (Node × Node) → List (String × Value)
  | [] => []
  | (key, value) :: rest => (keyText key, toValue value) :: toEntries rest

end

end Node

/-- The node of a text, which is null when the text has no document. -/
def node? (text : List Char) : Option Node := do
  let tokens ← tokens? text
  match ← Source.ofTokens? tokens with
  | none => return .null
  | some source => Node.ofSource? source

/-- Reads a YAML document. -/
def parse? (text : String) : Option Value := (node? text.toList).map Node.toValue

/-- Writes a value as a YAML document. Its floats must be finite. -/
def render (value : Value) : String := .ofList (Node.ofValue value).render

end DocTree.Yaml
