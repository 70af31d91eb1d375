import DocTree.Decimal.Shortest
import DocTree.Yaml.Page

/-!
# Writing YAML nodes

Collections are written as blocks unless they are empty. The elements of a sequence stand under the
key of that sequence, and every other collection is indented by two columns. A key stands on one line
with its value when it is an empty collection or a scalar of one line and at most 128 bytes;
otherwise a question mark stands in front of it.
-/

set_option autoImplicit false
set_option relaxedAutoImplicit false

namespace DocTree.Yaml

/-- The text of a float. -/
def floatText (number : Float) : String :=
  if number.isNaN then ".nan"
  else if number.isInf then if number < 0 then "-.inf" else ".inf"
  else renderFloat "" number

namespace Node

/-- The text of a scalar, and the style that fits its content. -/
def scalarText? : Node → Option (List Char × Style)
  | null => some (['n', 'u', 'l', 'l'], .plain)
  | bool true => some (['t', 'r', 'u', 'e'], .plain)
  | bool false => some (['f', 'a', 'l', 's', 'e'], .plain)
  | int number => some (number.repr.toList, .plain)
  | float number => some ((floatText number).toList, .plain)
  | string text => some (text.toList, preferredStyle text.toList)
  | _ => none

/-- Whether a node has no children to write. -/
def isEmptyCollection : Node → Bool
  | sequence items => items.isEmpty
  | mapping pairs => pairs.isEmpty
  | _ => false

/-- Whether a node of which `used` bytes are written can stand as a key on one line with its value. -/
def fitsLine (used : Nat) : Node → Bool
  | tagged tag content => fitsLine (used + 1 + tag.utf8ByteSize) content
  | node =>
    match node.scalarText? with
    | some (text, _) =>
      !text.any isBreak && used + (String.ofList text).utf8ByteSize ≤ 128
    | none => node.isEmptyCollection && used ≤ 128

/-! ### Blocks -/

/-- The characters of a tag that are written as they are. -/
def isPlainTagChar (c : Char) : Bool := isNameChar c || ";/?:@&=+$,.~*'()[]".toList.contains c

/-- The characters of a tag, those that are not plain as the bytes of their encoding. -/
def writeTag (tag : String) : List Char :=
  '!' :: tag.toList.flatMap fun c ↦
    if isPlainTagChar c then [c]
    else c.toString.toUTF8.toList.flatMap fun byte ↦ '%' :: Page.codeDigits 2 byte.toNat

/-- The column of a block inside a block. The outermost block is in no other. -/
def innerIndent : Option Nat → Nat
  | none => 0
  | some indent => indent + 2

/-- Writes an empty collection. -/
def putBrackets (page : Page) (first last : Char) : Page := page.space.word [first, last]

mutual

/-- Writes a node inside a block that is indented to `indent`: a key or a value of a mapping if
`inMapping`, and a key on one line with its value if `key`. -/
def print (page : Page) (indent : Option Nat) (inMapping key : Bool) : Node → Page
  | tagged tag content => print (page.space.word (writeTag tag)) indent inMapping key content
  | sequence [] => putBrackets page '[' ']'
  | mapping [] => putBrackets page '\x7b' '\x7d'
  | sequence items =>
    let column :=
      match indent with
      | some outer => if inMapping && !page.fresh then outer else outer + 2
      | none => 0
    printItems page column items
  | mapping pairs => printPairs page (innerIndent indent) pairs
  | node =>
    match node.scalarText? with
    | some (text, style) =>
      page.scalar ((indent.getD 0) + 2) text (style.allowed text key)
    | none => page

/-- Writes the elements of a sequence at a column. -/
def printItems (page : Page) (column : Nat) : List Node → Page
  | [] => page
  | item :: items =>
    let page := (page.indentTo column).blockIndicator '-'
    printItems (print page (some column) false false item) column items

/-- Writes the pairs of a mapping at a column. -/
def printPairs (page : Page) (column : Nat) : List (Node × Node) → Page
  | [] => page
  | (key, value) :: rest =>
    let page := page.indentTo column
    let page :=
      if key.fitsLine 0 then (print page (some column) true true key).word [':']
      else
        let page := print (page.blockIndicator '?') (some column) true false key
        (page.indentTo column).blockIndicator ':'
    printPairs (print page (some column) true false value) column rest

end

/-- The text of a node as a document of its own. -/
def render (node : Node) : List Char := ((print {} none false false node).indentTo 0).text

end Node

end DocTree.Yaml
