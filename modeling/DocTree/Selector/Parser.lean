import DocTree.Query.Parser
import DocTree.Selector.Syntax

/-!
# Reading selectors

A selector is a text of components with slashes between them; empty components have no meaning. A
component is a key, or a query over keys, with or without brackets after it; or brackets alone. The
brackets hold an index, a range or a query over elements. A component gives one filter for its key
and one for its brackets.
-/

set_option autoImplicit false
set_option relaxedAutoImplicit false

namespace DocTree

namespace Selector

/-- Whether a text starts like a filter or a native query. -/
def startsQuery : List Char → Bool
  | '?' :: '(' :: _ => true
  | '?' :: '\x7b' :: _ => true
  | _ => false

/-- Cuts a text after the bracket that closes the first bracket in it, counting `depth` brackets
that are open already. -/
def cutBalanced (opening closing : Char) (depth : Nat) :
    List Char → Option (List Char × List Char)
  | [] => none
  | c :: rest =>
    let depth :=
      if c = opening then depth + 1 else if c = closing then depth - 1 else depth
    if c = closing ∧ depth = 0 then some ([c], rest)
    else (cutBalanced opening closing depth rest).map fun (before, after) ↦ (c :: before, after)

/-- Cuts a component after its key, or after the query over keys that it starts with. -/
def cutKey (component : List Char) : Option (List Char × List Char) :=
  match component with
  | '?' :: '(' :: rest =>
    (cutBalanced '(' ')' 0 ('(' :: rest)).map fun (key, after) ↦ ('?' :: key, after)
  | '?' :: '\x7b' :: rest =>
    (cutBalanced '\x7b' '\x7d' 0 ('\x7b' :: rest)).map fun (key, after) ↦ ('?' :: key, after)
  | _ => some (component.takeWhile (· ≠ '['), component.dropWhile (· ≠ '['))

/-- The text inside brackets that enclose all of a text. -/
def inBrackets? : List Char → Option (List Char)
  | '[' :: rest => Query.dropLast? ']' rest
  | _ => none

/-- The key part of a component and the text in its brackets, if it has any. -/
def splitComponent (component : List Char) :
    Except ComponentFault (List Char × Option (List Char)) :=
  match cutKey component with
  | none => .error .openKeyQuery
  | some (key, rest) =>
    if !startsQuery key && key.contains ']' then .error .bracketInKey
    else if rest.isEmpty then .ok (key, none)
    else
      match inBrackets? rest with
      | none => .error .noBrackets
      | some inside => .ok (key, some inside)

/-- Indices are below `2 ^ 64`. -/
def indexBound : Nat := Nat.pow 2 64

/-- Reads a query inside a component. -/
def queryIn (component text : List Char) : Except SelectorError Query :=
  (Query.parseChars text).mapError (.query (String.ofList component))

/-- The filter for the key part of a component, which is not empty. -/
def keyFilter (component key : List Char) : Except SelectorError Filter :=
  if startsQuery key then (queryIn component key).map .keyQuery
  else .ok (.key (String.ofList key))

/-- The filter for the text in the brackets of a component. -/
def bracketFilter (component inside : List Char) : Except SelectorError Filter :=
  let inside := Text.trim inside
  let invalid fault := SelectorError.invalidComponent (String.ofList component) fault
  if startsQuery inside then (queryIn component inside).map .elementQuery
  else if Range.hasDots inside then
    ((Range.parse inside).mapError (.query (String.ofList component))).map .range
  else if !inside.isEmpty && inside.all Char.isDigit then
    let position := Decimal.natOfDigits inside
    if position < indexBound then .ok (.index position) else .error (invalid .indexTooLarge)
  else .error (invalid .noIndex)

/-- Reads a component. -/
def parseComponent (component : List Char) : Except SelectorError (List Filter) := do
  let (key, inside?) ←
    (splitComponent component).mapError (.invalidComponent (String.ofList component))
  let keys ← if key.isEmpty then pure [] else (keyFilter component key).map ([·])
  match inside? with
  | none => return keys
  | some inside => return keys ++ [← bracketFilter component inside]

/-- The pieces of a text between its slashes. -/
def splitAtSlashes : List Char → List (List Char)
  | [] => [[]]
  | '/' :: rest => [] :: splitAtSlashes rest
  | c :: rest =>
    match splitAtSlashes rest with
    | [] => [[c]]
    | piece :: pieces => (c :: piece) :: pieces

/-- Reads components one after another. -/
def parseComponents : List (List Char) → Except SelectorError Selector
  | [] => .ok []
  | component :: rest => do
    let filters ← if component.isEmpty then pure [] else parseComponent component
    return filters ++ (← parseComponents rest)

/-- Reads the text of a selector. -/
def parseChars (text : List Char) : Except SelectorError Selector :=
  parseComponents (splitAtSlashes text)

/-- Reads a selector. -/
def parse (text : String) : Except SelectorError Selector := parseChars text.toList

end Selector

end DocTree
