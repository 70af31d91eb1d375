import DocTree.Decimal.Shortest
import DocTree.Value.Order

/-!
# Writing JSON

`Json.write` writes a value in the order of its entries. With an indent of zero it writes no white
space at all. With a positive indent every element and entry stands on a line of its own, indented
by its depth, and a colon is followed by a space; empty containers stay on one line. In strings only
quotes, backslashes and control characters are escaped.
-/

set_option autoImplicit false
set_option relaxedAutoImplicit false

namespace DocTree.Json

/-- A hexadecimal digit, in lower case. -/
def hexDigitChar (value : Nat) : Char := Nat.digitChar value

/-- One character of a string as it is written. -/
def writeChar (c : Char) : List Char :=
  if c = '"' then ['\\', '"']
  else if c = '\\' then ['\\', '\\']
  else if c = '\x08' then ['\\', 'b']
  else if c = '\x0c' then ['\\', 'f']
  else if c = '\n' then ['\\', 'n']
  else if c = '\r' then ['\\', 'r']
  else if c = '\t' then ['\\', 't']
  else if c < ' ' then
    ['\\', 'u', '0', '0', hexDigitChar (c.toNat / 16), hexDigitChar (c.toNat % 16)]
  else [c]

/-- A string with its quotes. -/
def writeString (text : String) : List Char := '"' :: text.toList.flatMap writeChar ++ ['"']

/-- What stands before an element at a depth: nothing, or a new line and its indent. -/
def lineBreak (indent depth : Nat) : List Char :=
  if indent = 0 then [] else '\n' :: List.replicate (indent * depth) ' '

/-- What stands between a key and its value. -/
def colon (indent : Nat) : List Char := if indent = 0 then [':'] else [':', ' ']

mutual

/-- A value as it is written at a depth. -/
def write (indent depth : Nat) : Value → List Char
  | .null => ['n', 'u', 'l', 'l']
  | .bool true => ['t', 'r', 'u', 'e']
  | .bool false => ['f', 'a', 'l', 's', 'e']
  | .int number => number.toInt.repr.toList
  | .float number => (renderFloat "+" number).toList
  | .string text => writeString text
  | .array [] => ['[', ']']
  | .array (item :: items) =>
    '[' :: lineBreak indent (depth + 1) ++ write indent (depth + 1) item ++
      writeItems indent (depth + 1) items ++ lineBreak indent depth ++ [']']
  | .object [] => ['\x7b', '\x7d']
  | .object ((key, value) :: rest) =>
    '\x7b' :: lineBreak indent (depth + 1) ++ writeString key ++ colon indent ++
      write indent (depth + 1) value ++ writeEntries indent (depth + 1) rest ++
      lineBreak indent depth ++ ['\x7d']

/-- The elements after the first one, each with its comma. -/
def writeItems (indent depth : Nat) : List Value → List Char
  | [] => []
  | item :: items =>
    ',' :: lineBreak indent depth ++ write indent depth item ++ writeItems indent depth items

/-- The entries after the first one, each with its comma. -/
def writeEntries (indent depth : Nat) : List (String × Value) → List Char
  | [] => []
  | (key, value) :: rest =>
    ',' :: lineBreak indent depth ++ writeString key ++ colon indent ++
      write indent depth value ++ writeEntries indent depth rest

end

end DocTree.Json
