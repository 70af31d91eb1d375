import DocTree.Json.Parser
import DocTree.Json.Printer
import DocTree.Text.Blank

/-!
# JSON Lines

A text in JSON Lines holds one JSON value on every line that is not blank, and at least one. It
stands for the array of these values. Lines are counted from one, blank ones included.
-/

set_option autoImplicit false
set_option relaxedAutoImplicit false

namespace DocTree.Json

/-- The lines of a text, without their line feeds. The last line may be empty. -/
def splitLines : List Char → List (List Char)
  | [] => [[]]
  | c :: rest =>
    if c = '\n' then [] :: splitLines rest
    else
      match splitLines rest with
      | [] => [[c]]
      | line :: lines => (c :: line) :: lines

/-- Whether a line holds nothing but white space. -/
def isBlankLine (line : List Char) : Bool := line.all Text.isBlank

/-- Reads the values of lines, the first of which has a number, or finds the first bad line. -/
def parseLinesFrom (number : Nat) : List (List Char) → Except Nat (List Value)
  | [] => .ok []
  | line :: lines =>
    if isBlankLine line then parseLinesFrom (number + 1) lines
    else
      match parseChars? line with
      | none => .error number
      | some value => (parseLinesFrom (number + 1) lines).map (value :: ·)

/-- Reads the values of the lines of a text, or finds the first bad line. -/
def parseLines (text : String) : Except Nat (List Value) :=
  parseLinesFrom 1 (splitLines text.toList)

/-- Writes values on lines of their own. -/
def writeLines (items : List Value) : List Char := items.flatMap fun item ↦ write 0 0 item ++ ['\n']

/-- The values that are written on lines of their own: the elements of an array, or a single value of
any other kind. -/
def lineValues : Value → List Value
  | .array items => items
  | value => [value]

end DocTree.Json
