/-!
# Writing TOML strings

A string is written in the first notation that suits it: between double quotes with nothing escaped
but tabs; between single quotes; between three double quotes; between three single quotes; and else
between double quotes with escapes, three on either side if it has line breaks.
-/

set_option autoImplicit false
set_option relaxedAutoImplicit false

namespace DocTree.Toml

/-- Whether a character can only be written as an escape. -/
def isControl (c : Char) : Bool := (c < ' ' && c ≠ '\t' && c ≠ '\n') || c = '\x7f'

/-- The length of the longest run of a character, `run` of which stand before the text. -/
def longestRun (char : Char) (run : Nat) : List Char → Nat
  | [] => run
  | c :: rest => if c = char then longestRun char (run + 1) rest else max run (longestRun char 0 rest)

/-- A code in four hexadecimal digits, in upper case. -/
def codeEscape (code : Nat) : List Char :=
  let digit (place : Nat) : Char := (Nat.digitChar (code / Nat.pow 16 place % 16)).toUpper
  ['\\', 'u', digit 3, digit 2, digit 1, digit 0]

/-- A character between double quotes. -/
def escapeChar (lines : Bool) (c : Char) : List Char :=
  match c with
  | '\x08' => ['\\', 'b']
  | '\t' => ['\\', 't']
  | '\n' => if lines then ['\n'] else ['\\', 'n']
  | '\x0c' => ['\\', 'f']
  | '\r' => ['\\', 'r']
  | '\\' => ['\\', '\\']
  | _ => if isControl c then codeEscape c.toNat else [c]

/-- The characters between double quotes. On several lines two quotes may follow each other; `run`
quotes stand before the text. -/
def escapeChars (lines : Bool) (run : Nat) : List Char → List Char
  | [] => []
  | c :: rest =>
    if c ≠ '"' then escapeChar lines c ++ escapeChars lines 0 rest
    else if lines && run < 2 then '"' :: escapeChars lines (run + 1) rest
    else '\\' :: '"' :: escapeChars lines 0 rest

/-- A string with its quotes. -/
def writeString (text : List Char) : List Char :=
  let hasLines := text.contains '\n'
  let hasControls := text.any isControl
  let hasBackslash := text.contains '\\'
  let doubles := longestRun '"' 0 text
  let singles := longestRun '\'' 0 text
  let around (quotes body : List Char) : List Char :=
    let start := if quotes.length = 3 && hasLines then ['\n'] else []
    quotes ++ start ++ body ++ quotes
  let double := ['"']
  let doubleLines := ['"', '"', '"']
  if !hasControls && !hasBackslash && doubles = 0 && !hasLines then
    around double (escapeChars false 0 text)
  else if !hasControls && singles = 0 && !hasLines then around ['\''] text
  else if !hasControls && !hasBackslash && doubles ≤ 2 then
    around doubleLines (escapeChars true 0 text)
  else if !hasControls && singles ≤ 2 then around ['\'', '\'', '\''] text
  else if hasLines then around doubleLines (escapeChars true 0 text)
  else around double (escapeChars false 0 text)

end DocTree.Toml
