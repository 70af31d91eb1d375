import DocTree.Decimal.Stepwise
import DocTree.Text.Hexadecimal
import DocTree.Value

/-!
# Reading JSON

`Json.parse?` reads a JSON text. Integers in the range of `Int64` become integers. Every other
number becomes a float, `-0` among them, and one that is too large for a float is refused. Floats
are read in steps that round (`Decimal.stepwise?`), and not always to the nearest float. Of two
entries with one key the first fixes the position and the last the value. Containers may nest 127
deep.

A reader takes a text and gives what it read together with the rest of the text. How floats are read
is a parameter of the readers of values.
-/

set_option autoImplicit false
set_option relaxedAutoImplicit false

namespace DocTree.Json

/-- A function that reads something at the front of a text. -/
abbrev Reader (α : Type) := List Char → Option (α × List Char)

/-- The four characters that may stand between tokens. -/
def isSpace (c : Char) : Bool := c = ' ' || c = '\n' || c = '\t' || c = '\r'

/-- The text from its first token on. -/
def skipSpace (text : List Char) : List Char := text.dropWhile isSpace

/-! ### Strings -/

/-- Reads what follows `\u`: one code unit, or two that form a surrogate pair. -/
def unicodeEscape? (text : List Char) : Option (Char × List Char) := do
  let (unit, rest) ← Text.hexNumber? 4 text
  if unit < 0xd800 || 0xdfff < unit then
    return (Char.ofNat unit, rest)
  else if 0xdc00 ≤ unit then
    none
  else
    match rest with
    | '\\' :: 'u' :: more =>
      let (low, rest) ← Text.hexNumber? 4 more
      if 0xdc00 ≤ low && low ≤ 0xdfff then
        return (Char.ofNat (0x10000 + (unit - 0xd800) * 0x400 + (low - 0xdc00)), rest)
      else none
    | _ => none

/-- Reads what follows a backslash. -/
def escape? : Reader Char
  | '"' :: rest => some ('"', rest)
  | '\\' :: rest => some ('\\', rest)
  | '/' :: rest => some ('/', rest)
  | 'b' :: rest => some ('\x08', rest)
  | 'f' :: rest => some ('\x0c', rest)
  | 'n' :: rest => some ('\n', rest)
  | 'r' :: rest => some ('\r', rest)
  | 't' :: rest => some ('\t', rest)
  | 'u' :: rest => unicodeEscape? rest
  | _ => none

/-- Reads one character of a string, escaped or not. Control characters must be escaped. -/
def stringChar? : Reader Char
  | '\\' :: rest => escape? rest
  | c :: rest => if c < ' ' then none else some (c, rest)
  | [] => none

/-- Reads the characters of a string and the quote that closes it. There may be as many of them as
`room` is long; a text is room enough for its own characters. -/
def stringBody? (room text : List Char) : Option (List Char × List Char) :=
  match room, text with
  | [], _ => none
  | _ :: _, '"' :: rest => some ([], rest)
  | _ :: room, text =>
    match stringChar? text with
    | none => none
    | some (c, rest) => (stringBody? room rest).map fun (chars, rest) ↦ (c :: chars, rest)

/-- Reads a string with its quotes. -/
def string? : Reader String
  | '"' :: rest => (stringBody? rest rest).map fun (chars, rest) ↦ (String.ofList chars, rest)
  | _ => none

/-! ### Numbers -/

/-- The parts of a number: sign, digits before the point, digits after it, and the exponent. -/
structure Numeral where
  negative : Bool
  whole : List Char
  fraction : Option (List Char)
  exponent : Option Int

/-- Reads the digits before the point: a single zero, or digits that start with none. -/
def whole? : Reader (List Char)
  | '0' :: rest => some (['0'], rest)
  | text =>
    match Decimal.spanDigits text with
    | ([], _) => none
    | (digits, rest) => some (digits, rest)

/-- Reads the point and the digits after it, if there is a point. -/
def fraction? : Reader (Option (List Char))
  | '.' :: text =>
    match Decimal.spanDigits text with
    | ([], _) => none
    | (digits, rest) => some (some digits, rest)
  | text => some (none, text)

/-- Reads the sign and the digits of an exponent. -/
def exponentValue? (text : List Char) : Option (Int × List Char) :=
  let (negative, text) :=
    match text with
    | '-' :: rest => (true, rest)
    | '+' :: rest => (false, rest)
    | _ => (false, text)
  match Decimal.spanDigits text with
  | ([], _) => none
  | (digits, rest) =>
    let value : Int := Decimal.natOfDigits digits
    some (if negative then -value else value, rest)

/-- Reads an exponent, if there is one. -/
def exponent? : Reader (Option Int)
  | 'e' :: rest => (exponentValue? rest).map fun (value, rest) ↦ (some value, rest)
  | 'E' :: rest => (exponentValue? rest).map fun (value, rest) ↦ (some value, rest)
  | text => some (none, text)

/-- Reads the parts of a number. -/
def numeral? (text : List Char) : Option (Numeral × List Char) := do
  let (negative, text) :=
    match text with
    | '-' :: rest => (true, rest)
    | _ => (false, text)
  let (whole, text) ← whole? text
  let (fraction, text) ← fraction? text
  let (exponent, text) ← exponent? text
  return (⟨negative, whole, fraction, exponent⟩, text)

/-- How the float of a number is read, unless it is too large. -/
abbrev FloatReader := Numeral → Option Float

/-- Reads the float of a number in steps. -/
def Numeral.float? : FloatReader := fun numeral ↦
  let leading :=
    Decimal.ofLeadingDigits numeral.whole (numeral.fraction.getD []) (numeral.exponent.getD 0)
  leading.stepwise?.map fun magnitude ↦ if numeral.negative then -magnitude else magnitude

variable (float? : FloatReader)

/-- The value of a number. A number without a point and an exponent is an integer if it is in range
and is no negative zero. -/
def Numeral.value? (numeral : Numeral) : Option Value :=
  if numeral.fraction.isSome || numeral.exponent.isSome then (float? numeral).map .float
  else
    let magnitude : Int := Decimal.natOfDigits numeral.whole
    let number := if numeral.negative then -magnitude else magnitude
    if numeral.negative && magnitude = 0 then (float? numeral).map .float
    else if Int64.minValue.toInt ≤ number && number ≤ Int64.maxValue.toInt then
      some (.int (Int64.ofInt number))
    else (float? numeral).map .float

/-! ### Values -/

/-- Reads a word, and gives the value it stands for. -/
def word? (word : List Char) (value : Value) : Reader Value := fun text ↦
  if word.isPrefixOf text then some (value, text.drop word.length) else none

/-- Reads a value that is no container. -/
def scalar? (text : List Char) : Option (Value × List Char) :=
  match text with
  | 'n' :: _ => word? ['n', 'u', 'l', 'l'] .null text
  | 't' :: _ => word? ['t', 'r', 'u', 'e'] (.bool true) text
  | 'f' :: _ => word? ['f', 'a', 'l', 's', 'e'] (.bool false) text
  | '"' :: _ => (string? text).map fun (chars, rest) ↦ (.string chars, rest)
  | _ =>
    match numeral? text with
    | some (numeral, rest) => (numeral.value? float?).map (·, rest)
    | none => none

/-- Reads one or more things with commas between them, up to the closing character. There may be as
many of them as `room` is long. -/
def listOf {α : Type} (close : Char) (one : Reader α) (room text : List Char) :
    Option (List α × List Char) :=
  match room with
  | [] => none
  | _ :: room =>
    match one text with
    | none => none
    | some (item, rest) =>
      match skipSpace rest with
      | [] => none
      | c :: more =>
        if c = close then some ([item], more)
        else if c = ',' then
          (listOf close one room more).map fun (items, rest) ↦ (item :: items, rest)
        else none

/-- Reads the things of a container after its opening character. -/
def members {α : Type} (close : Char) (one : Reader α) (text : List Char) :
    Option (List α × List Char) :=
  match skipSpace text with
  | [] => none
  | c :: rest => if c = close then some ([], rest) else listOf close one text text

/-- Reads a key, a colon and a value. -/
def entry (value : Reader Value) : Reader (String × Value) := fun text ↦ do
  let (key, rest) ← string? (skipSpace text)
  match skipSpace rest with
  | ':' :: rest =>
    let (item, rest) ← value rest
    return ((key, item), rest)
  | _ => none

/-- Reads a value whose children, if it may have any, are read by `child?`. -/
def valueWith (child? : Option (Reader Value)) : Reader Value := fun text ↦
  match skipSpace text with
  | '[' :: rest => do
    let child ← child?
    let (items, rest) ← members ']' child rest
    return (.array items, rest)
  | '\x7b' :: rest => do
    let child ← child?
    let (pairs, rest) ← members '\x7d' (entry child) rest
    return (.object (Entries.ofList pairs), rest)
  | text => scalar? float? text

/-- Reads a value with containers at most `depth` deep. -/
def value? (depth : Nat) : Reader Value :=
  match depth with
  | 0 => valueWith float? none
  | depth + 1 => valueWith float? (some (value? depth))

/-- How deep containers may nest. -/
def maxDepth : Nat := 127

/-- Reads a whole text as one value. -/
def parseChars? (text : List Char) : Option Value :=
  match value? Numeral.float? maxDepth text with
  | some (value, rest) => if (skipSpace rest).isEmpty then some value else none
  | none => none

/-- Reads a JSON document. -/
def parse? (text : String) : Option Value := parseChars? text.toList

/-- Reads a literal of a command: a JSON document if the text is one, and the text itself as a
string otherwise. -/
def parseLiteral (text : String) : Value := (parse? text).getD (.string text)

end DocTree.Json
