import DocTree.Toml.Scalar

/-!
# Reading TOML

A document is a sequence of lines. A line is empty, a header or a pair, and may end with a comment.
Values are strings in four notations, words, arrays, which may go over several lines, and inline
tables, which may not.

A reader takes a text and gives what it read together with the rest of the text.
-/

set_option autoImplicit false
set_option relaxedAutoImplicit false

namespace DocTree.Toml

/-- A function that reads something at the front of a text. -/
abbrev Reader (α : Type) := List Char → Option (α × List Char)

/-- The white space inside of lines. -/
def isBlank (c : Char) : Bool := c = ' ' || c = '\t'

/-- The characters that comments and strings may hold as they are. -/
def isTextChar (c : Char) : Bool := c = '\t' || (' ' ≤ c && c ≠ '\x7f')

/-- The text after white space. -/
def skipBlank (text : List Char) : List Char := text.dropWhile isBlank

/-- The text after a line break, if there is one here. -/
def newline? : List Char → Option (List Char)
  | '\n' :: rest => some rest
  | '\r' :: '\n' :: rest => some rest
  | _ => none

/-- The text after a comment, if there is one here. -/
def skipComment (text : List Char) : List Char :=
  match text with
  | '#' :: rest => rest.dropWhile isTextChar
  | _ => text

/-- The text after the end of a line: white space, a comment, and a line break unless it is the last
line. -/
def lineEnd? (text : List Char) : Option (List Char) :=
  match skipComment (skipBlank text) with
  | [] => some []
  | rest => newline? rest

/-- The text after any number of white space, comments and line breaks. -/
def skipLines : Nat → List Char → List Char
  | 0, text => text
  | fuel + 1, text =>
    let rest := skipComment (skipBlank text)
    match newline? rest with
    | some next => skipLines fuel next
    | none => rest

/-- `skipLines` with enough fuel. -/
def skipGap (text : List Char) : List Char := skipLines (text.length + 1) text

/-! ### Strings -/

/-- Reads what follows a backslash. -/
def escape? : Reader Char
  | 'b' :: rest => some ('\x08', rest)
  | 't' :: rest => some ('\t', rest)
  | 'n' :: rest => some ('\n', rest)
  | 'f' :: rest => some ('\x0c', rest)
  | 'r' :: rest => some ('\r', rest)
  | '"' :: rest => some ('"', rest)
  | '\\' :: rest => some ('\\', rest)
  | 'u' :: rest => do
    let (code, rest) ← Text.hexNumber? 4 rest
    return (← Text.charOfCode? code, rest)
  | 'U' :: rest => do
    let (code, rest) ← Text.hexNumber? 8 rest
    return (← Text.charOfCode? code, rest)
  | _ => none

/-- The ways to write a string: with or without escapes, on one line or on several. -/
structure Quoting where
  quote : Char
  escapes : Bool
  lines : Bool

/-- The text after a line break and all white space and line breaks that follow, if white space and a
line break come next. -/
def joinLines? (text : List Char) : Option (List Char) :=
  (newline? (skipBlank text)).map fun rest ↦
    rest.dropWhile fun c ↦ isBlank c || c = '\n' || c = '\r'

/-- Reads the characters of a string up to its closing quotes. On several lines, up to two quotes may
stand in front of these, and a backslash may join lines. -/
def stringFrom? (style : Quoting) : Nat → List Char → Option (List Char × List Char)
  | 0, _ => none
  | fuel + 1, text =>
    let quotes := (text.takeWhile (· = style.quote)).length
    if style.lines && 3 ≤ quotes then
      let count := min quotes 5
      some (List.replicate (count - 3) style.quote, text.drop count)
    else if !style.lines && 1 ≤ quotes then some ([], text.drop 1)
    else
      match text with
      | [] => none
      | c :: rest =>
        if style.escapes && c = '\\' then
          match if style.lines then joinLines? rest else none with
          | some next => stringFrom? style fuel next
          | none => do
            let (char, next) ← escape? rest
            let (chars, next) ← stringFrom? style fuel next
            return (char :: chars, next)
        else if isTextChar c then
          (stringFrom? style fuel rest).map fun (chars, next) ↦ (c :: chars, next)
        else if style.lines then do
          let next ← newline? text
          let (chars, next) ← stringFrom? style fuel next
          return ('\n' :: chars, next)
        else none

/-- Reads a string after its opening quotes. A line break right after them is not part of it. -/
def stringBody? (style : Quoting) (text : List Char) : Option (String × List Char) :=
  let text := if style.lines then (newline? text).getD text else text
  (stringFrom? style (text.length + 1) text).map fun (chars, rest) ↦ (.ofList chars, rest)

/-- Reads a string on one line. -/
def lineString? : Reader String
  | '"' :: rest => stringBody? ⟨'"', true, false⟩ rest
  | '\'' :: rest => stringBody? ⟨'\'', false, false⟩ rest
  | _ => none

/-- Reads a string. -/
def string? (text : List Char) : Option (String × List Char) :=
  match text with
  | '"' :: '"' :: '"' :: rest => stringBody? ⟨'"', true, true⟩ rest
  | '\'' :: '\'' :: '\'' :: rest => stringBody? ⟨'\'', false, true⟩ rest
  | _ => lineString? text

/-! ### Keys -/

/-- The characters of names without quotes. -/
def isBareChar (c : Char) : Bool := c.isAlphanum || c = '_' || c = '-'

/-- Reads a name. -/
def name? (text : List Char) : Option (String × List Char) :=
  let bare := text.takeWhile isBareChar
  if bare.isEmpty then lineString? text else some (.ofList bare, text.drop bare.length)

/-- Reads the names of a key, with points between them. -/
def names? : Nat → List Char → Option (List String × List Char)
  | 0, _ => none
  | fuel + 1, text => do
    let (name, rest) ← name? (skipBlank text)
    match skipBlank rest with
    | '.' :: rest =>
      let (names, rest) ← names? fuel rest
      return (name :: names, rest)
    | rest => return ([name], rest)

/-- Reads a key. -/
def key? (text : List Char) : Option (Key × List Char) := do
  let (names, rest) ← names? (text.length + 1) text
  return (⟨names.dropLast, names.getLastD ""⟩, rest)

/-! ### Values -/

/-- Reads a number or a date, which may have a space between its day and its time. -/
def word? (text : List Char) : Option (Item × List Char) := do
  let word := text.takeWhile isWordChar
  let rest := text.drop word.length
  match rest with
  | ' ' :: c :: _ =>
    if isDay word && c.isDigit then
      let time := (rest.drop 1).takeWhile isWordChar
      return (← wordItem? (word ++ ' ' :: time), rest.drop (time.length + 1))
    else return (← wordItem? word, rest)
  | _ => return (← wordItem? word, rest)

/-- Reads the elements of an array and its closing bracket. -/
def elements? (value : Reader Item) : Nat → List Char → Option (List Item × List Char)
  | 0, _ => none
  | fuel + 1, text =>
    match skipGap text with
    | ']' :: rest => some ([], rest)
    | text => do
      let (item, rest) ← value text
      match skipGap rest with
      | ',' :: rest =>
        let (items, rest) ← elements? value fuel rest
        return (item :: items, rest)
      | ']' :: rest => return ([item], rest)
      | _ => none

/-- Reads a key, an equals sign and a value. -/
def pair? (value : Reader Item) (text : List Char) : Option ((Key × Item) × List Char) := do
  let (key, rest) ← key? text
  let rest ← mark? '=' rest
  let (item, rest) ← value (skipBlank rest)
  return ((key, item), rest)

/-- Reads the pairs of an inline table, which adds to `table`, and its closing brace. -/
def pairs? (value : Reader Item) : Nat → Table → List Char → Option (Table × List Char)
  | 0, _, _ => none
  | fuel + 1, table, text => do
    let ((key, item), rest) ← pair? value text
    let table ← table.addPair? key item
    match skipBlank rest with
    | ',' :: rest => pairs? value fuel table rest
    | '\x7d' :: rest => return (table, rest)
    | _ => none

/-- Reads a value whose elements, if it may have any, are read by `child?`. -/
def valueWith (child? : Option (Reader Item)) (text : List Char) : Option (Item × List Char) :=
  match text with
  | '[' :: rest => do
    let child ← child?
    let (items, rest) ← elements? child (rest.length + 1) rest
    return (.array items, rest)
  | '\x7b' :: rest => do
    let child ← child?
    match skipBlank rest with
    | '\x7d' :: rest => return (.inline [], rest)
    | rest =>
      let (table, rest) ← pairs? child (rest.length + 1) [] rest
      return (.inline table, rest)
  | '"' :: _ => (string? text).map fun (text, rest) ↦ (.string text, rest)
  | '\'' :: _ => (string? text).map fun (text, rest) ↦ (.string text, rest)
  | _ => word? text

/-- Reads a value with containers at most `depth` deep. -/
def value? (depth : Nat) : Reader Item :=
  match depth with
  | 0 => valueWith none
  | depth + 1 => valueWith (some (value? depth))

/-- How deep containers may nest. -/
def maxDepth : Nat := 79

/-! ### Documents -/

/-- A document that is read in part: its table, and the path of the table to which pairs are
added. -/
structure Draft where
  root : Table := []
  current : List String := []

/-- Reads a header after its opening brackets, of which there are `count`. -/
def header? (count : Nat) (text : List Char) : Option (Key × List Char) := do
  let (key, rest) ← key? text
  if rest.take count = List.replicate count ']' then return (key, rest.drop count) else none

/-- Reads the content of a line: nothing, a header or a pair. -/
def line? (draft : Draft) (text : List Char) : Option (Draft × List Char) :=
  match text with
  | [] => some (draft, [])
  | '[' :: '[' :: rest => do
    let (key, rest) ← header? 2 rest
    return (⟨← draft.root.openElement? key, key.path ++ [key.name]⟩, rest)
  | '[' :: rest => do
    let (key, rest) ← header? 1 rest
    return (⟨← draft.root.openTable? key, key.path ++ [key.name]⟩, rest)
  | c :: _ =>
    if c = '#' || c = '\n' || c = '\r' then some (draft, text)
    else do
      let ((key, item), rest) ← pair? (value? maxDepth) text
      let root ← draft.root.changeAt? (·.addPair? key item) draft.current
      return ({ draft with root }, rest)

/-- Reads lines up to the end of the text. -/
def lines? : Nat → Draft → List Char → Option Table
  | 0, _, _ => none
  | fuel + 1, draft, text => do
    let (draft, rest) ← line? draft (skipBlank text)
    match ← lineEnd? rest with
    | [] => return draft.root
    | rest => lines? fuel draft rest

/-- Reads a document. A byte order mark in front is no part of it. -/
def parse? (text : String) : Option Table :=
  let chars :=
    match text.toList with
    | '\ufeff' :: rest => rest
    | chars => chars
  lines? (chars.length + 1) {} chars

end DocTree.Toml
