import DocTree.Yaml.Scalar.Style

/-!
# Pages

A page is a text that is being written. It knows its column, whether a space stands last, and whether
the current line holds nothing but spaces and indicators after which a block may start.
-/

set_option autoImplicit false
set_option relaxedAutoImplicit false

namespace DocTree.Yaml

/-- A text that is being written: its characters, last one first, its column, whether it ends with
white space, and whether a block may start on the current line. -/
structure Page where
  written : List Char := []
  column : Nat := 0
  spaced : Bool := true
  fresh : Bool := true
deriving Inhabited

namespace Page

/-- The text. -/
def text (page : Page) : List Char := page.written.reverse

/-- Writes a character. -/
def put (page : Page) (c : Char) : Page :=
  { page with written := c :: page.written, column := page.column + 1 }

/-- Writes characters. -/
def putAll (page : Page) (chars : List Char) : Page := chars.foldl put page

/-- Writes a line break. -/
def breakLine (page : Page) (lineBreak : Char) : Page :=
  { page with written := lineBreak :: page.written, column := 0 }

/-- Writes a space unless there is one. -/
def space (page : Page) : Page := if page.spaced then page else page.put ' '

/-- Moves to a column of a line that holds nothing else, the current one if possible. -/
def indentTo (page : Page) (indent : Nat) : Page :=
  let stays := page.fresh && (page.column < indent || (page.column = indent && page.spaced))
  let page := if stays then page else page.breakLine '\n'
  { page.putAll (List.replicate (indent - page.column) ' ') with spaced := true, fresh := true }

/-- Writes characters after which neither white space nor the start of a block may follow at once. -/
def word (page : Page) (chars : List Char) : Page :=
  { page.putAll chars with spaced := false, fresh := false }

/-- Writes an indicator after which a block may start, if one may start before it. -/
def blockIndicator (page : Page) (c : Char) : Page :=
  { page.space.put c with spaced := false }

/-! ### Scalars -/

/-- The characters inside of single quotes. Before the first character after line breaks the line is
indented. -/
def putSingle (indent : Nat) (broken : Bool) (page : Page) : List Char → Page
  | [] => if broken then page.indentTo indent else page
  | c :: rest =>
    if isBreak c then putSingle indent true { page.breakLine c with fresh := true } rest
    else if c = ' ' then putSingle indent broken (page.put c) rest
    else
      let page := if broken then page.indentTo indent else page
      let page := if c = '\'' then page.put c else page
      putSingle indent false { page.put c with fresh := false } rest

/-- A digit of a code, in upper case. -/
def codeDigit (value : Nat) : Char := (Nat.digitChar value).toUpper

/-- A code with a given count of hexadecimal digits. -/
def codeDigits (count code : Nat) : List Char :=
  (List.range count).reverse.map fun place ↦ codeDigit (code / Nat.pow 16 place % 16)

/-- A character inside of double quotes. -/
def escaped (c : Char) : List Char :=
  match c with
  | '\x00' => ['\\', '0']
  | '\x07' => ['\\', 'a']
  | '\x08' => ['\\', 'b']
  | '\t' => ['\\', 't']
  | '\n' => ['\\', 'n']
  | '\x0b' => ['\\', 'v']
  | '\x0c' => ['\\', 'f']
  | '\r' => ['\\', 'r']
  | '\x1b' => ['\\', 'e']
  | '"' => ['\\', '"']
  | '\\' => ['\\', '\\']
  | '\u0085' => ['\\', 'N']
  | '\u2028' => ['\\', 'L']
  | '\u2029' => ['\\', 'P']
  | _ =>
    if isPrintable c then [c]
    else if c.toNat ≤ 0xff then '\\' :: 'x' :: codeDigits 2 c.toNat
    else if c.toNat ≤ 0xffff then '\\' :: 'u' :: codeDigits 4 c.toNat
    else '\\' :: 'U' :: codeDigits 8 c.toNat

/-- The indicators of a literal block: its indentation when its first line does not tell, and what
becomes of the line breaks at its end. -/
def literalHints (text : List Char) : List Char :=
  let indentation := if text.head?.any fun c ↦ c = ' ' || isBreak c then ['2'] else []
  let chomping :=
    match text.reverse with
    | [] => ['-']
    | [c] => if isBreak c then ['+'] else ['-']
    | c :: d :: _ => if !isBreak c then ['-'] else if isBreak d then ['+'] else []
  indentation ++ chomping

/-- The lines of a literal block. Before the first character after line breaks the line is
indented. -/
def putLiteral (indent : Nat) (broken : Bool) (page : Page) : List Char → Page
  | [] => page
  | c :: rest =>
    if isBreak c then putLiteral indent true { page.breakLine c with fresh := true } rest
    else
      let page := if broken then page.indentTo indent else page
      putLiteral indent false { page.put c with fresh := false } rest

/-- Writes a scalar whose further lines have an indentation. -/
def scalar (page : Page) (indent : Nat) (text : List Char) : Style → Page
  | .plain => (if text.isEmpty then page else page.space).word text
  | .single => ((page.space.word ['\'']).putSingle indent false text).word ['\'']
  | .double => page.space.word ('"' :: text.flatMap escaped ++ ['"'])
  | .literal =>
    let opened := page.space.word ('|' :: literalHints text)
    putLiteral indent true { opened.breakLine '\n' with spaced := true, fresh := true } text

end Page

end DocTree.Yaml
