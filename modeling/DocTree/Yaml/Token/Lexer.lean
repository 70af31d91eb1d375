import DocTree.Yaml.Token.Property

/-!
# From a YAML text to its tokens

Block collections are told by indentation. The lexer keeps the columns of the blocks that are open;
a token further to the right opens a block, and one further to the left closes blocks.

A key of a mapping need not be marked: the colon after it tells. So the lexer remembers, for every
level of flow collections, the place where an unmarked key may have started. When a colon follows on
the same line and within 1024 characters, the token for the key, and the start of its mapping, are
put in front of what was read there.
-/

set_option autoImplicit false
set_option relaxedAutoImplicit false

namespace DocTree.Yaml

/-- A place where an unmarked key may have started, and the number of tokens before it. A key is
required where only a key can stand. -/
structure KeyStart where
  required : Bool
  tokens : Nat
  cursor : Cursor
deriving Inhabited

/-- A text that is read in part: the tokens, last one first, the columns of the open blocks, innermost
first, and a possible key for every open flow collection and for the block around them. -/
structure Lexer where
  cursor : Cursor
  tokens : List Token := []
  count : Nat := 0
  indents : List Int := [-1]
  keys : List (Option KeyStart) := [none]
  keyAllowed : Bool := true
deriving Inhabited

namespace Lexer

/-- Whether a flow collection is open. -/
def inFlow (lexer : Lexer) : Bool := 1 < lexer.keys.length

/-- The column of the innermost open block, or -1. -/
def indent (lexer : Lexer) : Int := lexer.indents.headD (-1)

/-- Adds a token. -/
def emit (lexer : Lexer) (token : Token) : Lexer :=
  { lexer with tokens := token :: lexer.tokens, count := lexer.count + 1 }

/-- Adds a token and moves on. -/
def take (lexer : Lexer) (token : Token) (length : Nat) : Lexer :=
  { lexer.emit token with cursor := lexer.cursor.advance length }

/-- Puts a token behind the first `before` tokens. -/
def insert (lexer : Lexer) (before : Nat) (token : Token) : Lexer :=
  let later := lexer.count - before
  { lexer with
    tokens := lexer.tokens.take later ++ token :: lexer.tokens.drop later
    count := lexer.count + 1 }

/-! ### Blocks -/

/-- Opens a block at a column that is further to the right than the innermost open block. -/
def openBlock (lexer : Lexer) (column : Nat) (before : Nat) (start : Token) : Lexer :=
  if !lexer.inFlow && lexer.indent < column then
    { lexer with indents := column :: lexer.indents }.insert before start
  else lexer

/-- Closes the blocks that are further to the right than a column. -/
def closeBlocks (lexer : Lexer) (column : Int) : Lexer :=
  if lexer.inFlow then lexer
  else
    let closed := (lexer.indents.takeWhile (column < ·)).length
    { lexer with
      indents := lexer.indents.drop closed
      tokens := List.replicate closed .blockEnd ++ lexer.tokens
      count := lexer.count + closed }

/-! ### Unmarked keys -/

/-- Forgets the places that are too far back to start a key. -/
def dropStaleKeys (lexer : Lexer) : Option Lexer :=
  let isStale (start : KeyStart) : Bool :=
    start.cursor.line < lexer.cursor.line || start.cursor.offset + 1024 < lexer.cursor.offset
  if lexer.keys.any fun key? ↦ key?.any fun start ↦ start.required && isStale start then none
  else
    some { lexer with keys := lexer.keys.map fun key? ↦ key?.filter fun start ↦ !isStale start }

/-- Forgets the place where a key may have started on this level. -/
def dropKey (lexer : Lexer) : Option Lexer :=
  match lexer.keys with
  | some start :: outer => if start.required then none else some { lexer with keys := none :: outer }
  | _ => some lexer

/-- Remembers that a key may start here, where one is allowed. -/
def saveKey (lexer : Lexer) : Option Lexer :=
  if !lexer.keyAllowed then some lexer
  else
    let required := !lexer.inFlow && lexer.indent = lexer.cursor.column
    lexer.dropKey.map fun lexer ↦
      { lexer with keys := some ⟨required, lexer.count, lexer.cursor⟩ :: lexer.keys.drop 1 }

/-! ### Tokens -/

/-- Moves on to the next token, over white space, comments and line breaks. In a block, tabs count as
white space only where no key may start. -/
def skipToToken : Nat → Lexer → Lexer
  | 0, lexer => lexer
  | fuel + 1, lexer =>
    let cursor :=
      if lexer.cursor.column = 0 && startsWith (· = '\ufeff') lexer.cursor.rest then
        lexer.cursor.advance 1
      else lexer.cursor
    let tabs := lexer.inFlow || !lexer.keyAllowed
    let cursor := (cursor.skipWhile fun c ↦ c = ' ' || (tabs && c = '\t')).skipComment
    match cursor.lineBreak? with
    | some (_, cursor) =>
      skipToToken fuel { lexer with cursor, keyAllowed := !lexer.inFlow || lexer.keyAllowed }
    | none => { lexer with cursor }

/-- Ends all blocks and the text. -/
def finish (lexer : Lexer) : Option Lexer :=
  (lexer.closeBlocks (-1)).dropKey.map (·.emit .streamEnd)

/-- Reads a directive. -/
def directive (lexer : Lexer) : Option Lexer := do
  let lexer ← (lexer.closeBlocks (-1)).dropKey
  let (token, cursor) ← lexer.cursor.directive?
  return { lexer.emit token with cursor, keyAllowed := false }

/-- Reads a line that separates documents. -/
def documentMark (lexer : Lexer) (token : Token) : Option Lexer :=
  (lexer.closeBlocks (-1)).dropKey.map fun lexer ↦ { lexer.take token 3 with keyAllowed := false }

/-- Reads the start of a flow collection. -/
def openFlow (lexer : Lexer) (token : Token) : Option Lexer :=
  lexer.saveKey.map fun lexer ↦
    { lexer.take token 1 with keys := none :: lexer.keys, keyAllowed := true }

/-- Reads the end of a flow collection. -/
def closeFlow (lexer : Lexer) (token : Token) : Option Lexer :=
  lexer.dropKey.map fun lexer ↦
    { lexer.take token 1 with
      keys := if lexer.inFlow then lexer.keys.drop 1 else lexer.keys
      keyAllowed := false }

/-- Reads a comma. -/
def flowEntry (lexer : Lexer) : Option Lexer :=
  lexer.dropKey.map fun lexer ↦ { lexer.take .flowEntry 1 with keyAllowed := true }

/-- Reads the hyphen of an element. -/
def blockEntry (lexer : Lexer) : Option Lexer :=
  if !lexer.inFlow && !lexer.keyAllowed then none
  else
    (lexer.openBlock lexer.cursor.column lexer.count .blockSequenceStart).dropKey.map fun lexer ↦
      { lexer.take .blockEntry 1 with keyAllowed := true }

/-- Reads the question mark of a key. -/
def markedKey (lexer : Lexer) : Option Lexer :=
  if !lexer.inFlow && !lexer.keyAllowed then none
  else
    (lexer.openBlock lexer.cursor.column lexer.count .blockMappingStart).dropKey.map fun lexer ↦
      { lexer.take .key 1 with keyAllowed := !lexer.inFlow }

/-- Reads the colon of a value, and marks the key before it if that is not marked yet. -/
def mappingValue (lexer : Lexer) : Option Lexer :=
  match lexer.keys with
  | some start :: outer =>
    let lexer := lexer.insert start.tokens .key
    let lexer := lexer.openBlock start.cursor.column start.tokens .blockMappingStart
    some { lexer.take .value 1 with keys := none :: outer, keyAllowed := false }
  | _ =>
    if !lexer.inFlow && !lexer.keyAllowed then none
    else
      let lexer := lexer.openBlock lexer.cursor.column lexer.count .blockMappingStart
      some { lexer.take .value 1 with keyAllowed := !lexer.inFlow }

/-- Reads an anchor or an alias. -/
def anchor (lexer : Lexer) (token : List Char → Token) : Option Lexer := do
  let lexer ← lexer.saveKey
  let (name, cursor) ← lexer.cursor.anchorName?
  return { lexer.emit (token name) with cursor, keyAllowed := false }

/-- Reads a tag. -/
def tag (lexer : Lexer) : Option Lexer := do
  let lexer ← lexer.saveKey
  let (token, cursor) ← lexer.cursor.tag? lexer.inFlow
  return { lexer.emit token with cursor, keyAllowed := false }

/-- Reads a block scalar. -/
def blockScalar (lexer : Lexer) (literal : Bool) : Option Lexer := do
  let lexer ← lexer.dropKey
  let (text, cursor) ← lexer.cursor.block? literal lexer.indent
  return { lexer.emit (.scalar text false) with cursor, keyAllowed := true }

/-- Reads a quoted scalar. -/
def quotedScalar (lexer : Lexer) (single : Bool) : Option Lexer := do
  let lexer ← lexer.saveKey
  let (text, cursor) ← lexer.cursor.quoted? single
  return { lexer.emit (.scalar text false) with cursor, keyAllowed := false }

/-- Reads a plain scalar. A key may start after it when a line has ended. -/
def plainScalar (lexer : Lexer) : Option Lexer := do
  let lexer ← lexer.saveKey
  let plain ← lexer.cursor.plain? lexer.inFlow (lexer.indent + 1).toNat
  return { lexer.emit (.scalar plain.text true) with
    cursor := plain.cursor, keyAllowed := plain.endsLine }

/-- Whether a plain scalar can start with a character, `rest` following. -/
def startsPlain (flow : Bool) (c : Char) (rest : List Char) : Bool :=
  (!isGap c && !"-?:,[]\x7b\x7d#&*!|>'\"%@\x60".toList.contains c) ||
    (c = '-' && !startsWith isBlank rest) ||
    (!flow && (c = '?' || c = ':') && !endsWord rest)

/-- Reads one token. After the last one comes the end of the text. -/
def next? (lexer : Lexer) : Option Lexer := do
  let lexer ← (lexer.skipToToken (lexer.cursor.rest.length + 1)).dropStaleKeys
  let lexer := lexer.closeBlocks lexer.cursor.column
  match lexer.cursor.rest with
  | [] => lexer.finish
  | c :: rest =>
    let alone := lexer.inFlow || endsWord rest
    if lexer.cursor.column = 0 && c = '%' then lexer.directive
    else if lexer.cursor.atTriple '-' then lexer.documentMark .documentStart
    else if lexer.cursor.atTriple '.' then lexer.documentMark .documentEnd
    else if c = '[' then lexer.openFlow .flowSequenceStart
    else if c = '\x7b' then lexer.openFlow .flowMappingStart
    else if c = ']' then lexer.closeFlow .flowSequenceEnd
    else if c = '\x7d' then lexer.closeFlow .flowMappingEnd
    else if c = ',' then lexer.flowEntry
    else if c = '-' && endsWord rest then lexer.blockEntry
    else if c = '?' && alone then lexer.markedKey
    else if c = ':' && alone then lexer.mappingValue
    else if c = '*' then lexer.anchor .reference
    else if c = '&' then lexer.anchor .anchor
    else if c = '!' then lexer.tag
    else if c = '|' && !lexer.inFlow then lexer.blockScalar true
    else if c = '>' && !lexer.inFlow then lexer.blockScalar false
    else if c = '\'' then lexer.quotedScalar true
    else if c = '"' then lexer.quotedScalar false
    else if startsPlain lexer.inFlow c rest then lexer.plainScalar
    else none

/-- Reads tokens up to the end of the text. -/
def run : Nat → Lexer → Option (List Token)
  | 0, _ => none
  | fuel + 1, lexer =>
    match lexer.next? with
    | none => none
    | some lexer =>
      match lexer.tokens with
      | .streamEnd :: _ => some lexer.tokens.reverse
      | _ => run fuel lexer

end Lexer

/-- The characters that may stand in a text. -/
def isTextChar (c : Char) : Bool :=
  c = '\t' || c = '\n' || c = '\r' || (' ' ≤ c && c ≤ '~') || c = '\u0085' ||
    ('\u00a0' ≤ c && c ≠ '\ufffe' && c ≠ '\uffff')

/-- The tokens of a text, the last one its end. A byte order mark in front is no part of the text. -/
def tokens? (text : List Char) : Option (List Token) :=
  let text :=
    match text with
    | '\ufeff' :: rest => rest
    | _ => text
  if text.all isTextChar then Lexer.run (text.length + 1) { cursor := ⟨text, 0, 0, 0⟩ } else none

end DocTree.Yaml
