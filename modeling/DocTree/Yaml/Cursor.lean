/-!
# Places in a YAML text

A cursor is a place in a text together with its line, its column and its distance from the start.
YAML has five line breaks: a line feed, a carriage return (alone or before a line feed), a next line,
a line separator and a paragraph separator. The first three are read as line feeds.

A gap is the white space between two words of a scalar. When it has no line break it is kept;
otherwise the first line break becomes a space if it is the only one, and vanishes if it is not
(`Gap.fold`).
-/

set_option autoImplicit false
set_option relaxedAutoImplicit false

namespace DocTree.Yaml

/-- The characters that end a line. -/
def isBreak (c : Char) : Bool :=
  c = '\n' || c = '\r' || c = '\u0085' || c = '\u2028' || c = '\u2029'

/-- The characters that separate words on one line. -/
def isBlank (c : Char) : Bool := c = ' ' || c = '\t'

/-- The characters that separate words. -/
def isGap (c : Char) : Bool := isBlank c || isBreak c

/-- The characters of names. -/
def isNameChar (c : Char) : Bool := c.isAlphanum || c = '_' || c = '-'

/-- The characters that structure flow collections. -/
def isFlowIndicator (c : Char) : Bool :=
  c = ',' || c = '[' || c = ']' || c = '\x7b' || c = '\x7d'

/-- Whether a text ends here or goes on with white space. -/
def endsWord : List Char → Bool
  | [] => true
  | c :: _ => isGap c

/-- Whether a text ends here or goes on with a line break. -/
def endsLine : List Char → Bool
  | [] => true
  | c :: _ => isBreak c

/-- Whether a text goes on with a character that satisfies `test`. -/
def startsWith (test : Char → Bool) : List Char → Bool
  | [] => false
  | c :: _ => test c

/-- A place in a text: what follows it, and its line, its column and the number of characters before
it, counted from zero. -/
structure Cursor where
  rest : List Char
  line : Nat := 0
  column : Nat := 0
  offset : Nat := 0
deriving Inhabited

namespace Cursor

/-- The place `count` characters on, none of them a line break. -/
def advance (cursor : Cursor) (count : Nat) : Cursor :=
  { cursor with
    rest := cursor.rest.drop count
    column := cursor.column + count
    offset := cursor.offset + count }

/-- The place after the characters that satisfy `test`, none of them a line break. -/
def skipWhile (cursor : Cursor) (test : Char → Bool) : Cursor :=
  cursor.advance (cursor.rest.takeWhile test).length

/-- The start of the next line, when `count` characters of the text end this one. -/
def nextLine (cursor : Cursor) (count : Nat) : Cursor :=
  ⟨cursor.rest.drop count, cursor.line + 1, 0, cursor.offset + count⟩

/-- The character as which a line break is read, and the start of the next line. -/
def lineBreak? (cursor : Cursor) : Option (Char × Cursor) :=
  match cursor.rest with
  | '\r' :: '\n' :: _ => some ('\n', cursor.nextLine 2)
  | c :: _ =>
    if c = '\u2028' || c = '\u2029' then some (c, cursor.nextLine 1)
    else if isBreak c then some ('\n', cursor.nextLine 1)
    else none
  | [] => none

/-- The place after a line break, if there is one here. -/
def skipBreak (cursor : Cursor) : Cursor := (cursor.lineBreak?.map (·.2)).getD cursor

/-- The place after a comment, if there is one here. -/
def skipComment (cursor : Cursor) : Cursor :=
  match cursor.rest with
  | '#' :: _ => cursor.skipWhile fun c ↦ !isBreak c
  | _ => cursor

/-- Whether a line starts here with three times the same character and nothing else in that word. -/
def atTriple (cursor : Cursor) (mark : Char) : Bool :=
  cursor.column = 0 && cursor.rest.take 3 = [mark, mark, mark] && endsWord (cursor.rest.drop 3)

/-- Whether a line starts here that separates documents. -/
def atDocumentMark (cursor : Cursor) : Bool := cursor.atTriple '-' || cursor.atTriple '.'

end Cursor

/-! ### Gaps -/

/-- The white space between two words: the blanks before its first line break, and its line
breaks. -/
structure Gap where
  blanks : List Char := []
  breaks : List Char := []
deriving Inhabited

/-- What a gap contributes to a scalar. -/
def Gap.fold (gap : Gap) : List Char :=
  match gap.breaks with
  | [] => gap.blanks
  | ['\n'] => [' ']
  | '\n' :: more => more
  | breaks => breaks

namespace Cursor

/-- Reads the rest of a gap, of which `gap` was read. After a line break a tab must not stand before
the column `margin`. -/
def gapFrom (margin : Nat) : Nat → Bool → Gap → Cursor → Option (Gap × Cursor)
  | 0, _, gap, cursor => some (gap, cursor)
  | fuel + 1, broken, gap, cursor =>
    match cursor.rest with
    | [] => some (gap, cursor)
    | c :: _ =>
      if isBlank c then
        if !broken then
          gapFrom margin fuel false { gap with blanks := gap.blanks ++ [c] } (cursor.advance 1)
        else if c = '\t' && cursor.column < margin then none
        else gapFrom margin fuel true gap (cursor.advance 1)
      else
        match cursor.lineBreak? with
        | some (lineBreak, next) =>
          gapFrom margin fuel true { gap with breaks := gap.breaks ++ [lineBreak] } next
        | none => some (gap, cursor)

/-- Reads the gap that starts here. -/
def gap? (cursor : Cursor) (margin : Nat) : Option (Gap × Cursor) :=
  gapFrom margin (cursor.rest.length + 1) false {} cursor

end Cursor

end DocTree.Yaml
