import DocTree.Yaml.Cursor
import DocTree.Yaml.Scalar

/-!
# How scalars are written

A string with a line feed is written as a literal block, one that would be read as something else in
single quotes, and any other one plainly. When a scalar does not allow its style, it is written in
single quotes if it allows them, and in double quotes otherwise.
-/

set_option autoImplicit false
set_option relaxedAutoImplicit false

namespace DocTree.Yaml

/-- The ways to write a scalar. -/
inductive Style where
  | plain
  | single
  | double
  | literal
deriving DecidableEq, Inhabited

/-- Whether a character is written as it is. -/
def isPrintable (c : Char) : Bool :=
  c = '\n' || (' ' ≤ c && c ≤ '~') ||
    ('\u00a0' ≤ c && c ≠ '\ufeff' && c ≠ '\ufffe' && c ≠ '\uffff')

/-- Whether two characters that satisfy the tests follow each other. -/
def hasPair (first second : Char → Bool) (text : List Char) : Bool :=
  (text.zip (text.drop 1)).any fun pair ↦ first pair.1 && second pair.2

/-- The characters that are indicators at the start of a scalar. -/
def isLeadingIndicator (c : Char) : Bool :=
  "#,[]\x7b\x7d&*!|>'\"%@\x60".toList.contains c

/-- Whether a text has a colon at the end of a word, or a number sign after white space. -/
def hasInnerIndicator (afterGap : Bool) : List Char → Bool
  | [] => false
  | c :: rest =>
    (c = ':' && endsWord rest) || (c = '#' && afterGap) || hasInnerIndicator (isGap c) rest

/-- Whether a text would not be read as one plain scalar because of an indicator in it. -/
def hasIndicator (text : List Char) : Bool :=
  match text with
  | [] => false
  | c :: rest =>
    text.take 3 = ['-', '-', '-'] || text.take 3 = ['.', '.', '.'] || isLeadingIndicator c ||
      ((c = '?' || c = ':' || c = '-') && endsWord rest) || hasInnerIndicator (isGap c) rest

/-- Whether a text has characters, or a space at the end of a line, that only double quotes can
keep. -/
def needsEscapes (text : List Char) : Bool :=
  text.any (!isPrintable ·) || hasPair (· = ' ') isBreak text

/-- Whether a text can be written in single quotes. -/
def allowsSingle (text : List Char) : Bool :=
  !needsEscapes text && !hasPair isBreak (· = ' ') text

/-- Whether a text can be written plainly. -/
def allowsPlain (text : List Char) : Bool :=
  let isEdge (c : Char) : Bool := c = ' ' || isBreak c
  !needsEscapes text && !text.any isBreak && !hasIndicator text &&
    !text.head?.any isEdge && !text.getLast?.any isEdge

/-- Whether a text can be written as a block. -/
def allowsLiteral (text : List Char) : Bool :=
  !text.isEmpty && !needsEscapes text && text.getLast? ≠ some ' '

/-- The style that fits the content of a string. -/
def preferredStyle (text : List Char) : Style :=
  if text.contains '\n' then .literal
  else if hasLeadingZero text then .single
  else
    match Node.ofPlain? text with
    | some (.string _) => .plain
    | _ => .single

/-- The style in which a text is written, given the preferred one. A key that stands on one line with
its value is never a block. -/
def Style.allowed (style : Style) (text : List Char) (key : Bool) : Style :=
  let quoted := if allowsSingle text then .single else .double
  if key && text.any isBreak then .double
  else
    match style with
    | .plain => if allowsPlain text && !(key && text.isEmpty) then .plain else quoted
    | .single => quoted
    | .literal => if allowsLiteral text && !key then .literal else .double
    | .double => .double

end DocTree.Yaml
