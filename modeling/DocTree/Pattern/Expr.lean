import DocTree.Text.Alphanumeric
import DocTree.Text.Category

/-!
# Regular expressions

`Pattern.Expr` is a regular expression over code points with assertions about the position between
two characters. `Expr.advance` takes the set of positions where a match of an expression may start
and gives the set of positions where it may end. A position set is a list with one flag for each
position of the text, the one after its last character included. `Expr.occursIn` looks for a match
that may start anywhere.
-/

set_option autoImplicit false
set_option relaxedAutoImplicit false

namespace DocTree.Pattern

open Text (CodePoints)

/-- The characters that make words: letters, marks, decimal digits, connectors and joiners. -/
def wordChars : CodePoints :=
  .normalize ⟨
    (Text.alphanumericBeyondAscii.diff (Text.Category.no)).ranges ++
    (Text.Category.group 'm').ranges ++ Text.Category.nd.ranges ++ Text.Category.pc.ranges ++
    [(0x41, 0x5a), (0x61, 0x7a), (0x200c, 0x200d)]⟩

/-- The ASCII characters that make words. -/
def asciiWordChars : CodePoints := ⟨[(0x30, 0x39), (0x41, 0x5a), (0x5f, 0x5f), (0x61, 0x7a)]⟩

/-- What an assertion says about a position. -/
inductive Assertion where
  | textStart
  | textEnd
  /-- The start of the text or of a line; a line ends with `\n`, or with `\r` as well. -/
  | lineStart (crlf : Bool)
  /-- The end of the text or of a line. -/
  | lineEnd (crlf : Bool)
  /-- The characters on the two sides differ in being word characters, or do not. -/
  | wordBoundary (differ : Bool) (word : CodePoints)
  /-- A word starts here; with `half`, no more than that none goes on from before. -/
  | wordStart (half : Bool) (word : CodePoints)
  /-- A word ends here; with `half`, no more than that none goes on after. -/
  | wordEnd (half : Bool) (word : CodePoints)

/-- Whether a character is there and in the set. -/
def isIn (set : CodePoints) (c : Option Char) : Bool := c.any fun c ↦ set.contains c.toNat

/-- Whether an assertion holds between two characters, either of which may be missing. -/
def Assertion.holds (before after : Option Char) : Assertion → Bool
  | textStart => before.isNone
  | textEnd => after.isNone
  | lineStart false => before.all (· = '\n')
  | lineEnd false => after.all (· = '\n')
  | lineStart true => before.all fun c ↦ c = '\n' || (c = '\r' && after ≠ some '\n')
  | lineEnd true => after.all fun c ↦ c = '\r' || (c = '\n' && before ≠ some '\r')
  | wordBoundary differ word => (isIn word before != isIn word after) == differ
  | wordStart half word => !isIn word before && (half || isIn word after)
  | wordEnd half word => (half || isIn word before) && !isIn word after

/-- A regular expression. -/
inductive Expr where
  | empty
  | chars (set : CodePoints)
  | assertion (assertion : Assertion)
  | concat (first second : Expr)
  | alternate (first second : Expr)
  | repeated (body : Expr) (least : Nat) (most : Option Nat)
deriving Inhabited

/-- A set of positions of a text. -/
abbrev Positions := List Bool

/-- The characters before and after each position of a text. -/
def contexts (text : List Char) : List (Option Char × Option Char) :=
  List.zip (none :: text.map some) (text.map some ++ [none])

namespace Positions

/-- The positions in either set. -/
def union (a b : Positions) : Positions := List.zipWith (· || ·) a b

/-- Adds the positions that `step` reaches, at most `times` times or until nothing is new. -/
def grow (step : Positions → Positions) : Nat → Positions → Positions
  | 0, reached => reached
  | times + 1, reached =>
    let more := union reached (step reached)
    if more = reached then reached else grow step times more

/-- Applies `step` so many times, or until no position is left. -/
def iterate (step : Positions → Positions) : Nat → Positions → Positions
  | 0, reached => reached
  | times + 1, reached => if reached.any id then iterate step times (step reached) else reached

end Positions

/-- The positions where a match may end that starts at one of the given positions. -/
def Expr.advance (text : List Char) : Expr → Positions → Positions
  | empty, here => here
  | chars set, here => false :: List.zipWith (fun flag c ↦ flag && set.contains c.toNat) here text
  | assertion claim, here =>
    List.zipWith (fun flag sides ↦ flag && claim.holds sides.1 sides.2) here (contexts text)
  | concat first second, here => advance text second (advance text first here)
  | alternate first second, here => (advance text first here).union (advance text second here)
  | repeated body least most, here =>
    let reached := Positions.iterate (advance text body) least here
    match most with
    | none => Positions.grow (advance text body) (text.length + 1) reached
    | some most => Positions.grow (advance text body) (most - least) reached

/-- Whether a match occurs anywhere in a text. -/
def Expr.occursIn (expr : Expr) (text : List Char) : Bool :=
  (expr.advance text (List.replicate (text.length + 1) true)).any id

end DocTree.Pattern
