import DocTree.Decimal.Nearest
import DocTree.Pattern.Parser

/-!
# Queries

A query chooses some of a list of candidates: the elements of an array, or the keys of an object. A
filter compares candidates, a range chooses positions, and a native query is a text that only a
predicate supplied by the caller understands.
-/

set_option autoImplicit false
set_option relaxedAutoImplicit false

namespace DocTree

/-- How a condition compares a candidate with the expected value. -/
inductive Comparison where
  | equal
  | notEqual
  | greater
  | greaterOrEqual
  | less
  | lessOrEqual
  /-- A regular expression has a match in the candidate. -/
  | matching
deriving DecidableEq, Inhabited

/-- The sign of a comparison. -/
def Comparison.sign : Comparison → List Char
  | equal => ['=']
  | notEqual => ['!', '=']
  | greater => ['>']
  | greaterOrEqual => ['>', '=']
  | less => ['<']
  | lessOrEqual => ['<', '=']
  | matching => ['=', '~']

/-- How the verdicts of a group's children are combined. -/
inductive Connective where
  | all
  | any
deriving DecidableEq, Inhabited

/-- The sign of a connective. -/
def Connective.sign : Connective → Char
  | all => '&'
  | any => '|'

/-- What the right side of a condition denotes. -/
inductive Literal where
  | number (number : Float)
  | bool (flag : Bool)
  | text (text : String)
deriving BEq, Inhabited

/-- What the text on the right side of a condition denotes: a number if it reads as one, else `true`
or `false` in any case, else itself. -/
def Literal.ofText (text : List Char) : Literal :=
  match Decimal.floatOfText? text with
  | some value => number value
  | none =>
    let word := String.ofList (text.map Char.toLower)
    if word = "true" then bool true
    else if word = "false" then bool false
    else .text (String.ofList text)

/-- The right side of a condition. The raw text stays beside what it denotes, because strings are
compared with what was written. A condition that looks for a match holds the regular expression. -/
structure Expected where
  literal : Literal
  raw : String
  pattern : Option Pattern
deriving BEq, Inhabited

/-- A comparison of a candidate, or of one of its properties, with an expected value. -/
structure Condition where
  property : Option String
  comparison : Comparison
  expected : Expected
deriving BEq, Inhabited

/-- Bounds of a range of positions, either of which may be missing. -/
structure Range where
  start : Option Int64
  stop : Option Int64
deriving DecidableEq, Inhabited

/-- The range of one position. -/
def Range.single (position : Int64) : Range := ⟨some position, some position⟩

/-- A filter or a range. -/
inductive Node where
  | condition (condition : Condition)
  | group (children : List Node) (connective : Connective)
  | range (range : Range)
deriving Inhabited

/-- A query. -/
inductive Query where
  | node (node : Node)
  /-- A text for the predicate that the caller supplies. -/
  | native (predicate : String)
deriving Inhabited

mutual

/-- Whether two nodes are equal. A literal that is NaN equals none. -/
def Node.same : Node → Node → Bool
  | .condition a, .condition b => a == b
  | .group children connective, .group others other =>
    connective == other && Node.sameList children others
  | .range a, .range b => a == b
  | _, _ => false

/-- Whether two lists of nodes are equal. -/
def Node.sameList : List Node → List Node → Bool
  | [], [] => true
  | node :: nodes, other :: others => Node.same node other && Node.sameList nodes others
  | _, _ => false

end

instance : BEq Node := ⟨Node.same⟩

/-- Whether two queries are equal. -/
def Query.same : Query → Query → Bool
  | .node a, .node b => a == b
  | .native a, .native b => a == b
  | _, _ => false

instance : BEq Query := ⟨Query.same⟩

end DocTree
