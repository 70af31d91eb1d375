import DocTree.Query.Parser
import DocTree.Value

/-!
# Running queries

A query is run over a list of candidates and gives the positions of those it chooses, in increasing
order. A filter tests each candidate on its own. Numbers are compared as floats, and only with
numbers; a string is compared with the raw text of the condition, and only for equality or for a
match; booleans are compared for equality. A condition on a property fails for candidates without
it.
-/

set_option autoImplicit false
set_option relaxedAutoImplicit false

namespace DocTree

/-- A predicate for native queries: it is given the text of the query and a candidate, and answers or
gives a reason for which it cannot. -/
abbrev NativePredicate := String → Value → Except String Bool

/-- Compares two numbers. -/
def Comparison.ofNumbers (comparison : Comparison) (actual wanted : Float) : Bool :=
  match comparison with
  | equal => actual == wanted
  | notEqual => actual != wanted
  | greater => wanted < actual
  | greaterOrEqual => wanted ≤ actual
  | less => actual < wanted
  | lessOrEqual => actual ≤ wanted
  | matching => false

/-- Compares two things that are equal or not and have no order. -/
def Comparison.ofEquality (comparison : Comparison) (equals : Bool) : Bool :=
  match comparison with
  | equal => equals
  | notEqual => !equals
  | _ => false

/-- Whether a value compares with an expected value as the sign says. -/
def Comparison.holds (comparison : Comparison) (actual : Value) (expected : Expected) : Bool :=
  if comparison = .matching then
    match actual, expected.pattern with
    | .string text, some pattern => pattern.matchesIn text
    | _, _ => false
  else
    match actual, expected.literal with
    | .int number, .number wanted => comparison.ofNumbers number.toFloat wanted
    | .float number, .number wanted => comparison.ofNumbers number wanted
    | .string text, _ => comparison.ofEquality (text = expected.raw)
    | .bool flag, .bool wanted => comparison.ofEquality (flag = wanted)
    | _, _ => false

/-- Whether a candidate satisfies a condition. -/
def Condition.holds (condition : Condition) (candidate : Value) : Bool :=
  match condition.property with
  | none => condition.comparison.holds candidate condition.expected
  | some property =>
    match candidate.atKey? property with
    | some actual => condition.comparison.holds actual condition.expected
    | none => false

/-- Combines the verdicts of a group's children, first to last. -/
def Connective.combine (connective : Connective) : List Bool → Bool
  | [] => false
  | first :: rest =>
    match connective with
    | all => rest.foldl (· && ·) first
    | any => rest.foldl (· || ·) first

mutual

/-- Whether a candidate satisfies a node. A range tests no candidates. -/
def Node.holds (candidate : Value) : Node → Bool
  | .condition test => test.holds candidate
  | .group children connective => connective.combine (Node.verdicts candidate children)
  | .range _ => false

/-- The verdict of each node. -/
def Node.verdicts (candidate : Value) : List Node → List Bool
  | [] => []
  | node :: nodes => Node.holds candidate node :: Node.verdicts candidate nodes

end

namespace Query

/-- The positions, counted from `position`, of the candidates that a predicate accepts. The first
candidate that it refuses ends the run. -/
def nativePositions (accepts : Value → Except String Bool) (position : Nat) :
    List Value → Except QueryError (List Nat)
  | [] => .ok []
  | candidate :: rest =>
    match accepts candidate with
    | .error reason => .error (.predicateFailed reason)
    | .ok verdict =>
      (nativePositions accepts (position + 1) rest).map fun positions ↦
        if verdict then position :: positions else positions

/-- The positions, counted from `position`, of the candidates that pass a test. -/
def positionsWhere (test : Value → Bool) (position : Nat) : List Value → List Nat
  | [] => []
  | candidate :: rest =>
    let positions := positionsWhere test (position + 1) rest
    if test candidate then position :: positions else positions

/-- The positions of the candidates that a query chooses. -/
def positions (predicate : Option NativePredicate) (candidates : List Value) :
    Query → Except QueryError (List Nat)
  | .node (.range range) => .ok (range.resolve candidates.length)
  | .node filter => .ok (positionsWhere filter.holds 0 candidates)
  | .native text =>
    match predicate with
    | none => .error (.predicateUnavailable text)
    | some accepts => nativePositions (accepts text) 0 candidates

/-- The candidates that a query chose, with their positions. -/
structure Found where
  positions : List Nat
  values : List Value

/-- Reads a query and runs it. -/
def run (predicate : Option NativePredicate) (candidates : List Value) (query : String) :
    Except QueryError Found := do
  let positions ← (← parse query).positions predicate candidates
  return ⟨positions, positions.filterMap (candidates[·]?)⟩

end Query

end DocTree
