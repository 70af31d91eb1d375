/-!
# What can be wrong with a query

Each cause has one message. Positions count characters from the start of the query.
-/

set_option autoImplicit false
set_option relaxedAutoImplicit false

namespace DocTree

/-- What is wrong with a condition. -/
inductive ConditionFault where
  | noCandidate
  | noProperty
  | noComparison
  | noValue
  /-- A native query without its closing brace. -/
  | notClosed
deriving DecidableEq, Inhabited

/-- The message for what is wrong with a condition. -/
def ConditionFault.message : ConditionFault → String
  | noCandidate => "expected '@'"
  | noProperty => "expected property name after '@.'"
  | noComparison => "expected comparison operator"
  | noValue => "missing value"
  | notClosed => "missing closing '\x7d'"

/-- Why a query cannot be read or run. -/
inductive QueryError where
  /-- The query, or a group in it, has nothing to compare. -/
  | emptyExpression
  /-- A parenthesis without its partner. -/
  | unmatchedParenthesis (position : Nat)
  | invalidCondition (condition : String) (fault : ConditionFault)
  | invalidRegex (pattern : String)
  | invalidRange (range : String)
  | nestingTooDeep (limit : Nat)
  /-- A native query without a predicate to run it. -/
  | predicateUnavailable (predicate : String)
  /-- The predicate refused a candidate. -/
  | predicateFailed (reason : String)
deriving DecidableEq, Inhabited

/-- The message for an error. -/
def QueryError.message : QueryError → String
  | emptyExpression => "Empty query expression"
  | unmatchedParenthesis position => "Unmatched parenthesis at position " ++ position.repr
  | invalidCondition condition fault =>
    "Invalid condition '" ++ condition ++ "': " ++ fault.message
  | invalidRegex pattern => "Invalid regex '" ++ pattern ++ "'"
  | invalidRange range => "Invalid range '" ++ range ++ "'"
  | nestingTooDeep limit => "Query groups nested deeper than " ++ limit.repr
  | predicateUnavailable predicate =>
    "No native predicate evaluator configured for '" ++ predicate ++ "'"
  | predicateFailed reason => "Native predicate failed: " ++ reason

end DocTree
