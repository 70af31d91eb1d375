import DocTree.Query.Error
import DocTree.Query.Syntax

/-!
# Selectors

A selector is a list of filters, one for each step down a document. A literal key or index takes one
step whether or not there is anything to find, and a query or a range takes one step for each match.
-/

set_option autoImplicit false
set_option relaxedAutoImplicit false

namespace DocTree

/-- One step of a selector. -/
inductive Filter where
  | key (name : String)
  /-- The keys of an object that a query chooses. -/
  | keyQuery (query : Query)
  | index (position : Nat)
  /-- The elements of an array that a query chooses. -/
  | elementQuery (query : Query)
  | range (range : Range)
deriving Inhabited

/-- A list of steps, from the root down. -/
abbrev Selector := List Filter

/-- What is wrong with the form of a component. -/
inductive ComponentFault where
  | openKeyQuery
  | bracketInKey
  | noBrackets
  | indexTooLarge
  | noIndex
deriving DecidableEq, Inhabited

/-- The message for what is wrong with a component. -/
def ComponentFault.message : ComponentFault → String
  | openKeyQuery => "unterminated key selector"
  | bracketInKey => "unexpected bracket in key"
  | noBrackets => "expected '[...]' after key"
  | indexTooLarge => "index out of range"
  | noIndex => "expected index, range or query in brackets"

/-- Why a selector cannot be read or resolved. -/
inductive SelectorError where
  | invalidComponent (component : String) (fault : ComponentFault)
  /-- A query inside a component cannot be read. -/
  | query (component : String) (cause : QueryError)
  /-- A query cannot be run. -/
  | evaluation (cause : QueryError)
deriving DecidableEq, Inhabited

/-- The message for an error. -/
def SelectorError.message : SelectorError → String
  | invalidComponent component fault =>
    "Invalid selector component '" ++ component ++ "': " ++ fault.message
  | query component cause =>
    "Invalid query in selector component '" ++ component ++ "': " ++ cause.message
  | evaluation cause => "Query evaluation failed: " ++ cause.message

end DocTree
