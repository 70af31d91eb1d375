/-!
# Commands

A command names a document, says what to do with it, and says where the result goes and in which
form. It is written as a list of arguments (`Command.parse`).
-/

set_option autoImplicit false
set_option relaxedAutoImplicit false

namespace DocTree

/-- What is done with a document. -/
inductive Action where
  /-- Prints every value that a selector reaches. -/
  | get (selector : String)
  /-- Writes a value at every position that a selector reaches. -/
  | set (selector value : String)
  /-- Adds a value to every array that a selector reaches. -/
  | append (selector value : String)
  /-- Writes a key of every object that a selector reaches. -/
  | put (selector key value : String)
  /-- Prints the elements of the document that a query chooses. -/
  | query (query : String)
deriving DecidableEq, Inhabited

namespace Action

/-- The number of values that the action with a name takes. -/
def valueCount? : String → Option Nat
  | "get" => some 1
  | "set" => some 2
  | "append" => some 2
  | "put" => some 3
  | "query" => some 1
  | _ => none

/-- The action with a name and its values. -/
def ofValues? : String → List String → Option Action
  | "get", [selector] => some (.get selector)
  | "set", [selector, value] => some (.set selector value)
  | "append", [selector, value] => some (.append selector value)
  | "put", [selector, key, value] => some (.put selector key value)
  | "query", [text] => some (.query text)
  | _, _ => none

end Action

/-- An action on a document. The document comes from standard input if its file is called `-`. A
document that has been changed goes to standard output, to another file or back to its own. -/
structure Command where
  file : String
  format : Option String
  indent : Option Nat
  output : Option String
  inPlace : Bool
  action : Action
deriving DecidableEq, Inhabited

/-- Whether the document of a command comes from standard input. -/
def Command.readsInput (command : Command) : Bool := command.file = "-"

end DocTree
