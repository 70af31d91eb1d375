import DocTree.Query.Condition
import DocTree.Query.Range

/-!
# Reading queries

There are three ways to write a query. A filter is written `?(…)`: conditions and groups in
parentheses, with `&` or `|` between each two. A native query is written `?{…}`. Any other text is a
range.

A filter is read in one pass that collects the text of a condition until it meets a connective or the
end of its group; a group in between is read on its own and leaves the collected text as it is. A
group that has both connectives takes the first one for all its children, and one that has none takes
`&`. A group with one child is that child.
-/

set_option autoImplicit false
set_option relaxedAutoImplicit false

namespace DocTree

namespace Query

/-- How deep groups may nest in a filter. -/
def maxGroupDepth : Nat := 64

/-- The position of the parenthesis that closes the innermost of so many open groups, the first of
which was opened just before the text. -/
def closing? (opened : Nat) : List Char → Option Nat
  | [] => none
  | c :: rest =>
    if c = '(' then (closing? (opened + 1) rest).map (· + 1)
    else if c = ')' then
      if opened = 1 then some 0 else (closing? (opened - 1) rest).map (· + 1)
    else (closing? opened rest).map (· + 1)

/-- What a pass over a group has collected: the nodes in order, the first connective, and the text
since the last connective. -/
structure Scan where
  nodes : List Node := []
  connective : Option Connective := none
  text : List Char := []

/-- Turns the collected text into a condition, unless it is blank. -/
def Scan.flush (scan : Scan) : Except QueryError Scan :=
  if (Text.trim scan.text).isEmpty then .ok { scan with text := [] }
  else
    match Condition.parse scan.text with
    | .ok condition => .ok { scan with nodes := scan.nodes ++ [.condition condition], text := [] }
    | .error error => .error error

/-- Ends a condition at a connective. -/
def Scan.connect (scan : Scan) (connective : Connective) : Except QueryError Scan :=
  scan.flush.map fun scan ↦ { scan with connective := scan.connective.or (some connective) }

/-- The node for everything collected. -/
def Scan.node (scan : Scan) : Except QueryError Node :=
  match scan.nodes with
  | [] => .error .emptyExpression
  | [child] => .ok child
  | nodes => .ok (.group nodes (scan.connective.getD .all))

/-- Passes over the text of a group from a position on. The inside of a group in it is read by
`inner`, which is given its position and its text. -/
def scan (inner : Nat → List Char → Except QueryError Node) (position : Nat) (state : Scan) :
    List Char → Except QueryError Scan
  | [] => state.flush
  | c :: rest =>
    if c = '(' then
      match closing? 1 rest with
      | none => .error (.unmatchedParenthesis position)
      | some close =>
        match inner (position + 1) (rest.take close) with
        | .error error => .error error
        | .ok child =>
          scan inner (position + close + 2) { state with nodes := state.nodes ++ [child] }
            (rest.drop (close + 1))
    else if c = ')' then .error (.unmatchedParenthesis position)
    else if c = '&' ∨ c = '|' then
      match state.connect (if c = '&' then .all else .any) with
      | .error error => .error error
      | .ok state => scan inner (position + 1) state rest
    else scan inner (position + 1) { state with text := state.text ++ [c] } rest
termination_by text => text.length
decreasing_by all_goals simp only [List.length_cons, List.length_drop]; omega

/-- Reads the inside of a group that may hold groups `levels - 1` deep. -/
def parseGroup (levels position : Nat) (text : List Char) : Except QueryError Node :=
  match levels with
  | 0 => .error (.nestingTooDeep maxGroupDepth)
  | levels + 1 =>
    match scan (parseGroup levels) position {} text with
    | .ok state => state.node
    | .error error => .error error

/-- The text before its last character, if that character is `last`. -/
def dropLast? (last : Char) (text : List Char) : Option (List Char) :=
  if text.getLast? = some last then some text.dropLast else none

/-- Reads the text of a query. -/
def parseChars (text : List Char) : Except QueryError Query :=
  let text := Text.trim text
  match text with
  | '?' :: '(' :: rest =>
    match dropLast? ')' rest with
    | none => .error (.unmatchedParenthesis 1)
    | some inside => (parseGroup (maxGroupDepth + 1) 2 inside).map .node
  | '?' :: '\x7b' :: rest =>
    match dropLast? '\x7d' rest with
    | none => .error (.invalidCondition (String.ofList text) .notClosed)
    | some inside =>
      let predicate := Text.trim inside
      if predicate.isEmpty then .error .emptyExpression
      else .ok (.native (String.ofList predicate))
  | _ => (Range.parse text).map fun range ↦ .node (.range range)

/-- Reads a query. -/
def parse (text : String) : Except QueryError Query := parseChars text.toList

end Query

end DocTree
