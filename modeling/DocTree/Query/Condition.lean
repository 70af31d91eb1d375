import DocTree.Query.Error
import DocTree.Query.Syntax
import DocTree.Text.Blank

/-!
# Conditions

A condition is written `@ sign value`, to compare the candidate, or `@.property sign value`, to
compare one of its properties. White space around the sign and the value has no meaning. Of two signs
that fit, the longer one counts.
-/

set_option autoImplicit false
set_option relaxedAutoImplicit false

namespace DocTree

namespace Condition

/-- The characters of a property name. -/
def isPropertyChar (c : Char) : Bool := Text.isAlphanumeric c || c = '_' || c = '-'

/-- Reads the sign of a comparison. -/
def comparison? : List Char → Option (Comparison × List Char)
  | '!' :: '=' :: rest => some (.notEqual, rest)
  | '>' :: '=' :: rest => some (.greaterOrEqual, rest)
  | '<' :: '=' :: rest => some (.lessOrEqual, rest)
  | '=' :: '~' :: rest => some (.matching, rest)
  | '=' :: rest => some (.equal, rest)
  | '>' :: rest => some (.greater, rest)
  | '<' :: rest => some (.less, rest)
  | _ => none

/-- The expected value that a text denotes in a comparison. -/
def expectedOf (comparison : Comparison) (raw : List Char) : Except QueryError Expected :=
  let literal := Literal.ofText raw
  let raw := String.ofList raw
  if comparison = .matching then
    match Pattern.compile? raw with
    | some pattern => .ok ⟨literal, raw, some pattern⟩
    | none => .error (.invalidRegex raw)
  else .ok ⟨literal, raw, none⟩

/-- Reads the sign and the value of a condition with the text `source`. -/
def parseComparison (source : List Char) (property : Option String) (text : List Char) :
    Except QueryError Condition :=
  let fault kind := QueryError.invalidCondition (String.ofList source) kind
  match comparison? (Text.trimStart text) with
  | none => .error (fault .noComparison)
  | some (comparison, rest) =>
    let raw := Text.trim rest
    if raw.isEmpty then .error (fault .noValue)
    else (expectedOf comparison raw).map fun expected ↦ ⟨property, comparison, expected⟩

/-- Reads a condition. -/
def parse (text : List Char) : Except QueryError Condition :=
  let source := Text.trim text
  let fault kind := QueryError.invalidCondition (String.ofList source) kind
  match source with
  | '@' :: '.' :: rest =>
    let name := rest.takeWhile isPropertyChar
    if name.isEmpty then .error (fault .noProperty)
    else parseComparison source (some (String.ofList name)) (rest.dropWhile isPropertyChar)
  | '@' :: rest => parseComparison source none rest
  | _ => .error (fault .noCandidate)

/-- A condition as it is written, with one space on each side of the sign. -/
def render (condition : Condition) : List Char :=
  let property :=
    match condition.property with
    | none => []
    | some name => '.' :: name.toList
  '@' :: property ++ ' ' :: condition.comparison.sign ++ ' ' :: condition.expected.raw.toList

end Condition

end DocTree
