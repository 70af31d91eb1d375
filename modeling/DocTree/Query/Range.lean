import DocTree.Query.Error
import DocTree.Query.Syntax
import DocTree.Text.Blank

/-!
# Ranges

A range is written `a..b`, `..b`, `a..` or `..`, or as a single position `n`. Both bounds of `a..b`
are positions and belong to the range. A lone end counts: `..b` are the first `b` positions, and
`..-b` the last `b`. `Range.resolve` gives the positions of a range in a list, in increasing order.
-/

set_option autoImplicit false
set_option relaxedAutoImplicit false

namespace DocTree

/-- An integer in the range of `Int64`, with an optional sign. -/
def int64OfText? (text : List Char) : Option Int64 :=
  match Decimal.signedInt? text with
  | none => none
  | some number =>
    if Int64.minValue.toInt ≤ number ∧ number ≤ Int64.maxValue.toInt then
      some (Int64.ofInt number)
    else none

namespace Range

/-- The pieces of a text between the pairs of points in it. -/
def splitAtDots : List Char → List (List Char)
  | [] => [[]]
  | '.' :: '.' :: rest => [] :: splitAtDots rest
  | c :: rest =>
    match splitAtDots rest with
    | [] => [[c]]
    | piece :: pieces => (c :: piece) :: pieces

/-- Whether a text holds two points in a row. -/
def hasDots : List Char → Bool
  | [] => false
  | '.' :: '.' :: _ => true
  | _ :: rest => hasDots rest

/-- A bound: nothing, or an integer. -/
def bound? (text : List Char) : Option (Option Int64) :=
  let text := Text.trim text
  if text.isEmpty then some none else (int64OfText? text).map some

/-- Reads a range. -/
def parse (text : List Char) : Except QueryError Range :=
  let text := Text.trim text
  let invalid := QueryError.invalidRange (String.ofList text)
  if text.isEmpty then .error .emptyExpression
  else if hasDots text then
    match splitAtDots text with
    | [start, stop] =>
      match bound? start, bound? stop with
      | some start, some stop => .ok ⟨start, stop⟩
      | _, _ => .error invalid
    | _ => .error invalid
  else
    match int64OfText? text with
    | some position => if position < 0 then .error invalid else .ok (single position)
    | none => .error invalid

/-- The bound that is nearest to a number. -/
def clamp (number low high : Int64) : Int64 :=
  if number < low then low else if high < number then high else number

/-- The first and the last position of a range in a list with `length` elements, at least one. The
range is empty when the first is greater than the last. -/
def interval (range : Range) (length : Int64) : Int64 × Int64 :=
  match range.start, range.stop with
  | some start, some stop => (clamp start 0 length, clamp stop 0 (length - 1))
  | none, some stop =>
    if 0 ≤ stop then (0, (if stop < length then stop else length) - 1)
    else (if length + stop < 0 then 0 else length + stop, length - 1)
  | some start, none => (clamp start 0 length, length - 1)
  | none, none => (0, length - 1)

/-- The positions of a range in a list with `length` elements. -/
def resolve (range : Range) (length : Nat) : List Nat :=
  if length = 0 then []
  else
    let (start, stop) := range.interval (Int64.ofNat length)
    if stop < start then []
    else
      List.range' start.toNatClampNeg (stop.toNatClampNeg + 1 - start.toNatClampNeg)

/-- A bound as it is written. -/
def renderBound : Option Int64 → List Char
  | none => []
  | some bound => bound.toInt.repr.toList

/-- A range as it is written, with both points. -/
def render (range : Range) : List Char :=
  renderBound range.start ++ ['.', '.'] ++ renderBound range.stop

end Range

end DocTree
