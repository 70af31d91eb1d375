import DocTree.Value

/-!
# The order of entries in written documents

A document is written with the keys of every object in increasing order or in insertion order.
`Value.arrange` puts the entries into the order in which they are written, so that the writers of
each format follow the order they find. Keys are compared by code points.
-/

set_option autoImplicit false
set_option relaxedAutoImplicit false

namespace DocTree

/-- Entries with their keys in increasing order. -/
def Entries.sort {α : Type} (entries : Entries α) : Entries α :=
  List.mergeSort entries fun a b ↦ decide (a.1 ≤ b.1)

namespace Value

mutual

/-- The value with the keys of every object in increasing order. -/
def sortKeys : Value → Value
  | array items => array (sortKeysItems items)
  | object entries => object (Entries.sort (sortKeysEntries entries))
  | value => value

/-- The elements with their keys sorted. -/
def sortKeysItems : List Value → List Value
  | [] => []
  | item :: items => sortKeys item :: sortKeysItems items

/-- The entries, in the order they have, with the keys inside each value sorted. -/
def sortKeysEntries : List (String × Value) → List (String × Value)
  | [] => []
  | (key, value) :: rest => (key, sortKeys value) :: sortKeysEntries rest

end

/-- The value with its entries in the order in which they are written. -/
def arrange (value : Value) (sorted : Bool) : Value := if sorted then value.sortKeys else value

mutual

/-- The first float of a value, in the order of its entries, that is infinite or NaN. -/
def nonFinite? : Value → Option Float
  | float number => if number.isFinite then none else some number
  | array items => nonFiniteItems? items
  | object entries => nonFiniteEntries? entries
  | _ => none

/-- The first such float among elements. -/
def nonFiniteItems? : List Value → Option Float
  | [] => none
  | item :: items => (nonFinite? item).or (nonFiniteItems? items)

/-- The first such float among entries. -/
def nonFiniteEntries? : List (String × Value) → Option Float
  | [] => none
  | (_, value) :: rest => (nonFinite? value).or (nonFiniteEntries? rest)

end

end Value

/-- The name of an infinite float or NaN in messages. -/
def nonFiniteName (number : Float) : String :=
  if number.isNaN then "NaN" else if number < 0 then "-inf" else "inf"

end DocTree
