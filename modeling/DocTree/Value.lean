import DocTree.Entries

/-!
# Document values

A document is a tree of seven kinds of value. Integers and floats are apart, so that reading `1`
and writing it back does not give `1.0`, and objects keep their entries in insertion order. Two
values are the same when they differ in nothing but the order of object entries (`Value.same`);
numbers of different kinds are never the same, and a float is compared as a float, so that NaN
differs from itself.
-/

set_option autoImplicit false
set_option relaxedAutoImplicit false

namespace DocTree

/-- A document tree. -/
inductive Value where
  | null
  | bool (flag : Bool)
  | int (number : Int64)
  | float (number : Float)
  | string (text : String)
  | array (items : List Value)
  | object (entries : List (String × Value))
deriving Inhabited

/-- The kind of a value, without its content. -/
inductive Kind where
  | null
  | bool
  | int
  | float
  | string
  | array
  | object
deriving DecidableEq, Inhabited

/-- The name of a kind in messages. -/
def Kind.name : Kind → String
  | .null => "null"
  | .bool => "bool"
  | .int => "int"
  | .float => "float"
  | .string => "string"
  | .array => "array"
  | .object => "object"

namespace Value

/-- The kind of a value. -/
def kind : Value → Kind
  | null => .null
  | bool _ => .bool
  | int _ => .int
  | float _ => .float
  | string _ => .string
  | array _ => .array
  | object _ => .object

/-- Arrays and objects hold other values. -/
def isContainer (value : Value) : Bool := value.kind = .array || value.kind = .object

/-- Integers and floats are numbers. -/
def isNumber (value : Value) : Bool := value.kind = .int || value.kind = .float

/-- The flag of a boolean. -/
def bool? : Value → Option Bool
  | bool flag => some flag
  | _ => none

/-- The number of an integer. -/
def int? : Value → Option Int64
  | int number => some number
  | _ => none

/-- The number of an integer or a float, as the nearest float. -/
def number? : Value → Option Float
  | int number => some number.toFloat
  | float number => some number
  | _ => none

/-- The text of a string. -/
def string? : Value → Option String
  | string text => some text
  | _ => none

/-- The elements of an array. -/
def items? : Value → Option (List Value)
  | array items => some items
  | _ => none

/-- The entries of an object. -/
def entries? : Value → Option (Entries Value)
  | object entries => some entries
  | _ => none

/-- The value under `key`, when the value is an object that has it. -/
def atKey? (value : Value) (key : String) : Option Value :=
  value.entries?.bind (·.get? key)

/-- The element at `index`, when the value is an array that long. -/
def atIndex? (value : Value) (index : Nat) : Option Value := value.items?.bind (·[index]?)

/-- The number of direct children; a scalar has none. -/
def size : Value → Nat
  | array items => items.length
  | object entries => entries.length
  | _ => 0

mutual

/-- Whether two values differ in nothing but the order of object entries. -/
def same : Value → Value → Bool
  | null, null => true
  | bool a, bool b => a == b
  | int a, int b => a == b
  | float a, float b => a == b
  | string a, string b => a == b
  | array items, array others => sameItems items others
  | object entries, object others =>
    entries.length == others.length && sameEntries entries others
  | _, _ => false

/-- Whether two lists of values are the same element by element. -/
def sameItems : List Value → List Value → Bool
  | [], [] => true
  | item :: items, other :: others => same item other && sameItems items others
  | _, _ => false

/-- Whether every entry has its like in `others`. -/
def sameEntries : List (String × Value) → Entries Value → Bool
  | [], _ => true
  | (key, value) :: rest, others =>
    (match others.get? key with
      | some other => same value other
      | none => false) && sameEntries rest others

end

instance : BEq Value := ⟨same⟩

mutual

/-- How deep containers nest: a scalar has depth zero. -/
def depth : Value → Nat
  | array items => depthItems items + 1
  | object entries => depthEntries entries + 1
  | _ => 0

/-- The depth of the deepest element. -/
def depthItems : List Value → Nat
  | [] => 0
  | item :: items => max (depth item) (depthItems items)

/-- The depth of the deepest entry. -/
def depthEntries : List (String × Value) → Nat
  | [] => 0
  | (_, value) :: rest => max (depth value) (depthEntries rest)

end

mutual

/-- No object anywhere in the value holds one key twice. -/
def DistinctKeys : Value → Prop
  | array items => DistinctKeysItems items
  | object entries => (Entries.keys entries).Nodup ∧ DistinctKeysEntries entries
  | _ => True

/-- Every element has distinct keys. -/
def DistinctKeysItems : List Value → Prop
  | [] => True
  | item :: items => DistinctKeys item ∧ DistinctKeysItems items

/-- Every entry has a value with distinct keys. -/
def DistinctKeysEntries : List (String × Value) → Prop
  | [] => True
  | (_, value) :: rest => DistinctKeys value ∧ DistinctKeysEntries rest

end

end Value

end DocTree
