import DocTree.Decimal.Nearest
import DocTree.Yaml.Node

/-!
# What plain scalars stand for

A plain scalar is null, a boolean, an integer, a float or a string, whichever its text fits first.
Integers may be written in base sixteen, eight or two, and have no leading zeros. An integer of at
most 128 bits that is no node is refused; a longer one is read as a float.

A scalar can also have a tag that says what it stands for, and its text must then fit.
-/

set_option autoImplicit false
set_option relaxedAutoImplicit false

namespace DocTree.Yaml

/-- Whether a scalar stands for nothing. -/
def isNullWord (text : List Char) : Bool :=
  ["null", "Null", "NULL", "~"].contains (String.ofList text)

/-- The boolean that a scalar stands for. -/
def boolWord? (text : List Char) : Option Bool :=
  let word := String.ofList text
  if ["true", "True", "TRUE"].contains word then some true
  else if ["false", "False", "FALSE"].contains word then some false
  else none

/-! ### Numbers -/

/-- The text without a sign in front. -/
def unsigned : List Char → List Char
  | '-' :: rest => rest
  | '+' :: rest => rest
  | text => text

/-- Whether a text is a run of several digits that starts with a zero, with or without a sign. -/
def hasLeadingZero (text : List Char) : Bool :=
  match unsigned text with
  | '0' :: digits => !digits.isEmpty && digits.all Char.isDigit
  | _ => false

/-- The value of a character as a digit. -/
def digitValue (c : Char) : Nat :=
  if c.isDigit then c.toNat - '0'.toNat
  else if 'a' ≤ c && c ≤ 'z' then c.toNat - 'a'.toNat + 10
  else if 'A' ≤ c && c ≤ 'Z' then c.toNat - 'A'.toNat + 10
  else 36

/-- The number that digits of a base write. -/
def ofDigits? (base : Nat) (digits : List Char) : Option Nat :=
  if !digits.isEmpty && digits.all (digitValue · < base) then
    some (digits.foldl (fun number c ↦ base * number + digitValue c) 0)
  else none

/-- The magnitude of an integer without a sign. -/
def magnitude? (text : List Char) : Option Nat :=
  match text with
  | '0' :: 'x' :: digits => ofDigits? 16 digits
  | '0' :: 'o' :: digits => ofDigits? 8 digits
  | '0' :: 'b' :: digits => ofDigits? 2 digits
  | _ => if hasLeadingZero text then none else ofDigits? 10 text

/-- The integer of at most 128 bits that a text writes. -/
def integer? (text : List Char) : Option Int :=
  match text with
  | '-' :: rest => (magnitude? rest).bind fun n ↦
      if n ≤ Nat.pow 2 127 then some (-(n : Int)) else none
  | _ =>
    let rest :=
      match text with
      | '+' :: rest => rest
      | _ => text
    (magnitude? rest).bind fun n ↦ if n < Nat.pow 2 128 then some (n : Int) else none

/-- The node of an integer, which must be at least `-2 ^ 63` and below `2 ^ 64`. -/
def Node.ofInteger? (number : Int) : Option Node :=
  if Int64.minValue.toInt ≤ number && number < Nat.pow 2 64 then some (.int number) else none

/-- The float that a text writes: infinity or NaN after a point, or a decimal number that is not too
large. -/
def floatWord? (text : List Char) : Option Float :=
  let word := String.ofList text
  if [".inf", ".Inf", ".INF", "+.inf", "+.Inf", "+.INF"].contains word then some (1.0 / 0.0)
  else if ["-.inf", "-.Inf", "-.INF"].contains word then some (-1.0 / 0.0)
  else if [".nan", ".NaN", ".NAN"].contains word then some (0.0 / 0.0)
  else (Decimal.floatOfText? text).filter (·.isFinite)

/-! ### Scalars -/

/-- What a plain scalar without a tag stands for. -/
def Node.ofPlain? (text : List Char) : Option Node :=
  if text.isEmpty || isNullWord text then some .null
  else
    match boolWord? text with
    | some flag => some (.bool flag)
    | none =>
      match integer? text with
      | some number => Node.ofInteger? number
      | none =>
        if hasLeadingZero text then some (.string (.ofList text))
        else
          match floatWord? text with
          | some number => some (.float number)
          | none => some (.string (.ofList text))

/-- What a scalar without a tag stands for. -/
def Node.ofUntagged? (text : List Char) (plain : Bool) : Option Node :=
  if plain then Node.ofPlain? text else some (.string (.ofList text))

/-- The name of a tag that is local to its document: what follows its exclamation mark, less a
second one. -/
def localTag (name : List Char) : String :=
  match name with
  | '!' :: c :: rest => .ofList (c :: rest)
  | _ => .ofList name

/-- What a node with a tag stands for: a local tag stays with the node, which must not be the lone
exclamation mark, and every other tag is dropped. -/
def Node.withTag? (tag : Option (List Char)) (node : Node) : Option Node :=
  match tag with
  | some ['!'] => none
  | some ('!' :: name) => some (.tagged (localTag name) node)
  | _ => some node

/-- What a scalar stands for. -/
def Node.ofScalar? (tag : Option (List Char)) (text : List Char) (plain : Bool) : Option Node :=
  match tag with
  | none => Node.ofUntagged? text plain
  | some ('!' :: _) => (Node.ofUntagged? text plain).bind (Node.withTag? tag)
  | some name =>
    match String.ofList name with
    | "tag:yaml.org,2002:bool" => (boolWord? text).map .bool
    | "tag:yaml.org,2002:int" => (integer? text).bind Node.ofInteger?
    | "tag:yaml.org,2002:float" => (floatWord? text).map .float
    | "tag:yaml.org,2002:null" => if isNullWord text then some .null else none
    | _ => some (.string (.ofList text))

end DocTree.Yaml
