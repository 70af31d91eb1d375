/-!
# YAML documents as they are written

A form is a node of a document as it is written: its scalars are texts still, its tags are not
interpreted, and its aliases refer to the numbers of anchors.
-/

set_option autoImplicit false
set_option relaxedAutoImplicit false

namespace DocTree.Yaml

/-- A node of a document as it is written. A scalar that is not `plain` is quoted or a block
scalar. -/
inductive Form where
  | reference (anchor : Nat)
  | scalar (tag : Option (List Char)) (text : List Char) (plain : Bool)
  | sequence (tag : Option (List Char)) (items : List Form)
  | mapping (tag : Option (List Char)) (pairs : List (Form × Form))
deriving Inhabited

namespace Form

/-- The scalar that stands where nothing is written. -/
def empty : Form := .scalar none [] true

mutual

/-- The size of a form: one for a scalar or a reference, and two for a collection besides its content. -/
def size : Form → Nat
  | reference _ => 1
  | scalar _ _ _ => 1
  | sequence _ items => sizeItems items + 2
  | mapping _ pairs => sizePairs pairs + 2

/-- The size of the elements of a sequence. -/
def sizeItems : List Form → Nat
  | [] => 0
  | item :: items => size item + sizeItems items

/-- The size of the pairs of a mapping. -/
def sizePairs : List (Form × Form) → Nat
  | [] => 0
  | (key, value) :: rest => size key + size value + sizePairs rest

end

end Form

/-- A document: its form, and the form to which each anchor refers. -/
structure Source where
  root : Form
  targets : List (Nat × Form)
deriving Inhabited

/-- The form to which an anchor refers. -/
def Source.target? (source : Source) (anchor : Nat) : Option Form :=
  (source.targets.find? fun target ↦ target.1 = anchor).map (·.2)

end DocTree.Yaml
