import DocTree.Path
import DocTree.Value

/-!
# Reading and writing at a path

`Value.get?` reads the value at a path and `Value.change?` writes there. A path resolves when every
segment finds a container of its kind and a child in it. A write that cannot be made, because the
path does not resolve or the target is of the wrong kind, gives `none`; `Value.change` then leaves
the document as it was. Only a replacement may add to an object: when the path resolves but for its
last key, the key is inserted.
-/

set_option autoImplicit false
set_option relaxedAutoImplicit false

namespace DocTree

/-- A write at one position. -/
inductive Change where
  /-- Merges the value into the target, see `Value.merge`. -/
  | replace (incoming : Value)
  /-- Adds an element to the end of the target, an array. -/
  | append (item : Value)
  /-- Writes one key of the target, an object. -/
  | put (key : String) (item : Value)

namespace Value

/-- The value at a path. -/
def get? : Value → Path → Option Value
  | value, [] => some value
  | value, .key name :: rest =>
    match value.atKey? name with
    | some next => get? next rest
    | none => none
  | value, .index position :: rest =>
    match value.atIndex? position with
    | some next => get? next rest
    | none => none

/-- What writing `incoming` over a value leaves there: arrays are joined, objects are merged with
the incoming entries winning, and anything else is replaced. -/
def merge : Value → Value → Value
  | array items, array incoming => array (items ++ incoming)
  | object entries, object incoming => object (Entries.insertAll entries incoming)
  | _, incoming => incoming

end Value

namespace Change

/-- The value a change makes of its target, if the target is of the right kind. -/
def outcome? : Change → Value → Option Value
  | replace incoming, target => some (target.merge incoming)
  | append item, .array items => some (.array (items ++ [item]))
  | put key item, .object entries => some (.object (Entries.insert entries key item))
  | _, _ => none

/-- The value a change gives to an object key that does not exist yet. -/
def fresh? : Change → Option Value
  | replace incoming => some incoming
  | _ => none

end Change

namespace Value

/-- Changes the value at a path by `step`, and gives `none` when that is not possible. A last
key that its object lacks is inserted with the value `fresh`, if there is one. -/
def update? (step : Value → Option Value) (fresh : Option Value) : Path → Value → Option Value
  | [], target => step target
  | .key name :: rest, object entries =>
    match Entries.get? entries name with
    | some next =>
      (update? step fresh rest next).map fun new ↦ object (Entries.insert entries name new)
    | none =>
      if rest.isEmpty then fresh.map fun new ↦ object (Entries.insert entries name new) else none
  | .index position :: rest, array items =>
    match items[position]? with
    | some next => (update? step fresh rest next).map fun new ↦ array (items.set position new)
    | none => none
  | _, _ => none

/-- Changes the value at a path that resolves. -/
def modify? (root : Value) (path : Path) (step : Value → Option Value) : Option Value :=
  update? step none path root

/-- The document after a write, or `none` when the write cannot be made. -/
def change? (root : Value) (path : Path) (change : Change) : Option Value :=
  update? change.outcome? change.fresh? path root

/-- The document after a write; a write that cannot be made changes nothing. -/
def change (root : Value) (path : Path) (change : Change) : Value :=
  (root.change? path change).getD root

/-- The document with `incoming` written at a path. -/
def set (root : Value) (path : Path) (incoming : Value) : Value :=
  root.change path (.replace incoming)

/-- The document with one element added to the array at a path. -/
def append (root : Value) (path : Path) (item : Value) : Value :=
  root.change path (.append item)

/-- The document with one key written in the object at a path. -/
def put (root : Value) (path : Path) (key : String) (item : Value) : Value :=
  root.change path (.put key item)

end Value

end DocTree
