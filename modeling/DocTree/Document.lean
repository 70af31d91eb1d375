import DocTree.Selector.Resolve

/-!
# Documents with accessors

A document is a tree together with the predicate for its native queries, if there is one. An accessor
is a text that names positions: after a dollar sign it is a selector, and without one it is a single
key of the root.
-/

set_option autoImplicit false
set_option relaxedAutoImplicit false

namespace DocTree

/-- A tree and the predicate for its native queries. -/
structure Document where
  root : Value
  predicate : Option NativePredicate := none

namespace Document

/-- The values that an accessor names. -/
def read (document : Document) (accessor : String) : List Value :=
  match accessor.toList with
  | '$' :: selector => document.root.getAll document.predicate (String.ofList selector)
  | _ => (document.root.atKey? accessor).toList

/-- Writes a value at every position that an accessor names, and counts the writes. -/
def write (document : Document) (accessor : String) (incoming : Value) : Nat × Document :=
  match accessor.toList with
  | '$' :: selector =>
    let (written, root) :=
      document.root.changeAll document.predicate (String.ofList selector) (.replace incoming)
    (written, { document with root })
  | _ =>
    match document.root.change? [.key accessor] (.replace incoming) with
    | some root => (1, { document with root })
    | none => (0, document)

end Document

end DocTree
