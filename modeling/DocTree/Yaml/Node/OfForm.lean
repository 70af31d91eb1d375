import DocTree.Yaml.Form
import DocTree.Yaml.Scalar

/-!
# From the form of a YAML document to its node

Aliases are replaced by the nodes to which they refer. A document is refused when collections nest
more than 128 deep, which also bounds a node that contains an alias to itself, when there are more
than 100 replacements for every part of the document, and when a mapping has two keys that are the
same.
-/

set_option autoImplicit false
set_option relaxedAutoImplicit false

namespace DocTree.Yaml

/-- A step that may fail and counts replaced aliases. -/
abbrev Expansion (α : Type) := StateT Nat Option α

namespace Node

/-- Reads the pairs of a mapping after `done`, last one first. -/
def pairsWith (child : Form → Expansion Node) :
    List (Node × Node) → List (Form × Form) → Expansion (List (Node × Node))
  | done, [] => return done.reverse
  | done, (key, value) :: rest => do
    let key ← child key
    if done.any fun pair ↦ same pair.1 key then failure
    else
      let value ← child value
      pairsWith child ((key, value) :: done) rest

/-- The node of a form that is no alias. Its children, if it may have any, are read by `child?`. -/
def ofContent (child? : Option (Form → Expansion Node)) : Form → Expansion Node
  | .reference _ => failure
  | .scalar tag text plain => StateT.lift (ofScalar? tag text plain)
  | .sequence tag items => do
    let child ← StateT.lift child?
    let items ← items.mapM child
    StateT.lift (withTag? tag (sequence items))
  | .mapping tag pairs => do
    let child ← StateT.lift child?
    let pairs ← pairsWith child [] pairs
    StateT.lift (withTag? tag (mapping pairs))

/-- The node of a form. -/
def ofFormWith (source : Source) (child? : Option (Form → Expansion Node)) (form : Form) :
    Expansion Node := do
  match form with
  | .reference anchor =>
    let replaced ← get
    if 100 * source.root.size ≤ replaced then failure
    else
      set (replaced + 1)
      let target ← StateT.lift (source.target? anchor)
      ofContent child? target
  | _ => ofContent child? form

/-- The node of a form with collections at most `depth` deep. -/
def ofForm (source : Source) (depth : Nat) : Form → Expansion Node :=
  match depth with
  | 0 => ofFormWith source none
  | depth + 1 => ofFormWith source (some (ofForm source depth))

/-- How deep collections may nest. -/
def maxDepth : Nat := 128

/-- The node of a document. -/
def ofSource? (source : Source) : Option Node :=
  ((ofForm source maxDepth source.root).run 0).map (·.1)

end Node

end DocTree.Yaml
