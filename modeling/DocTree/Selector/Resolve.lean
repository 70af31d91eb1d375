import DocTree.Change
import DocTree.Query.Eval
import DocTree.Selector.Parser

/-!
# Resolving selectors

A selector is resolved against a document by taking its filters one after another. Each filter turns
every record reached so far into the records one step further down, so that with several matches the
earlier filters vary slowest. A filter that meets a value of the wrong kind drops the record. The
records of a resolved selector hold concrete paths, at which a document is then read or written; the
paths are found before the first write.
-/

set_option autoImplicit false
set_option relaxedAutoImplicit false

namespace DocTree

/-- A position that a selector reached. The source is missing when the last literal key or index does
not exist. -/
structure Record where
  path : Path
  source : Option Value

namespace Record

/-- The record of a whole document. -/
def ofRoot (root : Value) : Record := ⟨[], some root⟩

/-- The record one step further down. -/
def child (record : Record) (segment : Segment) (source : Option Value) : Record :=
  ⟨record.path.child segment, source⟩

end Record

namespace Filter

/-- The records for the elements at some positions. -/
def elementsAt (record : Record) (items : List Value) (positions : List Nat) : List Record :=
  positions.map fun position ↦ record.child (.index position) items[position]?

/-- The records for the entries at some positions. -/
def entriesAt (record : Record) (entries : Entries Value) (positions : List Nat) : List Record :=
  positions.filterMap fun position ↦
    entries[position]?.map fun entry ↦ record.child (.key entry.1) (some entry.2)

/-- The records that a filter reaches from one record. -/
def expand (predicate : Option NativePredicate) (filter : Filter) (record : Record) :
    Except SelectorError (List Record) :=
  match filter, record.source with
  | .key name, some (.object entries) =>
    .ok [record.child (.key name) (Entries.get? entries name)]
  | .keyQuery query, some (.object entries) =>
    ((query.positions predicate ((Entries.keys entries).map .string)).mapError .evaluation).map
      (entriesAt record entries)
  | .index position, some (.array items) =>
    .ok [record.child (.index position) items[position]?]
  | .elementQuery query, some (.array items) =>
    ((query.positions predicate items).mapError .evaluation).map (elementsAt record items)
  | .range bounds, some (.array items) =>
    .ok (elementsAt record items (bounds.resolve items.length))
  | _, _ => .ok []

/-- The records that a filter reaches from some records, in their order. -/
def expandAll (predicate : Option NativePredicate) (filter : Filter) :
    List Record → Except SelectorError (List Record)
  | [] => .ok []
  | record :: rest => do
    let reached ← filter.expand predicate record
    return reached ++ (← expandAll predicate filter rest)

end Filter

namespace Selector

/-- The records that a selector reaches from some records. -/
def resolveFrom (predicate : Option NativePredicate) (records : List Record) :
    Selector → Except SelectorError (List Record)
  | [] => .ok records
  | filter :: rest => do
    resolveFrom predicate (← filter.expandAll predicate records) rest

/-- The records that a selector reaches in a document. -/
def resolve (predicate : Option NativePredicate) (root : Value) (selector : Selector) :
    Except SelectorError (List Record) :=
  resolveFrom predicate [.ofRoot root] selector

end Selector

namespace Value

/-- Reads a selector and resolves it against a document. -/
def select (predicate : Option NativePredicate) (root : Value) (selector : String) :
    Except SelectorError (List Record) := do
  (← Selector.parse selector).resolve predicate root

/-- The values that a selector reaches. A selector that cannot be resolved reaches none. -/
def getAll (predicate : Option NativePredicate) (root : Value) (selector : String) : List Value :=
  match root.select predicate selector with
  | .ok records => records.filterMap Record.source
  | .error _ => []

/-- Makes a change at one path after another, and counts those where it could be made. -/
def changeAt (change : Change) : List Path → Nat × Value → Nat × Value
  | [], state => state
  | path :: rest, (written, root) =>
    match root.change? path change with
    | some new => changeAt change rest (written + 1, new)
    | none => changeAt change rest (written, root)

/-- Makes a change at every position that a selector reaches, and counts those where it could be
made. Nothing is written when the selector cannot be resolved. -/
def changeAll (predicate : Option NativePredicate) (root : Value) (selector : String)
    (change : Change) : Nat × Value :=
  match root.select predicate selector with
  | .ok records => changeAt change (records.map Record.path) (0, root)
  | .error _ => (0, root)

/-- The document with a value written at every position that a selector reaches. -/
def setAll (predicate : Option NativePredicate) (root : Value) (selector : String)
    (incoming : Value) : Value :=
  (root.changeAll predicate selector (.replace incoming)).2

end Value

end DocTree
