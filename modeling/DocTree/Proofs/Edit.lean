import DocTree.Proofs.Json.Distinct
import DocTree.Proofs.Selector.Stable
import DocTree.Proofs.Yaml.Conversion

/-!
# Edits

An edit writes at one path or at every position that a selector reaches. A run of edits makes one
after another and meets a document before the first and after each of them (`Edit.run`).

A run that starts from a document with distinct keys meets no others, whatever its edits reach and
whether they can be made (`Edit.distinctKeys_of_mem_run`). Documents that have been read have
distinct keys to begin with, so no key is ever there twice (`distinctKeys_of_read_or_run`).
-/

set_option autoImplicit false
set_option relaxedAutoImplicit false

namespace DocTree

/-- An edit of a document. -/
inductive Edit where
  /-- Writes a value at a path. -/
  | set (path : Path) (incoming : Value)
  /-- Adds an element to the array at a path. -/
  | append (path : Path) (item : Value)
  /-- Writes one key of the object at a path. -/
  | put (path : Path) (key : String) (item : Value)
  /-- Makes a change at every position that a selector reaches. -/
  | all (predicate : Option NativePredicate) (selector : String) (change : Change)

namespace Edit

/-- What an edit writes. -/
def change : Edit → Change
  | set _ incoming => .replace incoming
  | append _ item => .append item
  | put _ key item => .put key item
  | all _ _ change => change

/-- The document after an edit. -/
def perform (root : Value) : Edit → Value
  | set path incoming => root.set path incoming
  | append path item => root.append path item
  | put path key item => root.put path key item
  | all predicate selector change => (root.changeAll predicate selector change).2

/-- The documents of a run of edits, from the one that it starts with to the last one. -/
def run (root : Value) (edits : List Edit) : List Value := edits.scanl perform root

variable {root document : Value} {edit : Edit} {edits : List Edit}

/-- An edit keeps keys distinct. -/
theorem distinctKeys_perform (hroot : root.DistinctKeys) (hedit : edit.change.DistinctKeys) :
    (perform root edit).DistinctKeys := by
  cases edit with
  | set path incoming => exact Value.distinctKeys_change hroot hedit path
  | append path item => exact Value.distinctKeys_change hroot hedit path
  | put path key item => exact Value.distinctKeys_change hroot hedit path
  | all predicate selector change =>
    exact Value.distinctKeys_changeAll hroot hedit predicate selector

/-- Every document of a run has distinct keys if the first one and all written values have. -/
theorem distinctKeys_of_mem_run (hroot : root.DistinctKeys)
    (hedits : ∀ edit ∈ edits, edit.change.DistinctKeys) (hmem : document ∈ run root edits) :
    document.DistinctKeys := by
  induction edits generalizing root with
  | nil =>
    obtain rfl := List.mem_singleton.mp hmem
    exact hroot
  | cons edit edits ih =>
    obtain ⟨hfirst, hrest⟩ := List.forall_mem_cons.mp hedits
    rw [run, List.scanl_cons, List.mem_cons] at hmem
    rcases hmem with rfl | hmem
    · exact hroot
    · exact ih (distinctKeys_perform hroot hfirst) hrest hmem

end Edit

/-- No object of a document ever holds a key twice, at any depth. What is read from JSON, from JSON
Lines or from a YAML node has distinct keys, whatever keys are repeated there, and so has every
document of a run of edits that starts from such a document and writes such values. -/
theorem distinctKeys_of_read_or_run :
    (∀ text value, parseJson text = .ok value → value.DistinctKeys) ∧
      (∀ text value, parseJsonLines text = .ok value → value.DistinctKeys) ∧
        (∀ node : Yaml.Node, node.toValue.DistinctKeys) ∧
          ∀ (root : Value) (edits : List Edit), root.DistinctKeys →
            (∀ edit ∈ edits, edit.change.DistinctKeys) →
              ∀ document ∈ Edit.run root edits, document.DistinctKeys :=
  ⟨fun _ _ ↦ distinctKeys_of_parseJson, fun _ _ ↦ distinctKeys_of_parseJsonLines,
    Yaml.Node.distinctKeys_toValue,
    fun _ _ hroot hedits _ ↦ Edit.distinctKeys_of_mem_run hroot hedits⟩

/-- A document that repeats keys at two depths. -/
def repeatedText : String :=
  "\x7b\"a\": 1, \"b\": [\x7b\"c\": 1, \"c\": 2\x7d], \"a\": 3\x7d"

/-- Edits that write the keys of the document again, and new ones. -/
def repeatedEdits : List Edit :=
  [.set [] (.object [("a", .null), ("d", .int 4)]),
    .all none "b[..]" (.put "c" (.object [("c", .int 5)])),
    .append [.key "b"] (.object []), .put [.key "b", .index 1] "c" .null]

/-- The edits of what is read from the text meet no key twice. -/
theorem distinctKeys_of_read_or_run_repeated :
    (∀ edit ∈ repeatedEdits, edit.change.DistinctKeys) ∧
      (∃ rows, parseJsonLines repeatedText = .ok rows ∧ rows.DistinctKeys) ∧
        ∃ root, parseJson repeatedText = .ok root ∧ root.DistinctKeys ∧
          ∀ document ∈ Edit.run root repeatedEdits, document.DistinctKeys := by
  obtain ⟨hjson, hlines, -, hrun⟩ := distinctKeys_of_read_or_run
  have hedits : ∀ edit ∈ repeatedEdits, edit.change.DistinctKeys := by
    simp [repeatedEdits, Edit.change, Change.DistinctKeys, Value.DistinctKeys,
      Value.DistinctKeysEntries]
  have hroot : (parseJson repeatedText).toOption.isSome = true := by decide +kernel
  have hrows : (parseJsonLines repeatedText).toOption.isSome = true := by decide +kernel
  simp only [Option.isSome_iff_exists, Except.toOption_eq_some_iff] at hroot hrows
  obtain ⟨root, hroot⟩ := hroot
  obtain ⟨rows, hrows⟩ := hrows
  exact ⟨hedits, ⟨rows, hrows, hlines _ rows hrows⟩, root, hroot, hjson _ root hroot,
    hrun root repeatedEdits (hjson _ root hroot) hedits⟩

end DocTree
