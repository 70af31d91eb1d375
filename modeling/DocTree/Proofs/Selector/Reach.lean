import DocTree.Proofs.Selector.Level
import DocTree.Proofs.Selector.Shape

/-!
# What a selector finds

The records of a selector that is read and resolved form a level (`level_of_select`). They are at
exactly the paths that its filters reach one by one, each holds what its path leads to, and only a
last literal key or index may lead to nothing (`mem_select_iff_reaches`). All their paths have one
segment for each filter, none is a prefix of another, and they come in the order of the document
(`select_document_order`).
-/

set_option autoImplicit false
set_option relaxedAutoImplicit false

namespace DocTree

variable {predicate : Option NativePredicate} {root : Value} {text : String}
  {selector : Selector} {records : List Record}

namespace Selector

/-- Whether the last filter of a selector is a literal key or index that the value before it
lacks. -/
def MissesLast (root : Value) (selector : Selector) (path : Path) : Prop :=
  ∃ front segment container, path = front.child segment ∧
    selector.getLast? = some (.ofSegment segment) ∧ root.get? front = some container ∧
      container.child? segment = none

/-- The last segment of a path that a selector reaches was selected from the value before it. -/
theorem Reaches.exists_last {path : Path} (hreaches : selector.Reaches predicate root path)
    (hmissing : root.get? path = none) :
    ∃ front segment container, path = front.child segment ∧
      selector.getLast? = some (.ofSegment segment) ∧ root.get? front = some container ∧
        container.child? segment = none ∧
          (Filter.ofSegment segment).Selects predicate container segment := by
  cases selector using List.reverseRecOn with
  | nil =>
    rw [reaches_nil_iff.mp hreaches, Value.get?_nil] at hmissing
    cases hmissing
  | append_singleton front filter =>
    obtain ⟨path, segment, container, rfl, -, hcontainer, hselects⟩ :=
      reaches_concat_iff.mp hreaches
    rw [Value.get?_child, hcontainer, Option.bind_some] at hmissing
    obtain rfl := hselects.child? hmissing
    exact ⟨path, segment, container, rfl, List.getLast?_concat, hcontainer, hmissing, hselects⟩

/-- Nothing is found at a reached path exactly when its last literal segment is missing. -/
theorem Reaches.get?_eq_none_iff {path : Path} (hreaches : selector.Reaches predicate root path) :
    root.get? path = none ↔ selector.MissesLast root path := by
  constructor
  · intro hmissing
    obtain ⟨front, segment, container, hpath, hlast, hcontainer, hchild, -⟩ :=
      hreaches.exists_last hmissing
    exact ⟨front, segment, container, hpath, hlast, hcontainer, hchild⟩
  · rintro ⟨front, segment, container, rfl, -, hcontainer, hchild⟩
    rw [Value.get?_child, hcontainer, Option.bind_some, hchild]

end Selector

/-! ### A document to read

The rows under `a` are an object with a `c`, one without, and an integer.
-/

/-- A document with rows of different kinds. -/
def rowsDocument : Value :=
  .object [("a", .array [.object [("c", .int 1)], .object [], .int 5]), ("b", .array [.null])]

/-- The key `c` of every row under the key `a`. -/
def rowsSelector : Selector :=
  [.keyQuery (.node (.condition ⟨none, .equal, ⟨.text "a", "a", none⟩⟩)), .range ⟨none, none⟩,
    .key "c"]

/-- The records of the rows: the first has its key, the second lacks it, the third is no object. -/
def rowsRecords : List Record :=
  [⟨[.key "a", .index 0, .key "c"], some (.int 1)⟩, ⟨[.key "a", .index 1, .key "c"], none⟩]

theorem rowsDocument_distinctKeys : rowsDocument.DistinctKeys := by
  simp [rowsDocument, Value.DistinctKeys, Value.DistinctKeysEntries, Value.DistinctKeysItems]

theorem parse_rowsSelector : Selector.parse "?(@=a)[..]/c" = .ok rowsSelector := by
  with_unfolding_all rfl

theorem select_rowsRecords : rowsDocument.select none "?(@=a)[..]/c" = .ok rowsRecords := by
  with_unfolding_all rfl

/-! ### What is found -/

namespace Value

theorem level_of_select (hroot : root.DistinctKeys) (hparse : Selector.parse text = .ok selector)
    (hselect : root.select predicate text = .ok records) :
    Level predicate root selector records := by
  obtain ⟨found, hfound, hrun⟩ := Except.bind_eq_ok_iff.mp hselect
  obtain rfl : found = selector := Except.ok.inj (hfound.symm.trans hparse)
  exact Level.ofRoot.run hroot (Selector.rangeFree_of_parse hparse) hrun

/-- A resolved selector has a record for exactly the paths that its filters reach one by one. The
record holds the value at its path, and nothing exactly when a last literal key or index is
missing. -/
theorem mem_select_iff_reaches (hroot : root.DistinctKeys)
    (hparse : Selector.parse text = .ok selector)
    (hselect : root.select predicate text = .ok records) :
    (∀ path, (∃ record ∈ records, record.path = path) ↔ selector.Reaches predicate root path) ∧
      ∀ record ∈ records, record.source = root.get? record.path ∧
        (record.source = none ↔ selector.MissesLast root record.path) := by
  have hlevel := level_of_select hroot hparse hselect
  refine ⟨fun path ↦ ?_, fun record hmem ↦ ?_⟩
  · rw [← hlevel.reached path, List.mem_map]
  · have hreaches := (hlevel.reached record.path).mp (List.mem_map_of_mem hmem)
    have hsource : record.source = root.get? record.path := hlevel.sound record hmem
    exact ⟨hsource, hsource ▸ hreaches.get?_eq_none_iff⟩

theorem mem_select_iff_reaches_rows :
    rowsSelector.Reaches none rowsDocument [.key "a", .index 1, .key "c"] ∧
      ¬ rowsSelector.Reaches none rowsDocument [.key "a", .index 2, .key "c"] ∧
        rowsSelector.MissesLast rowsDocument [.key "a", .index 1, .key "c"] ∧
          ¬ rowsSelector.MissesLast rowsDocument [.key "a", .index 0, .key "c"] := by
  obtain ⟨hreached, hsources⟩ := mem_select_iff_reaches
    rowsDocument_distinctKeys parse_rowsSelector select_rowsRecords
  refine ⟨?_, fun hreaches ↦ ?_, ?_, ?_⟩
  · exact (hreached _).mp ⟨⟨_, none⟩, by simp [rowsRecords], rfl⟩
  · obtain ⟨record, hmem, hpath⟩ := (hreached _).mpr hreaches
    simp only [rowsRecords, List.mem_cons, List.not_mem_nil, or_false] at hmem
    rcases hmem with rfl | rfl <;> simp at hpath
  · exact (hsources ⟨_, none⟩ (by simp [rowsRecords])).2.mp rfl
  · intro hmisses
    have hsource := (hsources ⟨_, some (.int 1)⟩ (by simp [rowsRecords])).2.mpr hmisses
    cases hsource

/-- The paths of a resolved selector have a segment for each filter. They are pairwise different, so
that none is a prefix of another, and in strictly increasing document order. -/
theorem select_document_order (hroot : root.DistinctKeys)
    (hparse : Selector.parse text = .ok selector)
    (hselect : root.select predicate text = .ok records) :
    (∀ record ∈ records, record.path.length = selector.length) ∧
      (records.map Record.path).Nodup ∧ (records.map Record.path).Pairwise Path.Apart ∧
        (records.map Record.path).Pairwise root.Precedes := by
  have hlevel := level_of_select hroot hparse hselect
  refine ⟨fun record hmem ↦ ?_, ?_, hlevel.ordered.imp Precedes.apart, hlevel.ordered⟩
  · exact ((hlevel.reached record.path).mp (List.mem_map_of_mem hmem)).1
  · exact hlevel.ordered.imp fun hprecedes ↦ hprecedes.apart.ne

theorem select_document_order_rows :
    Path.Apart [.key "a", .index 0, .key "c"] [.key "a", .index 1, .key "c"] ∧
      rowsDocument.Precedes [.key "a", .index 0, .key "c"] [.key "a", .index 1, .key "c"] := by
  obtain ⟨-, -, hapart, hordered⟩ := select_document_order
    rowsDocument_distinctKeys parse_rowsSelector select_rowsRecords
  constructor
  · exact List.rel_of_pairwise_cons hapart (by simp)
  · exact List.rel_of_pairwise_cons hordered (by simp)

end Value

end DocTree
