import DocTree.Proofs.Position.Slot
import DocTree.Proofs.Selector.Components

/-!
# Selectors without queries

A selector whose components name their segments stands for one path. Its filters are followed one by
one, and either reach the record of that path or lose it before, where nothing could be written at
the path either (`resolveFrom_ofSegments`). Reading, writing and changing with such a selector is
therefore reading, writing and changing at its path (`Value.select_literal`), for every document and
whether or not the path resolves.
-/

set_option autoImplicit false
set_option relaxedAutoImplicit false

namespace DocTree

variable {predicate : Option NativePredicate}

/-- A literal filter follows its segment, unless the value is no container for it. -/
theorem Filter.expand_ofSegment (predicate : Option NativePredicate) {record : Record}
    {value : Value} (hsource : record.source = some value) (segment : Segment) :
    (ofSegment segment).expand predicate record = .ok [record.descend value segment] ∨
      (ofSegment segment).expand predicate record = .ok [] ∧ value.child? segment = none ∧
        value.grows segment = false := by
  cases value with
  | object entries =>
    cases segment with
    | key name => exact .inl (by simp [expand, ofSegment, hsource, Record.descend])
    | index position => exact .inr ⟨by simp [expand, ofSegment, hsource], rfl, rfl⟩
  | array items =>
    cases segment with
    | key name => exact .inr ⟨by simp [expand, ofSegment, hsource], rfl, rfl⟩
    | index position => exact .inl (by simp [expand, ofSegment, hsource, Record.descend])
  | _ => cases segment <;> exact .inr ⟨by simp [expand, ofSegment, hsource], rfl, rfl⟩

namespace Selector

theorem resolveFrom_cons {record : Record} {filter : Filter} {reached : List Record}
    (hexpand : filter.expand predicate record = .ok reached) (rest : Selector) :
    resolveFrom predicate [record] (filter :: rest) = resolveFrom predicate reached rest := by
  simp [resolveFrom, Filter.expandAll, hexpand, bind, Except.bind, pure, Except.pure]

theorem resolveFrom_of_no_records (selector : Selector) :
    resolveFrom predicate [] selector = .ok [] := by
  induction selector with
  | nil => rfl
  | cons filter rest ih => exact ih

/-- The literal filters of a path reach its record, or lose it where no write could be made. -/
theorem resolveFrom_ofSegments (predicate : Option NativePredicate) (record : Record)
    {value : Value} (hsource : record.source = some value) (path : Path) :
    ∃ records, resolveFrom predicate [record] (path.map .ofSegment) = .ok records ∧
      (records = [⟨record.path ++ path, value.get? path⟩] ∨
        records = [] ∧ value.slot? path = none) := by
  induction path generalizing record value with
  | nil =>
    refine ⟨[record], rfl, .inl ?_⟩
    obtain ⟨front, source⟩ := record
    rw [List.append_nil, Value.get?_nil, ← hsource]
  | cons segment rest ih =>
    rw [List.map_cons]
    rcases Filter.expand_ofSegment predicate hsource segment with
      hfollowed | ⟨hdropped, hchild, hgrows⟩
    · rw [resolveFrom_cons hfollowed]
      cases hchild : value.child? segment with
      | some next =>
        obtain ⟨records, hrun, hrecords⟩ := ih (record.descend value segment) hchild
        refine ⟨records, hrun, ?_⟩
        rw [Value.get?_cons, hchild, Option.bind_some, Value.slot?_cons_of_child hchild]
        simpa [Record.descend, Record.child, Path.child] using hrecords
      | none =>
        cases rest with
        | nil =>
          refine ⟨_, rfl, .inl ?_⟩
          rw [Value.get?_cons, hchild]
          simp [Record.descend, Record.child, Path.child, hchild]
        | cons second rest =>
          have hlost : (Filter.ofSegment second).expand predicate
              (record.descend value segment) = .ok [] := Filter.expand_of_missing hchild
          refine ⟨[], ?_, .inr ⟨rfl, ?_⟩⟩
          · rw [List.map_cons, resolveFrom_cons hlost, resolveFrom_of_no_records]
          · rw [Value.slot?_cons_of_missing hchild]
            rfl
    · refine ⟨[], ?_, .inr ⟨rfl, ?_⟩⟩
      · rw [resolveFrom_cons hdropped, resolveFrom_of_no_records]
      · rw [Value.slot?_cons_of_missing hchild, hgrows, Bool.and_false]
        rfl

end Selector

namespace Value

variable {root : Value} {path : Path} {components : List Selector.Component}

/-- What a selector without queries resolves to. -/
theorem exists_select_eq (predicate : Option NativePredicate) (root : Value)
    (hwritten : components.flatMap Selector.Component.path = path)
    (hpath : ∀ segment ∈ path, segment.Literal) :
    ∃ records,
      root.select predicate (String.ofList (Selector.renderComponents components)) = .ok records ∧
        (records = [⟨path, root.get? path⟩] ∨ records = [] ∧ root.slot? path = none) := by
  subst hwritten
  obtain ⟨records, hrun, hrecords⟩ := Selector.resolveFrom_ofSegments predicate
    (.ofRoot root) rfl (components.flatMap Selector.Component.path)
  refine ⟨records, ?_, hrecords⟩
  rw [select, Selector.parse, String.toList_ofList, Selector.parseChars_renderComponents hpath]
  exact hrun

/-- Reading, writing and changing with a selector without queries is reading, writing and changing
at the path that it is written for. -/
theorem select_literal (predicate : Option NativePredicate) (root : Value)
    (hwritten : components.flatMap Selector.Component.path = path)
    (hpath : ∀ segment ∈ path, segment.Literal) :
    root.getAll predicate (String.ofList (Selector.renderComponents components)) =
        (root.get? path).toList ∧
      (∀ incoming,
        root.setAll predicate (String.ofList (Selector.renderComponents components)) incoming =
          root.set path incoming) ∧
      ∀ change,
        root.changeAll predicate (String.ofList (Selector.renderComponents components)) change =
          (if (root.change? path change).isSome then 1 else 0, root.change path change) := by
  obtain ⟨records, hselect, hrecords⟩ := exists_select_eq predicate root hwritten hpath
  have hchange : ∀ change,
      root.changeAll predicate (String.ofList (Selector.renderComponents components)) change =
        (if (root.change? path change).isSome then 1 else 0, root.change path change) := by
    intro change
    unfold changeAll Value.change
    rw [hselect]
    rcases hrecords with rfl | ⟨rfl, hslot⟩
    · cases htaken : root.change? path change <;> simp [changeAt, htaken]
    · have hrefused : root.change? path change = none := by
        rw [change?_eq, outcomeAt?, hslot]
        rfl
      simp [changeAt, hrefused]
  refine ⟨?_, fun incoming ↦ ?_, hchange⟩
  · unfold getAll
    rw [hselect]
    rcases hrecords with rfl | ⟨rfl, hslot⟩
    · cases hget : root.get? path <;> simp
    · rw [get?_eq_slot?, hslot]
      rfl
  · rw [setAll, hchange]
    rfl

/-- A document with an object in an array in an object. -/
def nestedRows : Value :=
  .object [("b", .object [("a", .array [.null, .object []])])]

/-- The key `c` is missing where the selector leads, and a replacement inserts it. -/
theorem select_literal_nestedRows :
    [Selector.Component.key "b", .element "a" 1, .key "c"].flatMap Selector.Component.path =
        [.key "b", .key "a", .index 1, .key "c"] ∧
      (∀ segment ∈ [Segment.key "b", .key "a", .index 1, .key "c"], segment.Literal) ∧
        nestedRows.getAll none "b/a[1]/c" = [] ∧
          nestedRows.changeAll none "b/a[1]/c" (.replace (.int 7)) =
            (1, .object [("b", .object [("a", .array [.null, .object [("c", .int 7)]])])]) := by
  have hwritten : [Selector.Component.key "b", .element "a" 1, .key "c"].flatMap
      Selector.Component.path = [.key "b", .key "a", .index 1, .key "c"] := rfl
  have hkey : ∀ name ∈ ["b", "a", "c"], Segment.Literal (.key name) := by
    simp [Segment.Literal]
  have hindex : Segment.Literal (.index 1) := by
    unfold Segment.Literal
    decide
  have hpath : ∀ segment ∈ [Segment.key "b", .key "a", .index 1, .key "c"], segment.Literal := by
    simp [hkey, hindex]
  obtain ⟨hget, -, hchange⟩ := select_literal none nestedRows hwritten hpath
  exact ⟨hwritten, hpath, hget, hchange (.replace (.int 7))⟩

end Value

end DocTree
