import DocTree.Proofs.Selector.Literal
import DocTree.Proofs.Selector.Reach

/-!
# Selectors one after another

Two selectors with a slash between them are one selector: it is read as the filters of the first and
then those of the second. A run takes all records one filter further at a time, so the second
selector starts from all records of the first at once. Because no record looks at another, it reaches
the same as if it were resolved in the value of each record on its own, one record after another
(`resolveFrom_eq_ok_iff`), and it can be resolved exactly when it can in each of these values
(`select_slash`).
-/

set_option autoImplicit false
set_option relaxedAutoImplicit false

namespace DocTree

variable {predicate : Option NativePredicate}

/-! ### Records of a value inside a document -/

namespace Record

/-- A record of the value in `front`, as a record of the document around that value. -/
def under (front record : Record) : Record := ⟨front.path ++ record.path, record.source⟩

/-- What a run reaches in the value of a record: nothing if the record has no value or the run
fails there. -/
def below (front : Record) (run : Value → Except SelectorError (List Record)) : List Record :=
  match front.source with
  | none => []
  | some value =>
    match run value with
    | .ok found => found.map front.under
    | .error _ => []

theorem child_under (front record : Record) (segment : Segment) (source : Option Value) :
    (front.under record).child segment source = front.under (record.child segment source) := by
  simp [under, child, Path.child]

theorem under_ofRoot {front : Record} {value : Value} (hsource : front.source = some value) :
    front.under (.ofRoot value) = front := by
  obtain ⟨path, source⟩ := front
  obtain rfl : source = some value := hsource
  simp [under, ofRoot]

end Record

namespace Filter

variable {filter : Filter}

/-- A filter does not look at the path of a record. -/
theorem expand_under (filter : Filter) (front record : Record) :
    filter.expand predicate (front.under record) =
      (filter.expand predicate record).map (List.map front.under) := by
  have hunder : (front.under record).source = record.source := rfl
  cases hsource : record.source with
  | none =>
    rw [expand_of_missing hsource, expand_of_missing (hunder.trans hsource)]
    rfl
  | some value =>
    cases value with
    | object entries =>
      cases filter with
      | keyQuery query =>
        simp only [expand, hunder, hsource]
        cases query.positions predicate ((Entries.keys entries).map .string) with
        | error cause => rfl
        | ok positions =>
          simp [Except.mapError, Except.map, entriesAt, List.map_filterMap, Record.child_under,
            Function.comp_def]
      | _ => simp [expand, hunder, hsource, Except.map, Record.child_under]
    | array items =>
      cases filter with
      | elementQuery query =>
        simp only [expand, hunder, hsource]
        cases query.positions predicate items with
        | error cause => rfl
        | ok positions => simp [Except.mapError, Except.map, elementsAt, Record.child_under]
      | _ => simp [expand, hunder, hsource, Except.map, elementsAt, Record.child_under]
    | _ => cases filter <;> simp [expand, hunder, hsource, Except.map]

theorem expandAll_cons (record : Record) (rest : List Record) :
    filter.expandAll predicate (record :: rest) =
      (filter.expand predicate record).bind fun reached ↦
        (filter.expandAll predicate rest).map (reached ++ ·) := by
  rw [expandAll]
  cases filter.expand predicate record <;> cases filter.expandAll predicate rest <;> rfl

theorem expandAll_append (first second : List Record) :
    filter.expandAll predicate (first ++ second) =
      (filter.expandAll predicate first).bind fun reached ↦
        (filter.expandAll predicate second).map (reached ++ ·) := by
  induction first with
  | nil =>
    cases hsecond : filter.expandAll predicate second <;>
      simp [expandAll, hsecond, Except.bind, Except.map]
  | cons record first ih =>
    rw [List.cons_append, expandAll_cons, expandAll_cons, ih]
    cases filter.expand predicate record <;> cases filter.expandAll predicate first <;>
      cases filter.expandAll predicate second <;> simp [Except.bind, Except.map]

theorem expandAll_under (front : Record) (records : List Record) :
    filter.expandAll predicate (records.map front.under) =
      (filter.expandAll predicate records).map (List.map front.under) := by
  induction records with
  | nil => rfl
  | cons record rest ih =>
    rw [List.map_cons, expandAll_cons, expandAll_cons, ih, expand_under]
    cases filter.expand predicate record <;> cases filter.expandAll predicate rest <;>
      simp [Except.bind, Except.map]

end Filter

/-! ### Breadth first and record by record -/

namespace Selector

variable {selector front rest : Selector} {records final : List Record} {root : Value}

theorem resolveFrom_append (front rest : Selector) (records : List Record) :
    resolveFrom predicate records (front ++ rest) =
      (resolveFrom predicate records front).bind fun reached ↦
        resolveFrom predicate reached rest := by
  induction front generalizing records with
  | nil => rfl
  | cons filter front ih =>
    simp only [List.cons_append, resolveFrom]
    cases filter.expandAll predicate records with
    | error error => rfl
    | ok next => exact ih next

theorem resolveFrom_cons_eq_ok_iff {filter : Filter} :
    resolveFrom predicate records (filter :: rest) = .ok final ↔
      ∃ next, filter.expandAll predicate records = .ok next ∧
        resolveFrom predicate next rest = .ok final :=
  Except.bind_eq_ok_iff

/-- A run from more records succeeds when it does from the first and from the others, and reaches
what they reach. -/
theorem resolveFrom_records_eq_ok_iff {first second : List Record} :
    resolveFrom predicate (first ++ second) selector = .ok final ↔
      ∃ reached later, resolveFrom predicate first selector = .ok reached ∧
        resolveFrom predicate second selector = .ok later ∧ final = reached ++ later := by
  induction selector generalizing first second final with
  | nil => simp [resolveFrom, eq_comm]
  | cons filter rest ih =>
    simp only [resolveFrom_cons_eq_ok_iff, Filter.expandAll_append, Except.bind_eq_ok_iff,
      Except.map_eq_ok_iff]
    constructor
    · rintro ⟨next, ⟨reached, hreached, later, hlater, rfl⟩, hfinal⟩
      obtain ⟨final, more, hfirst, hsecond, rfl⟩ := ih.mp hfinal
      exact ⟨final, more, ⟨reached, hreached, hfirst⟩, ⟨later, hlater, hsecond⟩, rfl⟩
    · rintro ⟨final, more, ⟨reached, hreached, hfirst⟩, ⟨later, hlater, hsecond⟩, rfl⟩
      exact ⟨reached ++ later, ⟨reached, hreached, later, hlater, rfl⟩,
        ih.mpr ⟨final, more, hfirst, hsecond, rfl⟩⟩

theorem resolveFrom_under (record : Record) (records : List Record) :
    resolveFrom predicate (records.map record.under) selector =
      (resolveFrom predicate records selector).map (List.map record.under) := by
  induction selector generalizing records with
  | nil => rfl
  | cons filter rest ih =>
    simp only [resolveFrom, Filter.expandAll_under]
    cases filter.expandAll predicate records with
    | error error => rfl
    | ok next => exact ih next

/-- A run from one record is a run in its value. -/
theorem resolveFrom_of_source {record : Record} {value : Value}
    (hsource : record.source = some value) :
    resolveFrom predicate [record] selector =
      (selector.resolve predicate value).map (List.map record.under) := by
  rw [resolve, ← resolveFrom_under, List.map_singleton, Record.under_ofRoot hsource]

theorem resolveFrom_of_missing {record : Record} (hne : selector ≠ [])
    (hsource : record.source = none) : resolveFrom predicate [record] selector = .ok [] := by
  cases selector with
  | nil => exact absurd rfl hne
  | cons filter rest =>
    rw [resolveFrom_cons (Filter.expand_of_missing hsource), resolveFrom_of_no_records]

/-- A run from one record reaches what the selector reaches in its value, if it can be resolved. -/
theorem resolveFrom_singleton_eq_ok_iff (hne : selector ≠ []) {record : Record} :
    resolveFrom predicate [record] selector = .ok final ↔
      (∀ value, record.source = some value →
        ∃ found, selector.resolve predicate value = .ok found) ∧
        final = record.below (selector.resolve predicate) := by
  cases hsource : record.source with
  | none => simp [resolveFrom_of_missing hne hsource, Record.below, hsource, eq_comm]
  | some value =>
    rw [resolveFrom_of_source hsource, Except.map_eq_ok_iff, Record.below, hsource]
    cases hfound : selector.resolve predicate value <;> simp [hfound]

/-- A run from some records succeeds when the selector can be resolved in the value of each, and
reaches what it reaches there, record by record. -/
theorem resolveFrom_eq_ok_iff (hne : selector ≠ []) :
    resolveFrom predicate records selector = .ok final ↔
      (∀ record ∈ records, ∀ value, record.source = some value →
        ∃ found, selector.resolve predicate value = .ok found) ∧
        final = records.flatMap (·.below (selector.resolve predicate)) := by
  induction records generalizing final with
  | nil => simp [resolveFrom_of_no_records, eq_comm]
  | cons record rest ih =>
    rw [← List.singleton_append, resolveFrom_records_eq_ok_iff]
    simp only [resolveFrom_singleton_eq_ok_iff hne, ih, List.singleton_append,
      List.forall_mem_cons, List.flatMap_cons]
    constructor
    · rintro ⟨reached, later, ⟨hfirst, rfl⟩, ⟨hrest, rfl⟩, rfl⟩
      exact ⟨⟨hfirst, hrest⟩, rfl⟩
    · rintro ⟨⟨hfirst, hrest⟩, rfl⟩
      exact ⟨_, _, ⟨hfirst, rfl⟩, ⟨hrest, rfl⟩, rfl⟩

theorem resolve_append_eq_ok_iff (hne : rest ≠ []) :
    resolve predicate root (front ++ rest) = .ok records ↔
      ∃ fronts, front.resolve predicate root = .ok fronts ∧
        (∀ record ∈ fronts, ∀ value, record.source = some value →
          ∃ found, rest.resolve predicate value = .ok found) ∧
          records = fronts.flatMap (·.below (rest.resolve predicate)) := by
  rw [resolve, resolveFrom_append, Except.bind_eq_ok_iff]
  exact exists_congr fun fronts ↦ and_congr_right fun _ ↦ resolveFrom_eq_ok_iff hne

theorem parse_slash_eq_ok_iff {first second : String} :
    parse (first ++ "/" ++ second) = .ok selector ↔
      ∃ front rest, parse first = .ok front ∧ parse second = .ok rest ∧
        selector = front ++ rest := by
  have htext : (first ++ "/" ++ second).toList = first.toList ++ '/' :: second.toList := by
    simp
  rw [parse, htext, parseChars_slash, Except.bind_eq_ok_iff]
  simp only [Except.map_eq_ok_iff, parse, exists_and_left]

end Selector

namespace Value

variable {text : String} {selector : Selector}

theorem select_eq_resolve (hparse : Selector.parse text = .ok selector) (root : Value) :
    root.select predicate text = selector.resolve predicate root := by
  rw [select, hparse]
  rfl

/-- Two selectors with a slash between them can be read exactly when both can, and then have the
filters of the first and then those of the second. If the second has a filter, they can be resolved
exactly when the first can and the second can in every value that the first reaches; the records are
then those of the second in each of these values, in the order of the records of the first, with the
path to the value in front of theirs. -/
theorem select_slash (predicate : Option NativePredicate) (first second : String) :
    (∀ selector, Selector.parse (first ++ "/" ++ second) = .ok selector ↔
      ∃ front rest, Selector.parse first = .ok front ∧ Selector.parse second = .ok rest ∧
        selector = front ++ rest) ∧
      ∀ front rest, Selector.parse first = .ok front → Selector.parse second = .ok rest →
        rest ≠ [] → ∀ (root : Value) (records : List Record),
          root.select predicate (first ++ "/" ++ second) = .ok records ↔
            ∃ fronts, root.select predicate first = .ok fronts ∧
              (∀ record ∈ fronts, ∀ value, record.source = some value →
                ∃ found, value.select predicate second = .ok found) ∧
                records = fronts.flatMap (·.below (select predicate · second)) := by
  refine ⟨fun selector ↦ Selector.parse_slash_eq_ok_iff, ?_⟩
  intro front rest hfront hrest hne root records
  have hboth : Selector.parse (first ++ "/" ++ second) = .ok (front ++ rest) :=
    Selector.parse_slash_eq_ok_iff.mpr ⟨front, rest, hfront, hrest, rfl⟩
  have hsecond : (select predicate · second) = fun value ↦ rest.resolve predicate value :=
    funext (select_eq_resolve hrest)
  rw [select_eq_resolve hboth, select_eq_resolve hfront, hsecond]
  simp only [select_eq_resolve hrest]
  exact Selector.resolve_append_eq_ok_iff hne

/-- The rows come first, and the key is looked for in each of them: the last one, which is no
object, has no record. -/
theorem select_slash_rows :
    Selector.parse "?(@=a)[..]" = .ok (rowsSelector.take 2) ∧
      Selector.parse "c" = .ok [.key "c"] ∧ ([.key "c"] : Selector) ≠ [] ∧
        rowsDocument.select none ("?(@=a)[..]" ++ "/" ++ "c") = .ok rowsRecords := by
  have hfront : Selector.parse "?(@=a)[..]" = .ok (rowsSelector.take 2) := by with_unfolding_all rfl
  have hrest : Selector.parse "c" = .ok [.key "c"] := by with_unfolding_all rfl
  have hne : ([.key "c"] : Selector) ≠ [] := List.cons_ne_nil _ _
  have hrows : rowsDocument.select none "?(@=a)[..]" =
      .ok [⟨[.key "a", .index 0], some (.object [("c", .int 1)])⟩,
        ⟨[.key "a", .index 1], some (.object [])⟩, ⟨[.key "a", .index 2], some (.int 5)⟩] := by
    with_unfolding_all rfl
  refine ⟨hfront, hrest, hne, ?_⟩
  refine ((select_slash none _ _).2 _ _ hfront hrest hne rowsDocument rowsRecords).mpr
    ⟨_, hrows, fun record _ value _ ↦ ?_, ?_⟩
  · rw [select_eq_resolve hrest]
    cases value <;> exact ⟨_, rfl⟩
  · with_unfolding_all rfl

end Value

end DocTree
