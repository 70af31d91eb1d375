import DocTree.Proofs.Query.Failure
import DocTree.Proofs.Selector.Compose
import Mathlib.Data.Nat.Find

/-!
# Selectors that cannot be resolved

A selector that is read can fail only at a native filter, where the predicate is missing or refuses
a candidate. `Selector.FailsAt` says at which places that is so: at a filter, in the value at a path
that the filters before it reach, at one of the candidates there. It does not run the selector. A
run fails exactly when there is such a place (`Selector.exists_resolve_eq_error_iff`), and reports
what happens at the first of them, filter by filter, record by record and candidate by candidate
(`Selector.resolve_eq_error_iff`). Then nothing is read and nothing is written, at no record
(`Value.select_failure`).
-/

set_option autoImplicit false
set_option relaxedAutoImplicit false

namespace DocTree

variable {predicate : Option NativePredicate} {root value : Value} {filter : Filter}
  {selector : Selector} {record : Record} {records : List Record} {error : SelectorError}
  {cause : QueryError} {index : Nat}

/-! ### One filter -/

namespace Filter

/-- The text of a native filter and the candidates that its predicate is asked about, if the filter
meets a container of the kind that it needs. -/
def asks? : Filter → Value → Option (String × List Value)
  | .keyQuery (.native text), .object entries => some (text, (Entries.keys entries).map .string)
  | .elementQuery (.native text), .array items => some (text, items)
  | _, _ => none

/-- Why a filter cannot be run on a value, by the position of a candidate. -/
def FailsAt (predicate : Option NativePredicate) (filter : Filter) (value : Value) (index : Nat)
    (cause : QueryError) : Prop :=
  ∃ text candidates, filter.asks? value = some (text, candidates) ∧
    Query.FailsAt predicate text candidates index cause

theorem segments_of_asks? (predicate : Option NativePredicate) {text : String}
    {candidates : List Value} (hasks : filter.asks? value = some (text, candidates)) :
    ∃ next : List Nat → List Segment, filter.segments predicate value =
      (((Query.native text).positions predicate candidates).mapError .evaluation).map next := by
  unfold asks? at hasks
  split at hasks
  · cases hasks
    exact ⟨_, rfl⟩
  · cases hasks
    exact ⟨_, rfl⟩
  · cases hasks

/-- A filter that asks no predicate about a value can be run on it. -/
theorem segments_ne_error (hasks : filter.asks? value = none) :
    filter.segments predicate value ≠ .error error := by
  have hnode : ∀ (node : Node) (candidates : List Value) (next : List Nat → List Segment),
      (((Query.node node).positions predicate candidates).mapError .evaluation).map next ≠
        .error error := by
    intro node candidates next hrun
    rw [Except.map_eq_error_iff, Except.mapError_eq_error_iff] at hrun
    obtain ⟨cause, hcause, -⟩ := hrun
    exact Query.positions_node_ne_error node hcause
  cases value with
  | object entries =>
    cases filter with
    | keyQuery query =>
      cases query with
      | node node => exact hnode node _ _
      | native text => cases hasks
    | _ => exact fun hrun ↦ by cases hrun
  | array items =>
    cases filter with
    | elementQuery query =>
      cases query with
      | node node => exact hnode node _ _
      | native text => cases hasks
    | _ => exact fun hrun ↦ by cases hrun
  | _ => cases filter <;> exact fun hrun ↦ by cases hrun

/-- A filter fails on a value at the first candidate at which it can. -/
theorem segments_eq_error_iff :
    filter.segments predicate value = .error error ↔ ∃ index cause,
      filter.FailsAt predicate value index cause ∧
        (∀ earlier < index, ∀ other, ¬ filter.FailsAt predicate value earlier other) ∧
          error = .evaluation cause := by
  cases hasks : filter.asks? value with
  | none => simp [segments_ne_error hasks, FailsAt, hasks]
  | some asked =>
    obtain ⟨text, candidates⟩ := asked
    obtain ⟨next, hsegments⟩ := segments_of_asks? predicate hasks
    have hfails : ∀ index cause, filter.FailsAt predicate value index cause ↔
        Query.FailsAt predicate text candidates index cause := by
      simp [FailsAt, hasks]
    simp only [hsegments, Except.map_eq_error_iff, Except.mapError_eq_error_iff,
      Query.positions_native_eq_error_iff, hfails]
    constructor
    · rintro ⟨cause, ⟨index, hindex, hfirst⟩, rfl⟩
      exact ⟨index, cause, hindex, hfirst, rfl⟩
    · rintro ⟨index, cause, hindex, hfirst, rfl⟩
      exact ⟨cause, ⟨index, hindex, hfirst⟩, rfl⟩

/-- A filter fails on a record when it fails on the value that the path of the record leads to. -/
theorem expand_eq_error_iff (hroot : root.DistinctKeys) (hrecord : record.Sound root) :
    filter.expand predicate record = .error error ↔ ∃ value index cause,
      root.get? record.path = some value ∧ filter.FailsAt predicate value index cause ∧
        (∀ earlier < index, ∀ other, ¬ filter.FailsAt predicate value earlier other) ∧
          error = .evaluation cause := by
  cases hsource : record.source with
  | none =>
    have hget : root.get? record.path = none := hrecord.symm.trans hsource
    simp [expand_of_missing hsource, hget]
  | some value =>
    have hget : root.get? record.path = some value := hrecord.symm.trans hsource
    simp [expand_eq (hroot.get? hget) hsource, Except.map_eq_error_iff, segments_eq_error_iff, hget]

/-- A filter fails on a record as soon as it can fail at one of the candidates there. -/
theorem FailsAt.exists_expand (hfails : filter.FailsAt predicate value index cause)
    (hroot : root.DistinctKeys) (hrecord : record.Sound root)
    (hget : root.get? record.path = some value) :
    ∃ error, filter.expand predicate record = .error error := by
  classical
  have hexists : ∃ index, ∃ cause, filter.FailsAt predicate value index cause :=
    ⟨index, cause, hfails⟩
  obtain ⟨first, hfirst⟩ := Nat.find_spec hexists
  refine ⟨.evaluation first, (expand_eq_error_iff hroot hrecord).mpr
    ⟨value, Nat.find hexists, first, hget, hfirst, fun earlier hearlier other hother ↦ ?_, rfl⟩⟩
  exact Nat.find_min hexists hearlier ⟨other, hother⟩

/-- A filter fails on some records at the first of them on which it fails. -/
theorem expandAll_eq_error_iff :
    filter.expandAll predicate records = .error error ↔ ∃ earlier record later,
      records = earlier ++ record :: later ∧
        (∀ other ∈ earlier, ∃ reached, filter.expand predicate other = .ok reached) ∧
          filter.expand predicate record = .error error := by
  induction records with
  | nil => simp [expandAll]
  | cons first rest ih =>
    cases hfirst : filter.expand predicate first with
    | error fault =>
      have hrun : filter.expandAll predicate (first :: rest) = .error fault := by
        rw [expandAll_cons, hfirst]
        rfl
      rw [hrun]
      constructor
      · intro heq
        exact ⟨[], first, rest, rfl, List.forall_mem_nil _, heq ▸ hfirst⟩
      · rintro ⟨earlier, record, later, hsplit, hearlier, hrecord⟩
        cases earlier with
        | nil =>
          obtain ⟨rfl, -⟩ := List.cons.inj hsplit
          rw [← hrecord, hfirst]
        | cons other earlier =>
          obtain ⟨rfl, -⟩ := List.cons.inj hsplit
          obtain ⟨reached, hreached⟩ := hearlier first List.mem_cons_self
          rw [hfirst] at hreached
          cases hreached
    | ok reached =>
      have hrun : filter.expandAll predicate (first :: rest) = .error error ↔
          filter.expandAll predicate rest = .error error := by
        rw [expandAll_cons, hfirst]
        exact Except.map_eq_error_iff
      rw [hrun, ih]
      constructor
      · rintro ⟨earlier, record, later, rfl, hearlier, hrecord⟩
        exact ⟨first :: earlier, record, later, rfl,
          List.forall_mem_cons.mpr ⟨⟨reached, hfirst⟩, hearlier⟩, hrecord⟩
      · rintro ⟨earlier, record, later, hsplit, hearlier, hrecord⟩
        cases earlier with
        | nil =>
          obtain ⟨rfl, -⟩ := List.cons.inj hsplit
          rw [hfirst] at hrecord
          cases hrecord
        | cons other earlier =>
          obtain ⟨rfl, hrest⟩ := List.cons.inj hsplit
          exact ⟨earlier, record, later, hrest, (List.forall_mem_cons.mp hearlier).2, hrecord⟩

end Filter

/-! ### A run of filters -/

/-- A place at which a selector can fail: the position of a filter, the path of a record and the
position of a candidate. -/
structure Stop where
  filter : Nat
  path : Path
  candidate : Nat

namespace Selector

/-- Why a selector cannot be resolved at a place. The filters before it reach the path, and the
filter fails on the value there. -/
def FailsAt (predicate : Option NativePredicate) (root : Value) (selector : Selector) (stop : Stop)
    (cause : QueryError) : Prop :=
  ∃ filter value, selector[stop.filter]? = some filter ∧
    Reaches predicate root (selector.take stop.filter) stop.path ∧
      root.get? stop.path = some value ∧ filter.FailsAt predicate value stop.candidate cause

/-- Whether a place is the first at which a selector fails: it does not fail at a filter before this
one, nor at this filter in a record before this one, nor in this record at a candidate before this
one. -/
structure FailsFirst (predicate : Option NativePredicate) (root : Value) (selector : Selector)
    (stop : Stop) (cause : QueryError) : Prop where
  fails : selector.FailsAt predicate root stop cause
  filters : ∀ other fault, selector.FailsAt predicate root other fault →
    stop.filter ≤ other.filter
  records : ∃ earlier record later,
    resolve predicate root (selector.take stop.filter) = .ok (earlier ++ record :: later) ∧
      record.path = stop.path ∧ ∀ other ∈ earlier, ∀ candidate fault,
        ¬ selector.FailsAt predicate root ⟨stop.filter, other.path, candidate⟩ fault
  candidates : ∀ candidate fault,
    selector.FailsAt predicate root ⟨stop.filter, stop.path, candidate⟩ fault →
      stop.candidate ≤ candidate

theorem level_of_resolve (hroot : root.DistinctKeys) (hfree : ∀ filter ∈ selector, filter.rangeFree)
    (hrun : selector.resolve predicate root = .ok records) :
    Level predicate root selector records :=
  Level.ofRoot.run hroot hfree hrun

theorem resolveFrom_eq_error_iff :
    resolveFrom predicate records selector = .error error ↔ ∃ k filter reached,
      selector[k]? = some filter ∧ resolveFrom predicate records (selector.take k) = .ok reached ∧
        filter.expandAll predicate reached = .error error := by
  induction selector generalizing records with
  | nil => simp [resolveFrom]
  | cons filter rest ih =>
    have hrun : resolveFrom predicate records (filter :: rest) = .error error ↔
        filter.expandAll predicate records = .error error ∨ ∃ next,
          filter.expandAll predicate records = .ok next ∧
            resolveFrom predicate next rest = .error error :=
      Except.bind_eq_error_iff
    rw [hrun]
    constructor
    · rintro (hfilter | ⟨next, hnext, hlater⟩)
      · exact ⟨0, filter, records, rfl, rfl, hfilter⟩
      · obtain ⟨k, other, reached, hother, hreached, herror⟩ := ih.mp hlater
        exact ⟨k + 1, other, reached, hother,
          resolveFrom_cons_eq_ok_iff.mpr ⟨next, hnext, hreached⟩, herror⟩
    · rintro ⟨k, other, reached, hother, hreached, herror⟩
      cases k with
      | zero =>
        obtain rfl : filter = other := Option.some_inj.mp hother
        obtain rfl : records = reached := Except.ok.inj hreached
        exact .inl herror
      | succ k =>
        obtain ⟨next, hnext, hlater⟩ := resolveFrom_cons_eq_ok_iff.mp hreached
        exact .inr ⟨next, hnext, ih.mpr ⟨k, other, reached, hother, hlater, herror⟩⟩

/-- The filters up to a place decide whether a selector fails there. -/
theorem failsAt_take_iff {stop : Stop} {k : Nat} (hk : stop.filter < k) :
    FailsAt predicate root (selector.take k) stop cause ↔
      selector.FailsAt predicate root stop cause := by
  simp [FailsAt, List.getElem?_take_of_lt hk, List.take_take, Nat.min_eq_left (Nat.le_of_lt hk)]

/-- A selector that can be resolved fails nowhere. -/
theorem not_failsAt_of_resolve (hroot : root.DistinctKeys)
    (hfree : ∀ filter ∈ selector, filter.rangeFree)
    (hrun : selector.resolve predicate root = .ok records) (stop : Stop) (cause : QueryError) :
    ¬ selector.FailsAt predicate root stop cause := by
  rintro ⟨filter, value, hfilter, hreaches, hget, hfails⟩
  have hsplit : selector =
      selector.take stop.filter ++ filter :: selector.drop (stop.filter + 1) := by
    obtain ⟨hbound, rfl⟩ := List.getElem?_eq_some_iff.mp hfilter
    rw [← List.drop_eq_getElem_cons hbound, List.take_append_drop]
  rw [hsplit, resolve, resolveFrom_append] at hrun
  obtain ⟨reached, hreached, hlater⟩ := Except.bind_eq_ok_iff.mp hrun
  obtain ⟨next, hnext, -⟩ := resolveFrom_cons_eq_ok_iff.mp hlater
  have hlevel : Level predicate root (selector.take stop.filter) reached :=
    level_of_resolve hroot (fun other hother ↦ hfree other (List.mem_of_mem_take hother)) hreached
  obtain ⟨record, hrecord, hpath⟩ := List.mem_map.mp ((hlevel.reached stop.path).mpr hreaches)
  obtain ⟨error, herror⟩ :=
    hfails.exists_expand hroot (hlevel.sound record hrecord) (hpath ▸ hget)
  rw [(Filter.expandAll_eq_ok hnext).2 record hrecord] at herror
  cases herror

/-- A selector fails at the first place at which it can. -/
theorem resolve_eq_error_iff (hroot : root.DistinctKeys)
    (hfree : ∀ filter ∈ selector, filter.rangeFree) :
    selector.resolve predicate root = .error error ↔ ∃ stop cause,
      selector.FailsFirst predicate root stop cause ∧ error = .evaluation cause := by
  have htake : ∀ k, ∀ filter ∈ selector.take k, filter.rangeFree := fun k filter hfilter ↦
    hfree filter (List.mem_of_mem_take hfilter)
  rw [resolve, resolveFrom_eq_error_iff]
  constructor
  · rintro ⟨k, filter, reached, hfilter, hreached, herror⟩
    have hlevel := level_of_resolve hroot (htake k) hreached
    obtain ⟨earlier, record, later, rfl, hearlier, hrecord⟩ :=
      Filter.expandAll_eq_error_iff.mp herror
    have hmem : record ∈ earlier ++ record :: later := by simp
    obtain ⟨value, index, cause, hget, hfails, hfirst, rfl⟩ :=
      (Filter.expand_eq_error_iff hroot (hlevel.sound record hmem)).mp hrecord
    refine ⟨⟨k, record.path, index⟩, cause, ⟨?fails, ?filters, ?records, ?candidates⟩, rfl⟩
    case fails =>
      exact ⟨filter, value, hfilter, (hlevel.reached record.path).mp (List.mem_map_of_mem hmem),
        hget, hfails⟩
    case filters =>
      intro other fault hother
      by_contra hbefore
      exact not_failsAt_of_resolve hroot (htake k) hreached other fault
        ((failsAt_take_iff (Nat.lt_of_not_le hbefore)).mpr hother)
    case records =>
      refine ⟨earlier, record, later, hreached, rfl, fun other hother candidate fault hfault ↦ ?_⟩
      obtain ⟨same, found, hsame, -, hfound, hfailed⟩ := hfault
      obtain rfl : filter = same := Option.some_inj.mp (hfilter.symm.trans hsame)
      obtain ⟨fault, hfault⟩ :=
        hfailed.exists_expand hroot (hlevel.sound other (by simp [hother])) hfound
      obtain ⟨reached, hreached⟩ := hearlier other hother
      rw [hfault] at hreached
      cases hreached
    case candidates =>
      intro candidate fault hfault
      obtain ⟨same, found, hsame, -, hfound, hfailed⟩ := hfault
      obtain rfl : filter = same := Option.some_inj.mp (hfilter.symm.trans hsame)
      obtain rfl : value = found := Option.some_inj.mp (hget.symm.trans hfound)
      by_contra hbefore
      exact hfirst candidate (Nat.lt_of_not_le hbefore) fault hfailed
  · rintro ⟨⟨k, path, index⟩, cause, ⟨hfails, -, hrecords, hcandidates⟩, rfl⟩
    obtain ⟨filter, value, hfilter, -, hget, hfailed⟩ := hfails
    obtain ⟨earlier, record, later, hreached, rfl, hearlier⟩ := hrecords
    have hlevel := level_of_resolve hroot (htake k) hreached
    have hreaches : ∀ other ∈ earlier ++ record :: later,
        Reaches predicate root (selector.take k) other.path := fun other hother ↦
      (hlevel.reached other.path).mp (List.mem_map_of_mem hother)
    have hmem : record ∈ earlier ++ record :: later := by simp
    refine ⟨k, filter, _, hfilter, hreached, Filter.expandAll_eq_error_iff.mpr
      ⟨earlier, record, later, rfl, fun other hother ↦ ?_, ?_⟩⟩
    · have hin : other ∈ earlier ++ record :: later := List.mem_append_left _ hother
      cases hexpand : filter.expand predicate other with
      | ok reached => exact ⟨reached, rfl⟩
      | error fault =>
        obtain ⟨found, candidate, reason, hfound, hreason, -⟩ :=
          (Filter.expand_eq_error_iff hroot (hlevel.sound other hin)).mp hexpand
        exact absurd ⟨filter, found, hfilter, hreaches other hin, hfound, hreason⟩
          (hearlier other hother candidate reason)
    · refine (Filter.expand_eq_error_iff hroot (hlevel.sound record hmem)).mpr
        ⟨value, index, cause, hget, hfailed, fun candidate hbefore fault hfault ↦ ?_, rfl⟩
      exact absurd (hcandidates candidate fault
        ⟨filter, value, hfilter, hreaches record hmem, hget, hfault⟩) (Nat.not_le.mpr hbefore)

/-- A selector fails when it fails at any place. -/
theorem exists_resolve_eq_error_iff (hroot : root.DistinctKeys)
    (hfree : ∀ filter ∈ selector, filter.rangeFree) :
    (∃ cause, selector.resolve predicate root = .error (.evaluation cause)) ↔
      ∃ stop cause, selector.FailsAt predicate root stop cause := by
  constructor
  · rintro ⟨cause, hrun⟩
    obtain ⟨stop, cause, hfirst, -⟩ := (resolve_eq_error_iff hroot hfree).mp hrun
    exact ⟨stop, cause, hfirst.fails⟩
  · rintro ⟨stop, cause, hfails⟩
    cases hrun : selector.resolve predicate root with
    | ok records => exact absurd hfails (not_failsAt_of_resolve hroot hfree hrun stop cause)
    | error error =>
      obtain ⟨-, first, -, rfl⟩ := (resolve_eq_error_iff hroot hfree).mp hrun
      exact ⟨first, rfl⟩

end Selector

namespace Value

/-- A selector that is read cannot be resolved exactly when one of its native filters fails: in the
value at a path that the filters before it reach, because there is no predicate or the predicate
refuses a candidate. The error is the one of the first such failure. Whenever a selector cannot be
read or resolved, nothing is read and nothing is written. -/
theorem select_failure (hroot : root.DistinctKeys) (predicate : Option NativePredicate)
    (text : String) :
    (∀ selector, Selector.parse text = .ok selector →
      ((∃ cause, root.select predicate text = .error (.evaluation cause)) ↔
        ∃ stop cause, selector.FailsAt predicate root stop cause) ∧
      ∀ error, root.select predicate text = .error error ↔ ∃ stop cause,
        selector.FailsFirst predicate root stop cause ∧ error = .evaluation cause) ∧
      (∀ error, Selector.parse text = .error error → root.select predicate text = .error error) ∧
      ∀ error, root.select predicate text = .error error →
        root.getAll predicate text = [] ∧
          ∀ change, root.changeAll predicate text change = (0, root) := by
  refine ⟨fun selector hparse ↦ ?resolved, fun error hparse ↦ ?parsed, fun error hselect ↦ ?nothing⟩
  case resolved =>
    have hfree := Selector.rangeFree_of_parse hparse
    rw [select_eq_resolve hparse]
    exact ⟨Selector.exists_resolve_eq_error_iff hroot hfree,
      fun error ↦ Selector.resolve_eq_error_iff hroot hfree⟩
  case parsed =>
    rw [select, hparse]
    rfl
  case nothing =>
    refine ⟨?_, fun change ↦ ?_⟩
    · rw [getAll, hselect]
    · rw [changeAll, hselect]

/-- A predicate that has no answer for integers. -/
def refusesIntegers : NativePredicate := fun _ candidate ↦
  match candidate with
  | .int _ => .error "integer"
  | _ => .ok true

/-- The third row is an integer, so the key is not written in the first two either. -/
theorem select_failure_rows :
    rowsDocument.DistinctKeys ∧
      Selector.parse "a[?\x7bp\x7d]/c" = .ok [.key "a", .elementQuery (.native "p"), .key "c"] ∧
      (∃ stop, Selector.FailsFirst (some refusesIntegers) rowsDocument
        [.key "a", .elementQuery (.native "p"), .key "c"] stop (.predicateFailed "integer")) ∧
      rowsDocument.changeAll (some refusesIntegers) "a[?\x7bp\x7d]/c" (.replace .null) =
        (0, rowsDocument) := by
  have hparse : Selector.parse "a[?\x7bp\x7d]/c" =
      .ok [.key "a", .elementQuery (.native "p"), .key "c"] := by with_unfolding_all rfl
  have hselect : rowsDocument.select (some refusesIntegers) "a[?\x7bp\x7d]/c" =
      .error (.evaluation (.predicateFailed "integer")) := by with_unfolding_all rfl
  obtain ⟨hresolved, -, hnothing⟩ :=
    select_failure rowsDocument_distinctKeys (some refusesIntegers) "a[?\x7bp\x7d]/c"
  obtain ⟨stop, cause, hfirst, hcause⟩ := ((hresolved _ hparse).2 _).mp hselect
  refine ⟨rowsDocument_distinctKeys, hparse, ⟨stop, ?_⟩, (hnothing _ hselect).2 (.replace .null)⟩
  rwa [SelectorError.evaluation.inj hcause]

end Value

end DocTree
