import DocTree.Proofs.Position.Reordered
import DocTree.Proofs.Selector.Failure
import DocTree.Proofs.Selector.Stable

/-!
# Selectors whatever the order of entries

Nothing that a selector does depends on the order of object entries, as long as no native predicate
is asked. Filters take the same children of values that differ only in that order
(`Filter.selects_reordered_iff`), so a selector reaches the same paths, or fails with the same
error. What it finds may come in another order, and a run of changes over these paths is described
by what its document shows at every path: below a path that took the change what was put there, and
elsewhere what was there before (`outlineAt?_changeAt`). So the order of the paths does not matter
to it (`Reordered.changeAt`).
-/

set_option autoImplicit false
set_option relaxedAutoImplicit false

namespace DocTree

variable {root other value twin : Value} {change : Change} {selector : Selector} {filter : Filter}
  {query : Query} {text : String} {path : Path} {segment : Segment} {cause : QueryError}
  {index : Nat}

/-! ### Queries -/

theorem Comparison.holds_reordered (comparison : Comparison) (expected : Expected)
    (hreordered : value.Reordered twin) :
    comparison.holds value expected = comparison.holds twin expected := by
  cases hreordered with
  | scalar => rfl
  | array => simp [holds]
  | object => simp [holds]

theorem Condition.holds_reordered (condition : Condition) (hreordered : value.Reordered twin)
    (hvalue : value.DistinctKeys) : condition.holds value = condition.holds twin := by
  cases hproperty : condition.property with
  | none =>
    simp only [holds, hproperty]
    exact Comparison.holds_reordered _ _ hreordered
  | some property =>
    have hrel : Option.Rel Value.Reordered (value.atKey? property) (twin.atKey? property) :=
      hreordered.child? hvalue (.key property)
    simp only [holds, hproperty]
    rcases Option.rel_cases hrel with
      ⟨hfound, hthere⟩ | ⟨actual, found, hfound, hthere, hrelated⟩
    · rw [hfound, hthere]
    · rw [hfound, hthere]
      exact Comparison.holds_reordered _ _ hrelated

theorem Node.verdicts_eq_map (candidate : Value) (nodes : List Node) :
    verdicts candidate nodes = nodes.map (holds candidate) := by
  induction nodes with
  | nil => rfl
  | cons node nodes ih => rw [verdicts, ih, List.map_cons]

theorem Node.holds_reordered (node : Node) (hreordered : value.Reordered twin)
    (hvalue : value.DistinctKeys) : node.holds value = node.holds twin := by
  induction node using childInduction with
  | condition leaf => exact Condition.holds_reordered leaf hreordered hvalue
  | group children connective ih =>
    rw [holds, holds, verdicts_eq_map, verdicts_eq_map, List.map_congr_left ih]
  | range bounds => rfl

/-- Without a predicate a query takes both of two candidates that differ only in the order of
entries, or neither. -/
theorem Query.accepts_reordered_iff (hreordered : value.Reordered twin)
    (hvalue : value.DistinctKeys) : query.Accepts none value ↔ query.Accepts none twin := by
  cases query with
  | node node => simp only [Accepts, node.holds_reordered hreordered hvalue]
  | native text => simp [Accepts]

/-! ### Filters -/

namespace Filter

/-- A filter takes the same children of values that differ only in the order of entries. -/
theorem selects_reordered_iff (hreordered : value.Reordered twin) (hvalue : value.DistinctKeys) :
    filter.Selects none value segment ↔ filter.Selects none twin segment := by
  cases hreordered with
  | scalar => rfl
  | @array items others hitems =>
    cases filter with
    | elementQuery query =>
      cases segment with
      | key name => exact Iff.rfl
      | index position =>
        refine Option.exists_eq_some_iff_of_rel (Value.rel_getElem?_of_forall₂ hitems position)
          fun item found hitem hrelated ↦ Query.accepts_reordered_iff hrelated ?_
        exact Value.distinctKeys_array.mp hvalue item (List.mem_of_getElem? hitem)
    | range bounds =>
      cases segment with
      | key name => exact Iff.rfl
      | index position => simp only [Selects, hitems.length_eq]
    | _ => cases segment <;> exact Iff.rfl
  | @object entries inside others hkeys hvalues hperm =>
    have hsame : ∀ name, name ∈ Entries.keys entries ↔ name ∈ Entries.keys others := fun name ↦ by
      rw [← hkeys]
      exact (hperm.map Prod.fst).mem_iff.symm
    cases filter with
    | keyQuery query =>
      cases segment with
      | key name => simp only [Selects, hsame]
      | index position => exact Iff.rfl
    | _ => cases segment <;> exact Iff.rfl

theorem asks?_reordered (filter : Filter) (hreordered : value.Reordered twin) :
    (filter.asks? value).map Prod.fst = (filter.asks? twin).map Prod.fst := by
  cases hreordered with
  | scalar => rfl
  | array =>
    cases filter with
    | keyQuery query => cases query <;> rfl
    | elementQuery query => cases query <;> rfl
    | _ => rfl
  | object =>
    cases filter with
    | keyQuery query => cases query <;> rfl
    | elementQuery query => cases query <;> rfl
    | _ => rfl

theorem eq_native_of_asks? (hasks : (filter.asks? value).map Prod.fst = some text) :
    filter = .keyQuery (.native text) ∨ filter = .elementQuery (.native text) := by
  obtain ⟨asked, hasked, rfl⟩ := Option.map_eq_some_iff.mp hasks
  unfold asks? at hasked
  split at hasked
  · cases hasked
    exact .inl rfl
  · cases hasked
    exact .inr rfl
  · cases hasked

/-- Without a predicate a native filter fails at the start of any container of the kind that it
needs. -/
theorem failsAt_none_iff : filter.FailsAt none value index cause ↔ ∃ text,
    (filter.asks? value).map Prod.fst = some text ∧ index = 0 ∧
      cause = .predicateUnavailable text := by
  simp only [FailsAt, Query.failsAt_none_iff, Option.map_eq_some_iff, Prod.exists]
  constructor
  · rintro ⟨text, candidates, hasks, hfails⟩
    exact ⟨text, ⟨text, candidates, hasks, rfl⟩, hfails⟩
  · rintro ⟨text, ⟨_, candidates, hasks, rfl⟩, hfails⟩
    exact ⟨_, candidates, hasks, hfails⟩

theorem failsAt_reordered_iff (hreordered : value.Reordered twin) :
    filter.FailsAt none value index cause ↔ filter.FailsAt none twin index cause := by
  rw [failsAt_none_iff, failsAt_none_iff, filter.asks?_reordered hreordered]

/-- Without a predicate a filter fails with the same error wherever it fails. -/
theorem FailsAt.unique {second : Value} {later : Nat} {fault : QueryError}
    (hfirst : filter.FailsAt none value index cause)
    (hsecond : filter.FailsAt none second later fault) : cause = fault := by
  obtain ⟨text, hasks, -, rfl⟩ := failsAt_none_iff.mp hfirst
  obtain ⟨other, hother, -, rfl⟩ := failsAt_none_iff.mp hsecond
  have hquery := eq_native_of_asks? hother
  rcases eq_native_of_asks? hasks with rfl | rfl
  · simpa using hquery
  · simpa using hquery

end Filter

/-! ### Selectors -/

namespace Selector

theorem reaches_reordered_iff (hreordered : root.Reordered other) (hroot : root.DistinctKeys) :
    selector.Reaches none root path ↔ selector.Reaches none other path := by
  refine and_congr_right fun _ ↦ forall₂_congr fun k filter ↦ ?_
  refine forall₃_congr fun segment hfilter hsegment ↦ ?_
  exact Option.exists_eq_some_iff_of_rel (hreordered.get? hroot (path.take k))
    fun value found hvalue hrelated ↦
      Filter.selects_reordered_iff hrelated (hroot.get? hvalue)

theorem failsAt_reordered_iff {stop : Stop} (hreordered : root.Reordered other)
    (hroot : root.DistinctKeys) :
    selector.FailsAt none root stop cause ↔ selector.FailsAt none other stop cause := by
  refine exists_congr fun filter ↦ ?_
  rcases Option.rel_cases (hreordered.get? hroot stop.path) with
    ⟨hvalue, hthere⟩ | ⟨value, found, hvalue, hthere, hrelated⟩
  · simp [hvalue, hthere]
  · simp [hvalue, hthere, Filter.failsAt_reordered_iff hrelated,
      reaches_reordered_iff hreordered hroot]

/-- Without a predicate the first failures of a selector in two documents that differ only in the
order of entries are failures of the same filter. -/
theorem FailsFirst.cause_eq {stop last : Stop} {fault : QueryError}
    (hreordered : root.Reordered other) (hroot : root.DistinctKeys)
    (hfirst : selector.FailsFirst none root stop cause)
    (hsecond : selector.FailsFirst none other last fault) : cause = fault := by
  have hle := hfirst.filters last fault ((failsAt_reordered_iff hreordered hroot).mpr hsecond.fails)
  have hge := hsecond.filters stop cause ((failsAt_reordered_iff hreordered hroot).mp hfirst.fails)
  have hsame : stop.filter = last.filter := Nat.le_antisymm hle hge
  obtain ⟨filter, value, hfilter, -, -, hfails⟩ := hfirst.fails
  obtain ⟨found, twin, hfound, -, -, hfault⟩ := hsecond.fails
  rw [hsame, hfound, Option.some_inj] at hfilter
  exact hfails.unique (hfilter ▸ hfault)

end Selector

/-! ### Runs of changes -/

namespace Value

variable {paths others : List Path} {place : Path} {new : Value}

/-- A run shows at a path that does not lead through one of the positions that it writes what was
there before. -/
theorem outlineAt?_changeAt (hapart : paths.Pairwise Path.Apart) (count : Nat)
    (hthrough : ∀ path ∈ paths, (root.outcomeAt? change path).isSome → ¬ path <+: place) :
    (changeAt change paths (count, root)).2.outlineAt? place = root.outlineAt? place := by
  refine changeAt_induction (motive := fun met ↦ met.outlineAt? place = root.outlineAt? place)
    hapart count rfl fun path hpath met new hmet hslot houtcome ↦ ?_
  have hbefore : (root.outcomeAt? change path).isSome := by
    rw [outcomeAt?, ← hslot, ← outcomeAt?, houtcome]
    rfl
  rw [outlineAt?_fill (slot?_isSome_of_outcomeAt? houtcome) (hthrough path hpath hbefore), hmet]

/-- Below a position that it writes, a run shows what it put there. -/
theorem outlineAt?_changeAt_append (hapart : paths.Pairwise Path.Apart) (count : Nat)
    (hpath : path ∈ paths) (houtcome : root.outcomeAt? change path = some new) (rest : Path) :
    (changeAt change paths (count, root)).2.outlineAt? (path ++ rest) = new.outlineAt? rest := by
  have hslot := (changeAt_run change hapart count root).2.1 path hpath new houtcome
  rw [outlineAt?, get?_append, get?_eq_slot?, hslot]
  rfl

/-- Runs of a change over the same paths, in any order, make the like of documents that differ only
in the order of entries. -/
theorem Reordered.changeAt (hreordered : root.Reordered other) (hroot : root.DistinctKeys)
    (hchange : change.DistinctKeys) (hperm : paths.Perm others)
    (hpaths : paths.Pairwise Path.Apart) (hothers : others.Pairwise Path.Apart) (count : Nat) :
    (Value.changeAt change paths (count, root)).1 =
        (Value.changeAt change others (count, other)).1 ∧
      (Value.changeAt change paths (count, root)).2.Reordered
        (Value.changeAt change others (count, other)).2 := by
  have hrel := hreordered.outcomeAt? hroot hchange
  constructor
  · rw [(changeAt_run change hpaths count root).1, (changeAt_run change hothers count other).1,
      hperm.countP_eq]
    simp only [fun path ↦ Option.isSome_eq_of_rel (hrel path)]
  · refine reordered_of_outlineAt? (hroot.changeAt hchange paths count)
      ((hreordered.distinctKeys hroot).changeAt hchange others count) fun place ↦ ?_
    -- A place is below one of the paths that took the change, or shows what it showed before.
    by_cases hthrough : ∃ path ∈ paths, (root.outcomeAt? change path).isSome ∧ path <+: place
    · obtain ⟨path, hpath, htaken, rest, rfl⟩ := hthrough
      obtain ⟨new, houtcome⟩ := Option.isSome_iff_exists.mp htaken
      have hboth := hrel path
      rw [houtcome, Option.rel_some_left_iff] at hboth
      obtain ⟨twin, htwin, hrelated⟩ := hboth
      rw [outlineAt?_changeAt_append hpaths count hpath houtcome,
        outlineAt?_changeAt_append hothers count (hperm.mem_iff.mp hpath) htwin]
      exact hrelated.outlineAt? (hroot.outcomeAt? hchange houtcome) rest
    · simp only [not_exists, not_and] at hthrough
      rw [outlineAt?_changeAt hpaths count hthrough, outlineAt?_changeAt hothers count]
      · exact hreordered.outlineAt? hroot place
      · intro path hpath htaken
        rw [← Option.isSome_eq_of_rel (hrel path)] at htaken
        exact hthrough path (hperm.mem_iff.mpr hpath) htaken

end Value

/-! ### What a selector finds -/

/-- Two records at one path whose sources differ only in the order of entries. -/
structure Record.Reordered (record twin : Record) : Prop where
  path : record.path = twin.path
  source : Option.Rel Value.Reordered record.source twin.source

/-- What a selector gives in two documents, if it fails with the same error in both, or finds the
same in both but for the order of the records and of the entries in their sources. -/
inductive Selector.SameOutcome :
    Except SelectorError (List Record) → Except SelectorError (List Record) → Prop where
  | failed (error : SelectorError) : SameOutcome (.error error) (.error error)
  | resolved {records inside twins : List Record}
    (hrecords : List.Forall₂ Record.Reordered records inside) (hperm : inside.Perm twins) :
    SameOutcome (.ok records) (.ok twins)

variable {predicate : Option NativePredicate} {records twins : List Record}

theorem Record.Reordered.map_path (hrecords : List.Forall₂ Record.Reordered records twins) :
    records.map Record.path = twins.map Record.path := by
  induction hrecords with
  | nil => rfl
  | cons hrecord _ ih => rw [List.map_cons, List.map_cons, hrecord.path, ih]

theorem Selector.SameOutcome.perm_path (hsame : SameOutcome (.ok records) (.ok twins)) :
    (records.map Record.path).Perm (twins.map Record.path) := by
  cases hsame with
  | resolved hrecords hperm =>
    rw [Record.Reordered.map_path hrecords]
    exact hperm.map Record.path

/-- The record of a position of a document. -/
def Record.ofPath (root : Value) (path : Path) : Record := ⟨path, root.get? path⟩

theorem Level.map_ofPath (hlevel : Level predicate root selector records) :
    (records.map Record.path).map (Record.ofPath root) = records := by
  rw [List.map_map]
  refine (List.map_congr_left fun record hrecord ↦ ?_).trans (List.map_id records)
  have hsource : record.source = root.get? record.path := hlevel.sound record hrecord
  rw [Function.comp_apply, Record.ofPath, ← hsource, id]

theorem Level.nodup_path (hlevel : Level predicate root selector records) :
    (records.map Record.path).Nodup :=
  hlevel.ordered.imp fun hprecedes ↦ hprecedes.apart.ne

theorem Level.perm_path (hreordered : root.Reordered other) (hroot : root.DistinctKeys)
    (hlevel : Level none root selector records) (htwin : Level none other selector twins) :
    (records.map Record.path).Perm (twins.map Record.path) := by
  refine (List.perm_ext_iff_of_nodup hlevel.nodup_path htwin.nodup_path).mpr fun path ↦ ?_
  rw [hlevel.reached, htwin.reached, Selector.reaches_reordered_iff hreordered hroot]

theorem Level.sameOutcome (hreordered : root.Reordered other) (hroot : root.DistinctKeys)
    (hlevel : Level none root selector records) (htwin : Level none other selector twins) :
    Selector.SameOutcome (.ok records) (.ok twins) := by
  have hrecords : List.Forall₂ Record.Reordered records
      ((records.map Record.path).map (Record.ofPath other)) := by
    rw [List.map_map, List.forall₂_map_right_iff, List.forall₂_same]
    intro record hrecord
    have hsource : record.source = root.get? record.path := hlevel.sound record hrecord
    exact ⟨rfl, hsource ▸ hreordered.get? hroot record.path⟩
  have hperm := (hlevel.perm_path hreordered hroot htwin).map (Record.ofPath other)
  rw [htwin.map_ofPath] at hperm
  exact .resolved hrecords hperm

namespace Selector

/-- Without a predicate a selector gives the same in documents that differ only in the order of
entries. -/
theorem resolve_reordered (hreordered : root.Reordered other) (hroot : root.DistinctKeys)
    (hfree : ∀ filter ∈ selector, filter.rangeFree) :
    SameOutcome (selector.resolve none root) (selector.resolve none other) := by
  have hother := hreordered.distinctKeys hroot
  cases hrun : selector.resolve none root with
  | ok records =>
    have hlevel := level_of_resolve hroot hfree hrun
    cases htwin : selector.resolve none other with
    | ok twins => exact hlevel.sameOutcome hreordered hroot (level_of_resolve hother hfree htwin)
    | error error =>
      obtain ⟨stop, cause, hfirst, -⟩ := (resolve_eq_error_iff hother hfree).mp htwin
      exact absurd ((failsAt_reordered_iff hreordered hroot).mpr hfirst.fails)
        (not_failsAt_of_resolve hroot hfree hrun stop cause)
  | error error =>
    obtain ⟨stop, cause, hfirst, rfl⟩ := (resolve_eq_error_iff hroot hfree).mp hrun
    cases htwin : selector.resolve none other with
    | ok twins =>
      exact absurd ((failsAt_reordered_iff hreordered hroot).mp hfirst.fails)
        (not_failsAt_of_resolve hother hfree htwin stop cause)
    | error error =>
      obtain ⟨last, fault, hlast, rfl⟩ := (resolve_eq_error_iff hother hfree).mp htwin
      rw [hfirst.cause_eq hreordered hroot hlast]
      exact .failed _

end Selector

namespace Value

theorem select_sameOutcome (hreordered : root.Reordered other) (hroot : root.DistinctKeys)
    (text : String) :
    Selector.SameOutcome (root.select none text) (other.select none text) := by
  cases hparse : Selector.parse text with
  | error error =>
    rw [select, select, hparse]
    exact .failed error
  | ok selector =>
    rw [select_eq_resolve hparse, select_eq_resolve hparse]
    exact Selector.resolve_reordered hreordered hroot (Selector.rangeFree_of_parse hparse)

/-- Nothing depends on the order of entries while no native predicate is asked. In two documents
that differ in nothing else, a path leads to values that differ in nothing else or to nothing, a
selector fails with the same error or finds the same, and a change at every position of a selector
counts the same and makes documents that again differ in nothing else. -/
theorem select_reordered (hroot : root.DistinctKeys) (hreordered : root.Reordered other) :
    (∀ path, Option.Rel Reordered (root.get? path) (other.get? path)) ∧
      (∀ text, Selector.SameOutcome (root.select none text) (other.select none text)) ∧
      ∀ (text : String) (change : Change), change.DistinctKeys →
        (root.changeAll none text change).1 = (other.changeAll none text change).1 ∧
          (root.changeAll none text change).2.Reordered (other.changeAll none text change).2 := by
  refine ⟨hreordered.get? hroot, select_sameOutcome hreordered hroot, fun text change hchange ↦ ?_⟩
  have hother := hreordered.distinctKeys hroot
  have hsame := select_sameOutcome hreordered hroot text
  cases hselect : root.select none text with
  | error error =>
    rw [hselect] at hsame
    generalize htwin : other.select none text = outcome at hsame
    cases hsame
    simpa [changeAll, hselect, htwin] using hreordered
  | ok records =>
    rw [hselect] at hsame
    generalize htwin : other.select none text = outcome at hsame
    cases outcome with
    | error error => cases hsame
    | ok twins =>
      obtain ⟨selector, hparse, -⟩ := Except.bind_eq_ok_iff.mp hselect
      rw [changeAll_eq_changeAt hselect, changeAll_eq_changeAt htwin]
      exact hreordered.changeAt hroot hchange hsame.perm_path
        (pairwise_apart_of_select hroot hparse hselect)
        (pairwise_apart_of_select hother hparse htwin) 0

/-- The document of rows with its keys in the other order. -/
def rowsReordered : Value :=
  .object [("b", .array [.null]), ("a", .array [.object [("c", .int 1)], .object [], .int 5])]

theorem reordered_rowsReordered : rowsDocument.Reordered rowsReordered :=
  .object rfl (List.forall₂_same.mpr fun value _ ↦ .refl value) (List.Perm.swap _ _ _)

/-- A query that chooses both keys comes to them in another order. Of the four elements two take a
new key and the others are replaced. -/
theorem select_reordered_rows :
    rowsDocument.DistinctKeys ∧ rowsDocument.Reordered rowsReordered ∧
      Selector.SameOutcome (rowsDocument.select none "?(@!=c)[..]")
        (rowsReordered.select none "?(@!=c)[..]") ∧
      (rowsReordered.changeAll none "?(@!=c)[..]" (.replace (.object [("d", .null)]))).1 = 4 ∧
      (rowsDocument.changeAll none "?(@!=c)[..]" (.replace (.object [("d", .null)]))).2.Reordered
        (rowsReordered.changeAll none "?(@!=c)[..]" (.replace (.object [("d", .null)]))).2 := by
  obtain ⟨-, hselect, hchange⟩ := select_reordered rowsDocument_distinctKeys reordered_rowsReordered
  have hobject : (Change.replace (.object [("d", .null)])).DistinctKeys := by
    simp [Change.DistinctKeys, DistinctKeys, DistinctKeysEntries]
  obtain ⟨hcount, htrees⟩ := hchange "?(@!=c)[..]" _ hobject
  have hrows : rowsDocument.select none "?(@!=c)[..]" =
      .ok [⟨[.key "a", .index 0], some (.object [("c", .int 1)])⟩,
        ⟨[.key "a", .index 1], some (.object [])⟩, ⟨[.key "a", .index 2], some (.int 5)⟩,
        ⟨[.key "b", .index 0], some .null⟩] := by with_unfolding_all rfl
  refine ⟨rowsDocument_distinctKeys, reordered_rowsReordered, hselect _, ?_, htrees⟩
  rw [← hcount, changeAll_eq_changeAt hrows]
  rfl

end Value

end DocTree
