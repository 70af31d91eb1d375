import DocTree.Proofs.Outcome
import DocTree.Proofs.Position.Order
import DocTree.Proofs.Query.Positions
import DocTree.Proofs.Value.Distinct
import DocTree.Selector.Resolve

/-!
# One step of a selector

A filter that meets a value chooses children of it. `Filter.segments` lists them by their segments,
and expanding a record follows each of them (`Filter.expand_eq`). What a filter means is said
without a list: `Filter.Selects` holds of the segments that it takes from a value, and the list
holds exactly those (`mem_segments_iff`) in the order of the children (`segments_sorted`). Only a
literal key or index takes a child that is not there (`Filter.Selects.child?`).
-/

set_option autoImplicit false
set_option relaxedAutoImplicit false

namespace DocTree

/-- The record of a child of the value in a record. -/
def Record.descend (record : Record) (value : Value) (segment : Segment) : Record :=
  record.child segment (value.child? segment)

namespace Filter

/-- The children that a filter chooses from a value, in order. -/
def segments (predicate : Option NativePredicate) (filter : Filter) (value : Value) :
    Except SelectorError (List Segment) :=
  match filter, value with
  | .key name, .object _ => .ok [.key name]
  | .keyQuery query, .object entries =>
    ((query.positions predicate ((Entries.keys entries).map .string)).mapError .evaluation).map
      fun positions ↦ positions.filterMap fun position ↦ (Entries.keys entries)[position]?.map .key
  | .index position, .array _ => .ok [.index position]
  | .elementQuery query, .array items =>
    ((query.positions predicate items).mapError .evaluation).map fun positions ↦
      positions.map .index
  | .range bounds, .array items => .ok ((bounds.resolve items.length).map .index)
  | _, _ => .ok []

/-- Whether a filter takes a child from a value: a literal key or index whether or not the child is
there, and a query or a range only children that are. -/
def Selects (predicate : Option NativePredicate) (filter : Filter) (value : Value)
    (segment : Segment) : Prop :=
  match filter, value, segment with
  | .key name, .object _, .key chosen => chosen = name
  | .keyQuery query, .object entries, .key chosen =>
    chosen ∈ Entries.keys entries ∧ query.Accepts predicate (.string chosen)
  | .index position, .array _, .index chosen => chosen = position
  | .elementQuery query, .array items, .index chosen =>
    ∃ item, items[chosen]? = some item ∧ query.Accepts predicate item
  | .range bounds, .array items, .index chosen => chosen ∈ bounds.resolve items.length
  | _, _, _ => False

/-- The literal filter for a segment. -/
def ofSegment : Segment → Filter
  | .key name => .key name
  | .index position => .index position

/-- The query of a filter over keys or over elements. -/
def query? : Filter → Option Query
  | .keyQuery query => some query
  | .elementQuery query => some query
  | _ => none

/-- Whether the query of a filter, if it has one, is no range. -/
def rangeFree : Filter → Bool
  | .keyQuery query => !query.isRange
  | .elementQuery query => !query.isRange
  | _ => true

variable {predicate : Option NativePredicate} {filter : Filter} {value : Value}

theorem rangeFree_of_query? (hquery : ∀ query, filter.query? = some query →
    query.isRange = false) : filter.rangeFree := by
  cases filter <;> simp_all [query?, rangeFree]

/-! ### Expanding a record -/

theorem entriesAt_eq {entries : Entries Value} (hdistinct : entries.keys.Nodup) (record : Record)
    (positions : List Nat) : entriesAt record entries positions =
      (positions.filterMap fun position ↦ entries.keys[position]?.map Segment.key).map
        (record.descend (.object entries)) := by
  rw [entriesAt, List.map_filterMap]
  congr 1
  funext position
  cases hentry : entries[position]? with
  | none => simp [Entries.getElem?_keys, hentry]
  | some entry =>
    simp [Entries.getElem?_keys, hentry, Record.descend,
      Entries.get?_of_getElem? hdistinct hentry]

theorem expand_eq {record : Record} (hdistinct : value.DistinctKeys)
    (hsource : record.source = some value) : filter.expand predicate record =
      (filter.segments predicate value).map fun segments ↦ segments.map (record.descend value) := by
  cases value with
  | object entries =>
    cases filter with
    | key name => simp [expand, segments, hsource, Except.map, Record.descend]
    | keyQuery query =>
      simp only [expand, segments, hsource]
      cases query.positions predicate ((Entries.keys entries).map .string) with
      | error cause => rfl
      | ok positions =>
        simp [Except.mapError, Except.map, entriesAt_eq hdistinct.keys]
    | _ => simp [expand, segments, hsource, Except.map]
  | array items =>
    cases filter with
    | index position => simp [expand, segments, hsource, Except.map, Record.descend]
    | elementQuery query =>
      simp only [expand, segments, hsource]
      cases query.positions predicate items with
      | error cause => rfl
      | ok positions =>
        simp [Except.mapError, Except.map, elementsAt, Record.descend]
    | range bounds => simp [expand, segments, hsource, Except.map, elementsAt, Record.descend]
    | _ => simp [expand, segments, hsource, Except.map]
  | _ => cases filter <;> simp [expand, segments, hsource, Except.map]

theorem expand_of_missing {record : Record} (hsource : record.source = none) :
    filter.expand predicate record = .ok [] := by
  cases filter <;> simp [expand, hsource]

/-! ### The children that a filter takes -/

variable {segments : List Segment}

theorem mem_segments_iff (hfilter : filter.rangeFree)
    (hrun : filter.segments predicate value = .ok segments) (segment : Segment) :
    segment ∈ segments ↔ filter.Selects predicate value segment := by
  cases value with
  | object entries =>
    cases filter with
    | key name =>
      obtain rfl : [Segment.key name] = segments := Except.ok.inj hrun
      cases segment <;> simp [Selects]
    | keyQuery query =>
      obtain ⟨positions, hpositions, rfl⟩ := Except.map_eq_ok_iff.mp hrun
      rw [Except.mapError_eq_ok_iff] at hpositions
      have hmem := Query.mem_positions_iff (by simpa [rangeFree] using hfilter) hpositions
      cases segment with
      | index position => simp [Selects]
      | key chosen =>
        simp only [Selects, List.mem_filterMap, hmem]
        constructor
        · rintro ⟨position, ⟨candidate, hcandidate, haccepts⟩, hchosen⟩
          obtain ⟨name, hname, hkey⟩ := Option.map_eq_some_iff.mp hchosen
          obtain rfl : name = chosen := Segment.key.inj hkey
          rw [List.getElem?_map, hname, Option.map_some, Option.some_inj] at hcandidate
          exact ⟨List.mem_of_getElem? hname, hcandidate ▸ haccepts⟩
        · rintro ⟨hchosen, haccepts⟩
          obtain ⟨position, hposition⟩ := List.mem_iff_getElem?.mp hchosen
          exact ⟨position, ⟨.string chosen, by simp [hposition], haccepts⟩, by simp [hposition]⟩
    | _ =>
      obtain rfl : [] = segments := Except.ok.inj hrun
      cases segment <;> simp [Selects]
  | array items =>
    cases filter with
    | index position =>
      obtain rfl : [Segment.index position] = segments := Except.ok.inj hrun
      cases segment <;> simp [Selects]
    | elementQuery query =>
      obtain ⟨positions, hpositions, rfl⟩ := Except.map_eq_ok_iff.mp hrun
      rw [Except.mapError_eq_ok_iff] at hpositions
      have hmem := Query.mem_positions_iff (by simpa [rangeFree] using hfilter) hpositions
      cases segment <;> simp [Selects, hmem]
    | range bounds =>
      obtain rfl : (bounds.resolve items.length).map Segment.index = segments :=
        Except.ok.inj hrun
      cases segment <;> simp [Selects]
    | _ =>
      obtain rfl : [] = segments := Except.ok.inj hrun
      cases segment <;> simp [Selects]
  | _ =>
    have hnil : segments = [] := by
      cases filter <;> simpa [Filter.segments, eq_comm] using hrun
    subst hnil
    cases filter <;> simp [Selects]

/-- The children that a filter chooses are listed in the order of the document. -/
theorem segments_sorted (hdistinct : value.DistinctKeys)
    (hrun : filter.segments predicate value = .ok segments) : segments.Pairwise value.Before := by
  cases value with
  | object entries =>
    cases filter with
    | keyQuery query =>
      obtain ⟨positions, hpositions, rfl⟩ := Except.map_eq_ok_iff.mp hrun
      rw [Except.mapError_eq_ok_iff] at hpositions
      refine List.Pairwise.filterMap _ (fun i j hlt first hfirst second hsecond ↦ ?_)
        (Query.positions_sorted hpositions)
      obtain ⟨firstName, hfirstName, rfl⟩ := Option.map_eq_some_iff.mp hfirst
      obtain ⟨secondName, hsecondName, rfl⟩ := Option.map_eq_some_iff.mp hsecond
      exact Value.before_of_keys hdistinct.keys hfirstName hsecondName hlt
    | key name =>
      obtain rfl : [Segment.key name] = segments := Except.ok.inj hrun
      exact List.pairwise_singleton _ _
    | _ =>
      obtain rfl : [] = segments := Except.ok.inj hrun
      exact List.Pairwise.nil
  | array items =>
    have hindices : ∀ {positions : List Nat}, positions.Pairwise (· < ·) →
        (∀ position ∈ positions, position < items.length) →
        (positions.map Segment.index).Pairwise (Value.array items).Before := by
      intro positions hsorted hbound
      rw [List.pairwise_map]
      refine hsorted.imp_of_mem fun hfirst hsecond hlt ↦ ?_
      exact Value.before_of_lt hlt (hbound _ hsecond)
    cases filter with
    | index position =>
      obtain rfl : [Segment.index position] = segments := Except.ok.inj hrun
      exact List.pairwise_singleton _ _
    | elementQuery query =>
      obtain ⟨positions, hpositions, rfl⟩ := Except.map_eq_ok_iff.mp hrun
      rw [Except.mapError_eq_ok_iff] at hpositions
      exact hindices (Query.positions_sorted hpositions) fun _ hmem ↦
        Query.lt_length_of_mem_positions hpositions hmem
    | range bounds =>
      obtain rfl : (bounds.resolve items.length).map Segment.index = segments :=
        Except.ok.inj hrun
      exact hindices (bounds.resolve_sorted items.length) fun _ hmem ↦ Range.lt_of_mem_resolve hmem
    | _ =>
      obtain rfl : [] = segments := Except.ok.inj hrun
      exact List.Pairwise.nil
  | _ =>
    have hnil : segments = [] := by
      cases filter <;> simpa [Filter.segments, eq_comm] using hrun
    rw [hnil]
    exact List.Pairwise.nil

/-- A child that is selected but not there was named literally. -/
theorem Selects.child? {segment : Segment} (hselects : filter.Selects predicate value segment)
    (hmissing : value.child? segment = none) : filter = ofSegment segment := by
  cases segment with
  | key name =>
    cases value with
    | object entries =>
      cases filter with
      | key literal => exact congrArg Filter.key (show name = literal from hselects).symm
      | keyQuery query =>
        have hpresent := Entries.get?_isSome_iff.mpr hselects.1
        rw [Value.child?_object_key] at hmissing
        rw [hmissing] at hpresent
        cases hpresent
      | _ => cases hselects
    | _ => cases filter <;> cases hselects
  | index position =>
    cases value with
    | array items =>
      rw [Value.child?_array_index] at hmissing
      cases filter with
      | index literal => exact congrArg Filter.index (show position = literal from hselects).symm
      | elementQuery query =>
        obtain ⟨item, hitem, -⟩ := hselects
        rw [hmissing] at hitem
        cases hitem
      | range bounds =>
        have hbound := Range.lt_of_mem_resolve hselects
        rw [List.getElem?_eq_none_iff] at hmissing
        omega
      | _ => cases hselects
    | _ => cases filter <;> cases hselects

end Filter

end DocTree
