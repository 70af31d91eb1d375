import DocTree.Proofs.Json.RoundTrip
import DocTree.Proofs.Value.Reordered

/-!
# Sorted JSON is canonical

Values with distinct keys that differ in nothing but the order of entries become equal when their
keys are sorted (`Value.sortKeys_eq_iff_reordered`). A text of JSON with any indent determines its
value, since a reader that takes the nearest float for a number, and has room for all containers,
reads the value back (`Json.write_inj`). `Json.parse?` is another reader: it may miss the nearest
float, and its containers nest less deep. So two values are written with sorted keys as one text
exactly when they differ in nothing but the order of entries (`renderJson_eq_iff_reordered`).
-/

set_option autoImplicit false
set_option relaxedAutoImplicit false

namespace DocTree

namespace Entries

variable {α : Type} {entries others : Entries α}

theorem eq_of_keys_of_values (hkeys : entries.keys = others.keys)
    (hvalues : entries.map Prod.snd = others.map Prod.snd) : entries = others := by
  have hentries := List.zip_unzip entries
  have hothers := List.zip_unzip others
  rw [List.unzip_eq_map] at hentries hothers
  rw [← hentries, ← hothers, hvalues]
  exact congrArg (List.zip · _) hkeys

/-- Sorting erases the order of entries with distinct keys. -/
theorem sort_eq_of_perm (hperm : others.Perm entries) (hdistinct : entries.keys.Nodup) :
    entries.sort = others.sort := by
  have hothers : others.keys.Nodup := (hperm.map Prod.fst).nodup_iff.mpr hdistinct
  have hsorted : entries.sort.Pairwise fun first second ↦ first.1 < second.1 :=
    List.pairwise_map.mp (pairwise_keys_sort hdistinct)
  have hordered : others.sort.Pairwise fun first second ↦ first.1 < second.1 :=
    List.pairwise_map.mp (pairwise_keys_sort hothers)
  refine List.Perm.eq_of_pairwise (fun first second _ _ hlt hgt ↦ ?_) hsorted hordered
    ((sort_perm entries).trans (hperm.symm.trans (sort_perm others).symm))
  exact absurd hgt (String.lt_asymm hlt)

end Entries

namespace Value

variable {value other : Value}

/-- Sorting keys changes nothing but the order of entries. -/
theorem SortedAs.reordered (hsorted : SortedAs value other) : Reordered value other := by
  induction value using childInduction generalizing other with
  | scalar value hscalar =>
    cases hsorted with
    | scalar => exact .scalar hscalar
    | array => cases hscalar
    | object => cases hscalar
  | array items ih =>
    cases hsorted with
    | scalar hscalar => cases hscalar
    | array hitems =>
      exact .array (forall₂_imp_of_mem hitems fun item hitem _ hpair ↦ ih item hitem hpair)
  | object entries ih =>
    cases hsorted with
    | scalar hscalar => cases hscalar
    | object hkeys hvalues hperm hordered =>
      refine .object hkeys (forall₂_imp_of_mem hvalues ?_) hperm
      exact List.forall_mem_map.mpr fun entry hentry _ hpair ↦ ih entry hentry hpair

/-- Entries are equal once their values are sorted when they have the same keys, and under each of
them values that are equal once they are sorted. -/
theorem sortKeysEntries_eq {entries others : Entries Value} (hkeys : entries.keys = others.keys)
    (hvalues : List.Forall₂ (fun item twin ↦ item.sortKeys = twin.sortKeys) (entries.map Prod.snd)
      (others.map Prod.snd)) : sortKeysEntries entries = sortKeysEntries others := by
  refine Entries.eq_of_keys_of_values ?_ ?_
  · rw [keys_sortKeysEntries, keys_sortKeysEntries, hkeys]
  · have hsorted := map_eq_map_of_forall₂ hvalues
    rw [List.map_map, List.map_map] at hsorted
    rw [sortKeysEntries_eq_map, sortKeysEntries_eq_map, List.map_map, List.map_map]
    exact hsorted

/-- Values that differ in nothing but the order of entries are equal once their keys are sorted. -/
theorem Reordered.sortKeys_eq (hreordered : Reordered value other) (hvalue : value.DistinctKeys) :
    value.sortKeys = other.sortKeys := by
  induction value using childInduction generalizing other with
  | scalar value hscalar =>
    cases hreordered with
    | scalar => rfl
    | array => cases hscalar
    | object => cases hscalar
  | array items ih =>
    cases hreordered with
    | scalar hscalar => cases hscalar
    | array hitems =>
      rw [distinctKeys_array] at hvalue
      have hequal := forall₂_imp_of_mem (s := fun item twin ↦ item.sortKeys = twin.sortKeys) hitems
        fun item hitem _ hpair ↦ ih item hitem hpair (hvalue item hitem)
      rw [Value.sortKeys, Value.sortKeys, sortKeysItems_eq_map, sortKeysItems_eq_map,
        map_eq_map_of_forall₂ hequal]
  | object entries ih =>
    cases hreordered with
    | scalar hscalar => cases hscalar
    | @object _ inside others hkeys hvalues hperm =>
      rw [distinctKeys_object] at hvalue
      have hequal := forall₂_imp_of_mem (s := fun item twin ↦ item.sortKeys = twin.sortKeys) hvalues
        (List.forall_mem_map.mpr fun entry hentry _ hpair ↦
          ih entry hentry hpair (hvalue.2 entry hentry))
      have hinside := sortKeysEntries_eq hkeys.symm hequal
      have hdistinct : (Entries.keys (sortKeysEntries inside)).Nodup := by
        rw [keys_sortKeysEntries, hkeys]
        exact hvalue.1
      have hothers : (sortKeysEntries others).Perm (sortKeysEntries inside) := by
        rw [sortKeysEntries_eq_map, sortKeysEntries_eq_map]
        exact hperm.map _
      rw [Value.sortKeys, Value.sortKeys, hinside, Entries.sort_eq_of_perm hothers hdistinct]

/-- Values with distinct keys are equal once their keys are sorted exactly when they differ in
nothing but the order of entries. -/
theorem sortKeys_eq_iff_reordered (hvalue : value.DistinctKeys) (hother : other.DistinctKeys) :
    value.sortKeys = other.sortKeys ↔ Reordered value other := by
  constructor
  · intro hsorted
    refine reordered_of_outlineAt? hvalue hother fun path ↦ ?_
    have hfirst := (sortedAs_sortKeys hvalue).reordered.outlineAt? hvalue path
    have hsecond := (sortedAs_sortKeys hother).reordered.outlineAt? hother path
    rw [hfirst, hsecond, hsorted]
  · exact fun hreordered ↦ hreordered.sortKeys_eq hvalue

end Value

namespace Json

/-- A value is read back from its text when floats are read as the nearest ones. -/
theorem nearest_write {value : Value} {indent limit : Nat} (hdistinct : value.DistinctKeys)
    (hfinite : value.nonFinite? = none) (hdepth : value.depth ≤ limit) :
    value? Numeral.nearest? limit (write indent 0 value) = some (value, []) := by
  have hends : EndsNumber [] := fun _ hmem ↦ absurd hmem (by simp)
  have hread := value?_write readsFloats_nearest indent value hdistinct hfinite limit 0 [] hends
  have hsame : value.mapFloats id = value :=
    (Value.mapFloats_eq_self_iff hdistinct).mpr fun _ _ _ ↦ rfl
  rwa [List.append_nil, if_pos hdepth, hsame] at hread

/-- A text determines the value that is written as it, however deep its containers nest. -/
theorem write_inj {value other : Value} {indent : Nat} (hvalue : value.DistinctKeys)
    (hother : other.DistinctKeys) (hfinite : value.nonFinite? = none)
    (hfiniteOther : other.nonFinite? = none) :
    write indent 0 value = write indent 0 other ↔ value = other := by
  refine ⟨fun htext ↦ ?_, fun heq ↦ congrArg (write indent 0) heq⟩
  have hread := @nearest_write value indent _ hvalue hfinite (Nat.le_max_left _ other.depth)
  have htwin := @nearest_write other indent _ hother hfiniteOther (Nat.le_max_right value.depth _)
  rw [htext, htwin] at hread
  exact (Prod.mk.inj (Option.some.inj hread)).1.symm

end Json

variable {value other : Value} {indent : Nat} {text more : String}

theorem renderJson_eq_ok_iff {options : RenderOptions} :
    renderJson value options = .ok text ↔
      (value.arrange options.sortKeys).nonFinite? = none ∧
        text = .ofList (Json.write options.indent 0 (value.arrange options.sortKeys)) := by
  unfold renderJson
  cases hfinite : (value.arrange options.sortKeys).nonFinite? with
  | none => simp [hfinite, eq_comm]
  | some number => simp [hfinite]

/-- Two values with distinct keys are written with sorted keys as one text, with any indent, exactly
when they differ in nothing but the order of entries. -/
theorem renderJson_eq_iff_reordered (hvalue : value.DistinctKeys) (hother : other.DistinctKeys)
    (hrender : renderJson value ⟨indent, true⟩ = .ok text)
    (hmore : renderJson other ⟨indent, true⟩ = .ok more) :
    text = more ↔ Value.Reordered value other := by
  obtain ⟨hfinite, rfl⟩ := renderJson_eq_ok_iff.mp hrender
  obtain ⟨hfiniteOther, rfl⟩ := renderJson_eq_ok_iff.mp hmore
  rw [String.ofList_inj, ← Value.sortKeys_eq_iff_reordered hvalue hother]
  exact Json.write_inj hvalue.sortKeys hother.sortKeys hfinite hfiniteOther

/-- A document with an object in another one, both with their keys out of order. -/
def shelf : Value :=
  .object [("b", .array [.object [("d", .int 1), ("c", .float (Float.ofBits 0x3ff8000000000000))]]),
    ("a", .null)]

/-- The document with the entries of both objects in order. -/
def shelfInOrder : Value :=
  .object [("a", .null),
    ("b", .array [.object [("c", .float (Float.ofBits 0x3ff8000000000000)), ("d", .int 1)]])]

/-- The document as it is written with its keys sorted and one space for each level. -/
def shelfText : String :=
  "\x7b\n \"a\": null,\n \"b\": [\n  \x7b\n   \"c\": 1.5,\n   \"d\": 1\n  \x7d\n ]\n\x7d"

theorem sortKeys_shelf :
    shelf.sortKeys = shelfInOrder ∧ shelfInOrder.sortKeys = shelfInOrder := by
  simp [shelf, shelfInOrder, Value.sortKeys, Value.sortKeysEntries, Value.sortKeysItems,
    Entries.sort, List.mergeSort]

/-- Both documents are written as one text, so they differ in nothing but the order of entries. -/
theorem renderJson_eq_iff_reordered_shelf :
    shelf.DistinctKeys ∧ shelfInOrder.DistinctKeys ∧
      renderJson shelf ⟨1, true⟩ = .ok shelfText ∧
        renderJson shelfInOrder ⟨1, true⟩ = .ok shelfText ∧
          Value.Reordered shelf shelfInOrder := by
  have hdistinct : shelf.DistinctKeys ∧ shelfInOrder.DistinctKeys := by
    simp [shelf, shelfInOrder, Value.DistinctKeys, Value.DistinctKeysEntries,
      Value.DistinctKeysItems]
  have hinOrder : renderJson shelfInOrder ⟨1, false⟩ = .ok shelfText := by
    rw [← Except.toOption_eq_some_iff]
    decide +kernel
  have hrender : renderJson shelf ⟨1, true⟩ = .ok shelfText := by
    have harranged : renderJson shelf ⟨1, true⟩ = renderJson shelf.sortKeys ⟨1, false⟩ := rfl
    rw [harranged, sortKeys_shelf.1, hinOrder]
  have hmore : renderJson shelfInOrder ⟨1, true⟩ = .ok shelfText := by
    have harranged : renderJson shelfInOrder ⟨1, true⟩ =
        renderJson shelfInOrder.sortKeys ⟨1, false⟩ := rfl
    rw [harranged, sortKeys_shelf.2, hinOrder]
  exact ⟨hdistinct.1, hdistinct.2, hrender, hmore,
    (renderJson_eq_iff_reordered hdistinct.1 hdistinct.2 hrender hmore).mp rfl⟩

end DocTree
