import DocTree.Proofs.Value.Children
import Mathlib.Data.List.Forall2
import Mathlib.Order.Nat

/-!
# Sorted values

`SortedAs value other` says that `other` is `value` with the entries of every object at every depth
sorted by key, and nothing else changed. It does not say how they are sorted. `sortedAs_sortKeys`
shows that `Value.sortKeys` sorts in this sense when keys are distinct.
-/

set_option autoImplicit false
set_option relaxedAutoImplicit false

namespace DocTree

namespace Entries

variable {α : Type} {entries : Entries α}

theorem sort_perm (entries : Entries α) : entries.sort.Perm entries := List.mergeSort_perm _ _

/-- Distinct keys are sorted into strictly increasing order. -/
theorem pairwise_keys_sort (hdistinct : entries.keys.Nodup) :
    entries.sort.keys.Pairwise (· < ·) := by
  have hle : entries.sort.keys.Pairwise (· ≤ ·) := by
    unfold keys sort
    rw [List.pairwise_map]
    refine (List.pairwise_mergeSort ?_ ?_ entries).imp of_decide_eq_true
    · intro first second third hfirst hsecond
      rw [decide_eq_true_eq] at hfirst hsecond ⊢
      exact String.le_trans hfirst hsecond
    · intro first second
      rw [Bool.or_eq_true, decide_eq_true_eq, decide_eq_true_eq]
      exact String.le_total _ _
  have hne : entries.sort.keys.Pairwise (· ≠ ·) :=
    ((sort_perm entries).map Prod.fst).nodup_iff.mpr hdistinct
  refine (hle.and hne).imp fun {first second} hkeys ↦ ?_
  by_contra hlt
  exact hkeys.2 (String.le_antisymm hkeys.1 (String.not_lt.mp hlt))

end Entries

namespace Value

/-- `other` is `value` with the entries of every object sorted by key: first the values of the
entries are sorted in place, and then the entries. -/
inductive SortedAs : Value → Value → Prop
  | scalar {value : Value} (hscalar : value.isContainer = false) : SortedAs value value
  | array {items others : List Value} (hitems : List.Forall₂ SortedAs items others) :
      SortedAs (.array items) (.array others)
  | object {entries inside ordered : Entries Value} (hkeys : inside.keys = entries.keys)
      (hvalues : List.Forall₂ SortedAs (entries.map Prod.snd) (inside.map Prod.snd))
      (hperm : ordered.Perm inside) (hordered : ordered.keys.Pairwise (· < ·)) :
      SortedAs (.object entries) (.object ordered)

theorem sortKeysItems_eq_map (items : List Value) : sortKeysItems items = items.map sortKeys := by
  induction items with
  | nil => rfl
  | cons item items ih => rw [sortKeysItems, ih, List.map_cons]

theorem sortKeysEntries_eq_map (entries : Entries Value) :
    sortKeysEntries entries = entries.map fun entry ↦ (entry.1, entry.2.sortKeys) := by
  induction entries with
  | nil => rfl
  | cons entry rest ih =>
    obtain ⟨key, value⟩ := entry
    rw [sortKeysEntries, ih, List.map_cons]

theorem keys_sortKeysEntries (entries : Entries Value) :
    Entries.keys (sortKeysEntries entries) = entries.keys := by
  rw [sortKeysEntries_eq_map, Entries.keys, Entries.keys, List.map_map]
  rfl

theorem sortKeys_of_scalar {value : Value} (hscalar : value.isContainer = false) :
    value.sortKeys = value := by
  cases value with
  | array items => cases hscalar
  | object entries => cases hscalar
  | _ => simp [sortKeys]

theorem DistinctKeys.sortKeys {value : Value} (hvalue : value.DistinctKeys) :
    value.sortKeys.DistinctKeys := by
  induction value using childInduction with
  | scalar value hscalar => exact (sortKeys_of_scalar hscalar).symm ▸ hvalue
  | array items ih =>
    rw [DistinctKeys, distinctKeysItems_iff] at hvalue
    rw [Value.sortKeys, DistinctKeys, distinctKeysItems_iff, sortKeysItems_eq_map]
    exact List.forall_mem_map.mpr fun item hitem ↦ ih item hitem (hvalue item hitem)
  | object entries ih =>
    rw [DistinctKeys, distinctKeysEntries_iff] at hvalue
    have hperm := Entries.sort_perm (sortKeysEntries entries)
    rw [Value.sortKeys, DistinctKeys, distinctKeysEntries_iff]
    have hkeys : (Entries.keys (sortKeysEntries entries)).Nodup := by
      rw [keys_sortKeysEntries]
      exact hvalue.1
    refine ⟨(hperm.map Prod.fst).nodup_iff.mpr hkeys, fun entry hentry ↦ ?_⟩
    · rw [hperm.mem_iff, sortKeysEntries_eq_map, List.mem_map] at hentry
      obtain ⟨original, horiginal, rfl⟩ := hentry
      exact ih original horiginal (hvalue.2 original horiginal)

/-- Sorting keys sorts the entries of every object. -/
theorem sortedAs_sortKeys {value : Value} (hvalue : value.DistinctKeys) :
    SortedAs value value.sortKeys := by
  induction value using childInduction with
  | scalar value hscalar =>
    rw [sortKeys_of_scalar hscalar]
    exact .scalar hscalar
  | array items ih =>
    rw [DistinctKeys, distinctKeysItems_iff] at hvalue
    rw [Value.sortKeys, sortKeysItems_eq_map]
    exact .array (List.forall₂_map_right_iff.mpr
      (List.forall₂_same.mpr fun item hitem ↦ ih item hitem (hvalue item hitem)))
  | object entries ih =>
    rw [DistinctKeys, distinctKeysEntries_iff] at hvalue
    have hkeys := keys_sortKeysEntries entries
    have hvalues : (sortKeysEntries entries).map Prod.snd =
        entries.map fun entry ↦ entry.2.sortKeys := by
      rw [sortKeysEntries_eq_map, List.map_map]
      rfl
    rw [Value.sortKeys]
    refine .object hkeys ?_ (Entries.sort_perm _) (Entries.pairwise_keys_sort (hkeys ▸ hvalue.1))
    rw [hvalues, List.forall₂_map_left_iff, List.forall₂_map_right_iff, List.forall₂_same]
    exact fun entry hentry ↦ ih entry hentry (hvalue.2 entry hentry)

/-- Sorting keys does not change how deep containers nest. -/
theorem depth_sortKeys (value : Value) : value.sortKeys.depth = value.depth := by
  induction value using childInduction with
  | scalar value hscalar => rw [sortKeys_of_scalar hscalar]
  | array items ih =>
    rw [Value.sortKeys, depth, depth, sortKeysItems_eq_map, Nat.add_right_cancel_iff]
    refine eq_of_forall_ge_iff fun limit ↦ ?_
    rw [depthItems_le_iff, depthItems_le_iff, List.forall_mem_map]
    exact forall₂_congr fun item hitem ↦ by rw [ih item hitem]
  | object entries ih =>
    rw [Value.sortKeys, depth, depth, Nat.add_right_cancel_iff]
    refine eq_of_forall_ge_iff fun limit ↦ ?_
    have hperm := Entries.sort_perm (sortKeysEntries entries)
    simp only [depthEntries_le_iff, hperm.mem_iff]
    rw [sortKeysEntries_eq_map, List.forall_mem_map]
    exact forall₂_congr fun entry hentry ↦ by rw [ih entry hentry]

/-- Sorting keys neither adds nor removes a float that is infinite or NaN. -/
theorem nonFinite?_sortKeys_eq_none_iff {value : Value} :
    value.sortKeys.nonFinite? = none ↔ value.nonFinite? = none := by
  induction value using childInduction with
  | scalar value hscalar => rw [sortKeys_of_scalar hscalar]
  | array items ih =>
    rw [Value.sortKeys, nonFinite?, nonFinite?, nonFiniteItems?_eq_none_iff,
      nonFiniteItems?_eq_none_iff, sortKeysItems_eq_map, List.forall_mem_map]
    exact forall₂_congr ih
  | object entries ih =>
    have hperm := Entries.sort_perm (sortKeysEntries entries)
    rw [Value.sortKeys, nonFinite?, nonFinite?, nonFiniteEntries?_eq_none_iff,
      nonFiniteEntries?_eq_none_iff]
    simp only [hperm.mem_iff]
    rw [sortKeysEntries_eq_map, List.forall_mem_map]
    exact forall₂_congr ih

end Value

end DocTree
