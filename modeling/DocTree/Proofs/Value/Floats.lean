import DocTree.Proofs.Value.Order

/-!
# Changing the floats of a value

`Value.mapFloats` changes every float of a value and nothing else. It leaves a value as it is
exactly when it changes none of the floats that a position of the value leads to
(`mapFloats_eq_self_iff`), and it does not matter whether floats are changed before or after keys
are sorted (`mapFloats_arrange`).
-/

set_option autoImplicit false
set_option relaxedAutoImplicit false

namespace DocTree.Value

mutual

/-- The value with every float changed. -/
def mapFloats (change : Float → Float) : Value → Value
  | float number => float (change number)
  | array items => array (mapFloatsItems change items)
  | object entries => object (mapFloatsEntries change entries)
  | value => value

/-- The elements with every float in them changed. -/
def mapFloatsItems (change : Float → Float) : List Value → List Value
  | [] => []
  | item :: items => mapFloats change item :: mapFloatsItems change items

/-- The entries with every float in their values changed. -/
def mapFloatsEntries (change : Float → Float) : List (String × Value) → List (String × Value)
  | [] => []
  | (key, value) :: rest => (key, mapFloats change value) :: mapFloatsEntries change rest

end

variable {change : Float → Float} {value : Value}

theorem mapFloatsItems_eq_map (items : List Value) :
    mapFloatsItems change items = items.map (mapFloats change) := by
  induction items with
  | nil => rfl
  | cons item items ih => rw [mapFloatsItems, ih, List.map_cons]

theorem mapFloatsEntries_eq_map (entries : Entries Value) :
    mapFloatsEntries change entries =
      entries.map fun entry ↦ (entry.1, entry.2.mapFloats change) := by
  induction entries with
  | nil => rfl
  | cons entry rest ih =>
    obtain ⟨key, value⟩ := entry
    rw [mapFloatsEntries, ih, List.map_cons]

theorem keys_mapFloatsEntries (entries : Entries Value) :
    Entries.keys (mapFloatsEntries change entries) = entries.keys := by
  rw [mapFloatsEntries_eq_map, Entries.keys, Entries.keys, List.map_map]
  rfl

theorem map_eq_self_iff {α : Type} {f : α → α} {items : List α} :
    items.map f = items ↔ ∀ item ∈ items, f item = item := by
  conv_lhs => rhs; rw [← List.map_id items]
  exact List.map_inj_left

/-- A value is left as it is exactly when none of its floats is changed. -/
theorem mapFloats_eq_self_iff (hdistinct : value.DistinctKeys) :
    value.mapFloats change = value ↔ value.EveryFloat fun number ↦ change number = number := by
  induction value using childInduction with
  | scalar value hscalar =>
    rw [everyFloat_scalar_iff hscalar]
    cases value with
    | array items => cases hscalar
    | object entries => cases hscalar
    | _ => simp [mapFloats]
  | array items ih =>
    rw [DistinctKeys, distinctKeysItems_iff] at hdistinct
    rw [mapFloats, Value.array.injEq, mapFloatsItems_eq_map, map_eq_self_iff, everyFloat_array_iff]
    exact forall₂_congr fun item hitem ↦ ih item hitem (hdistinct item hitem)
  | object entries ih =>
    rw [DistinctKeys, distinctKeysEntries_iff] at hdistinct
    rw [mapFloats, Value.object.injEq, mapFloatsEntries_eq_map, map_eq_self_iff,
      everyFloat_object_iff hdistinct.1]
    refine forall₂_congr fun entry hentry ↦ ?_
    rw [← ih entry hentry (hdistinct.2 entry hentry), Prod.ext_iff]
    exact and_iff_right rfl

/-- Keys may be sorted before floats are changed or after it. -/
theorem mapFloats_sortKeys (value : Value) :
    value.sortKeys.mapFloats change = (value.mapFloats change).sortKeys := by
  induction value using childInduction with
  | scalar value hscalar =>
    rw [sortKeys_of_scalar hscalar]
    cases value with
    | array items => cases hscalar
    | object entries => cases hscalar
    | _ => simp [mapFloats, sortKeys]
  | array items ih =>
    rw [sortKeys, mapFloats, mapFloats, sortKeys, sortKeysItems_eq_map, mapFloatsItems_eq_map,
      mapFloatsItems_eq_map, sortKeysItems_eq_map, List.map_map, List.map_map]
    exact congrArg array (List.map_congr_left ih)
  | object entries ih =>
    have hentries :
        (sortKeysEntries entries).map (fun entry ↦ (entry.1, entry.2.mapFloats change)) =
          sortKeysEntries (mapFloatsEntries change entries) := by
      rw [sortKeysEntries_eq_map, sortKeysEntries_eq_map, mapFloatsEntries_eq_map, List.map_map,
        List.map_map]
      exact List.map_congr_left fun entry hentry ↦ congrArg (entry.1, ·) (ih entry hentry)
    rw [sortKeys, mapFloats, mapFloats, sortKeys, mapFloatsEntries_eq_map, ← hentries]
    exact congrArg object (List.map_mergeSort fun _ _ _ _ ↦ rfl)

theorem mapFloats_arrange (value : Value) (sorted : Bool) :
    (value.arrange sorted).mapFloats change = (value.mapFloats change).arrange sorted := by
  cases sorted with
  | false => rfl
  | true => exact mapFloats_sortKeys value

end DocTree.Value
