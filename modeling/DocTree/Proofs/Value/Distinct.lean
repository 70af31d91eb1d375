import DocTree.Proofs.Position.Child

/-!
# Values with distinct keys

Every value inside one with distinct keys has distinct keys (`DistinctKeys.get?`). In an object with
distinct keys an entry is determined by its key, so that the position of an entry and its key lead
to the same value (`Entries.get?_of_getElem?`).
-/

set_option autoImplicit false
set_option relaxedAutoImplicit false

namespace DocTree

namespace Entries

variable {α : Type} {entries : Entries α}

theorem getElem?_keys (entries : Entries α) (position : Nat) :
    entries.keys[position]? = entries[position]?.map Prod.fst := List.getElem?_map

theorem mem_of_get? {key : String} {value : α} (hget : entries.get? key = some value) :
    (key, value) ∈ entries := by
  induction entries with
  | nil => simp [get?] at hget
  | cons entry rest ih =>
    obtain ⟨name, first⟩ := entry
    by_cases hname : name = key
    · simp only [get?, hname, if_true, Option.some_inj] at hget
      rw [hname, hget]
      exact List.mem_cons_self
    · simp only [get?, hname, if_false] at hget
      exact List.mem_cons_of_mem _ (ih hget)

/-- Each entry of an object with distinct keys is the one that its key finds. -/
theorem get?_of_mem (hdistinct : entries.keys.Nodup) {key : String} {value : α}
    (hentry : (key, value) ∈ entries) : entries.get? key = some value := by
  induction entries with
  | nil => cases hentry
  | cons entry rest ih =>
    obtain ⟨name, first⟩ := entry
    rw [keys_cons, List.nodup_cons] at hdistinct
    rcases List.mem_cons.mp hentry with heq | hrest
    · rw [Prod.mk.injEq] at heq
      simp [get?, heq.1, heq.2]
    · have hname : name ≠ key := by
        rintro rfl
        exact hdistinct.1 (List.mem_map.mpr ⟨_, hrest, rfl⟩)
      simp only [get?, hname, if_false]
      exact ih hdistinct.2 hrest

theorem get?_of_getElem? (hdistinct : entries.keys.Nodup) {position : Nat} {entry : String × α}
    (hentry : entries[position]? = some entry) : entries.get? entry.1 = some entry.2 :=
  get?_of_mem hdistinct (List.mem_of_getElem? hentry)

theorem insert_of_not_mem {key : String} {value : α} (hnew : key ∉ entries.keys) :
    entries.insert key value = entries ++ [(key, value)] := by
  induction entries with
  | nil => rfl
  | cons entry rest ih =>
    obtain ⟨name, old⟩ := entry
    rw [keys_cons, List.mem_cons, not_or] at hnew
    have hname : name ≠ key := Ne.symm hnew.1
    simp only [insert, hname, if_false, ih hnew.2, List.cons_append]

/-- Entries with distinct keys are written one after another without a change. -/
theorem insertAll_eq_append (incoming : Entries α) : ∀ {entries : Entries α},
    (keys (entries ++ incoming)).Nodup → entries.insertAll incoming = entries ++ incoming := by
  induction incoming with
  | nil => exact fun _ ↦ (List.append_nil _).symm
  | cons entry rest ih =>
    intro entries hdistinct
    have hsplit : keys (entries ++ entry :: rest) = keys entries ++ entry.1 :: keys rest := by
      simp [keys]
    have hnew : entry.1 ∉ keys entries := by
      rw [hsplit, List.nodup_append] at hdistinct
      exact fun hmem ↦ hdistinct.2.2 _ hmem _ List.mem_cons_self rfl
    have happend : entries ++ entry :: rest = (entries ++ [entry]) ++ rest := by
      rw [List.append_assoc, List.singleton_append]
    rw [happend] at hdistinct ⊢
    rw [← ih hdistinct, ← insert_of_not_mem hnew]
    rfl

theorem ofList_eq_self (hdistinct : entries.keys.Nodup) : ofList entries = entries :=
  insertAll_eq_append entries hdistinct

theorem get?_isSome_iff {key : String} : (entries.get? key).isSome ↔ key ∈ entries.keys := by
  induction entries with
  | nil => simp [get?]
  | cons entry rest ih =>
    obtain ⟨name, first⟩ := entry
    by_cases hname : name = key
    · simp [get?, hname]
    · simp [get?, hname, ih, Ne.symm hname]

theorem fst_mem_keys {entry : String × α} (hentry : entry ∈ entries) : entry.1 ∈ entries.keys :=
  List.mem_map.mpr ⟨entry, hentry, rfl⟩

theorem get?_eq_none_iff {key : String} : entries.get? key = none ↔ key ∉ entries.keys := by
  rw [← get?_isSome_iff, Option.not_isSome_iff_eq_none]

end Entries

namespace Value

theorem distinctKeysItems_iff {items : List Value} :
    DistinctKeysItems items ↔ ∀ item ∈ items, item.DistinctKeys := by
  induction items with
  | nil => simp [DistinctKeysItems]
  | cons item items ih => simp [DistinctKeysItems, ih]

theorem distinctKeysEntries_iff {entries : Entries Value} :
    DistinctKeysEntries entries ↔ ∀ entry ∈ entries, entry.2.DistinctKeys := by
  induction entries with
  | nil => simp [DistinctKeysEntries]
  | cons entry rest ih =>
    obtain ⟨key, value⟩ := entry
    simp [DistinctKeysEntries, ih]

theorem DistinctKeys.keys {entries : Entries Value} (hvalue : (object entries).DistinctKeys) :
    entries.keys.Nodup := by
  rw [DistinctKeys] at hvalue
  exact hvalue.1

theorem DistinctKeys.child? {value next : Value} {segment : Segment} (hvalue : value.DistinctKeys)
    (hchild : value.child? segment = some next) : next.DistinctKeys := by
  cases value with
  | object entries =>
    cases segment with
    | key name =>
      rw [DistinctKeys, distinctKeysEntries_iff] at hvalue
      exact hvalue.2 _ (Entries.mem_of_get? hchild)
    | index position => simp [Value.child?, atIndex?, items?] at hchild
  | array items =>
    cases segment with
    | key name => simp [Value.child?, atKey?, entries?] at hchild
    | index position =>
      rw [DistinctKeys, distinctKeysItems_iff] at hvalue
      exact hvalue next (List.mem_of_getElem? hchild)
  | _ => cases segment <;> simp [Value.child?, atKey?, atIndex?, entries?, items?] at hchild

theorem DistinctKeys.get? {value next : Value} {path : Path} (hvalue : value.DistinctKeys)
    (hget : value.get? path = some next) : next.DistinctKeys := by
  induction path generalizing value with
  | nil =>
    rw [get?_nil, Option.some_inj] at hget
    exact hget ▸ hvalue
  | cons segment rest ih =>
    rw [get?_cons, Option.bind_eq_some_iff] at hget
    obtain ⟨child, hchild, hrest⟩ := hget
    exact ih (hvalue.child? hchild) hrest

end Value

end DocTree
