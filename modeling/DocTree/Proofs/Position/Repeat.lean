import DocTree.Proofs.Position.Slot
import DocTree.Proofs.Value.Distinct

/-!
# Writing what is there

Writing an entry, an element or a whole slot with what it holds changes nothing
(`Value.fill_of_slot?`). Entries with distinct keys that are written into an object are all found
there (`Entries.get?_insertAll`), so what an object was merged with may be merged into it again
without a change (`Value.merge_merge`). Only arrays grow with every merge.
-/

set_option autoImplicit false
set_option relaxedAutoImplicit false

namespace DocTree

namespace Entries

variable {α : Type} {entries incoming : Entries α} {key : String} {value : α}

/-- An entry that is there is written without a change. -/
theorem insert_of_get? (hget : entries.get? key = some value) :
    entries.insert key value = entries := by
  induction entries with
  | nil => cases hget
  | cons entry rest ih =>
    obtain ⟨name, old⟩ := entry
    by_cases hname : name = key
    · simp only [get?, hname, if_true, Option.some_inj] at hget
      simp [insert, hname, hget]
    · simp only [get?, hname, if_false] at hget
      simp [insert, hname, ih hget]

theorem insertAll_cons (entries : Entries α) (entry : String × α) (rest : Entries α) :
    entries.insertAll (entry :: rest) = (entries.insert entry.1 entry.2).insertAll rest := rfl

theorem get?_insertAll_of_not_mem (hkey : key ∉ incoming.keys) :
    (entries.insertAll incoming).get? key = entries.get? key := by
  induction incoming generalizing entries with
  | nil => rfl
  | cons entry rest ih =>
    rw [keys_cons, List.mem_cons, not_or] at hkey
    rw [insertAll_cons, ih hkey.2, get?_insert_of_ne (Ne.symm hkey.1)]

/-- Every entry that is written is found, if no key is written twice. -/
theorem get?_insertAll (hdistinct : incoming.keys.Nodup) (hmem : (key, value) ∈ incoming) :
    (entries.insertAll incoming).get? key = some value := by
  induction incoming generalizing entries with
  | nil => cases hmem
  | cons entry rest ih =>
    rw [keys_cons, List.nodup_cons] at hdistinct
    rw [insertAll_cons]
    rcases List.mem_cons.mp hmem with rfl | hrest
    · rw [get?_insertAll_of_not_mem hdistinct.1, get?_insert_self]
    · exact ih hdistinct.2 hrest

/-- Entries that are all there are written without a change. -/
theorem insertAll_of_get? (hget : ∀ entry ∈ incoming, entries.get? entry.1 = some entry.2) :
    entries.insertAll incoming = entries := by
  induction incoming with
  | nil => rfl
  | cons entry rest ih =>
    obtain ⟨hentry, hrest⟩ := List.forall_mem_cons.mp hget
    rw [insertAll_cons, insert_of_get? hentry, ih hrest]

end Entries

namespace Value

theorem merge_self {value : Value} (hvalue : value.DistinctKeys) (harray : value.kind ≠ .array) :
    value.merge value = value := by
  cases value with
  | array items => exact absurd rfl harray
  | object entries =>
    exact congrArg object
      (Entries.insertAll_of_get? fun entry hentry ↦ Entries.get?_of_mem hvalue.keys hentry)
  | _ => rfl

/-- A value that is no array may be merged in again without a change. -/
theorem merge_merge {incoming : Value} (hincoming : incoming.DistinctKeys)
    (harray : incoming.kind ≠ .array) (value : Value) :
    (value.merge incoming).merge incoming = value.merge incoming := by
  cases incoming with
  | array items => exact absurd rfl harray
  | object added =>
    cases value with
    | object entries =>
      exact congrArg object
        (Entries.insertAll_of_get? fun entry hentry ↦ Entries.get?_insertAll hincoming.keys hentry)
    | _ => exact merge_self hincoming harray
  | _ => cases value <;> rfl

/-! ### Slots -/

variable {root value : Value} {path : Path} {segment : Segment}

theorem withChild_of_child? (hchild : root.child? segment = some value) :
    root.withChild segment value = root := by
  cases root with
  | object entries =>
    cases segment with
    | key name => exact congrArg object (Entries.insert_of_get? hchild)
    | index position => rfl
  | array items =>
    cases segment with
    | key name => rfl
    | index position =>
      obtain ⟨hbound, hitem⟩ := List.getElem?_eq_some_iff.mp hchild
      rw [withChild, ← hitem, List.set_getElem_self]
  | _ => rfl

/-- Filling a slot with the value that it holds changes nothing. -/
theorem fill_of_slot? (hslot : root.slot? path = some (some value)) :
    root.fill path value = root := by
  induction path generalizing root with
  | nil =>
    rw [slot?_nil, Option.some_inj, Option.some_inj] at hslot
    rw [fill_nil, hslot]
  | cons segment rest ih =>
    cases hchild : root.child? segment with
    | some next =>
      rw [slot?_cons_of_child hchild] at hslot
      rw [fill_cons_of_child hchild, ih hslot, withChild_of_child? hchild]
    | none =>
      rw [slot?_cons_of_missing hchild] at hslot
      split at hslot <;> simp at hslot

end Value

end DocTree
