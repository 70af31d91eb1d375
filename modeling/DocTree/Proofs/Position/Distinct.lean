import DocTree.Proofs.Position.Slot
import DocTree.Proofs.Value.Distinct

/-!
# Writes keep keys distinct

A document with distinct keys keeps them when a value with distinct keys is put into one of its
slots (`DistinctKeys.fill`), and what a change makes of a slot has distinct keys if the values that
the change writes have them (`DistinctKeys.outcomeAt?`).
-/

set_option autoImplicit false
set_option relaxedAutoImplicit false

namespace DocTree

namespace Entries

variable {α : Type} {entries incoming : Entries α} {key : String} {value : α} {p : α → Prop}

theorem forall_mem_insert (hentries : ∀ entry ∈ entries, p entry.2) (hvalue : p value) :
    ∀ entry ∈ entries.insert key value, p entry.2 := by
  induction entries with
  | nil => simpa [insert] using hvalue
  | cons entry rest ih =>
    obtain ⟨name, old⟩ := entry
    obtain ⟨hfirst, hrest⟩ := List.forall_mem_cons.mp hentries
    by_cases hname : name = key
    · simp only [insert, hname, if_true]
      exact List.forall_mem_cons.mpr ⟨hvalue, hrest⟩
    · simp only [insert, hname, if_false]
      exact List.forall_mem_cons.mpr ⟨hfirst, ih hrest⟩

theorem forall_mem_insertAll (hentries : ∀ entry ∈ entries, p entry.2)
    (hincoming : ∀ entry ∈ incoming, p entry.2) :
    ∀ entry ∈ entries.insertAll incoming, p entry.2 := by
  induction incoming generalizing entries with
  | nil => exact hentries
  | cons entry rest ih =>
    obtain ⟨hfirst, hrest⟩ := List.forall_mem_cons.mp hincoming
    exact ih (forall_mem_insert hentries hfirst) hrest

end Entries

/-- The values that a change writes have distinct keys. -/
def Change.DistinctKeys : Change → Prop
  | replace incoming => incoming.DistinctKeys
  | append item => item.DistinctKeys
  | put _ item => item.DistinctKeys

namespace Value

variable {value new root : Value} {change : Change} {path : Path}

theorem distinctKeys_object {entries : Entries Value} : (object entries).DistinctKeys ↔
    entries.keys.Nodup ∧ ∀ entry ∈ entries, entry.2.DistinctKeys := by
  rw [DistinctKeys, distinctKeysEntries_iff]

theorem distinctKeys_array {items : List Value} :
    (array items).DistinctKeys ↔ ∀ item ∈ items, item.DistinctKeys := by
  rw [DistinctKeys, distinctKeysItems_iff]

theorem distinctKeys_of_scalar {scalar : Value} (hscalar : scalar.isContainer = false) :
    scalar.DistinctKeys := by
  cases scalar with
  | array items => cases hscalar
  | object entries => cases hscalar
  | _ => trivial

/-- An object that is built from any pairs has distinct keys if the values of all pairs have. -/
theorem distinctKeys_ofList {pairs : List (String × Value)}
    (hpairs : ∀ pair ∈ pairs, pair.2.DistinctKeys) : (object (Entries.ofList pairs)).DistinctKeys :=
  distinctKeys_object.mpr ⟨Entries.nodup_keys_ofList pairs,
    Entries.forall_mem_insertAll (List.forall_mem_nil _) hpairs⟩

theorem DistinctKeys.insert {entries : Entries Value} (hentries : (object entries).DistinctKeys)
    (key : String) (hnew : new.DistinctKeys) :
    (object (Entries.insert entries key new)).DistinctKeys := by
  obtain ⟨hkeys, hvalues⟩ := distinctKeys_object.mp hentries
  exact distinctKeys_object.mpr
    ⟨Entries.nodup_keys_insert hkeys key new, Entries.forall_mem_insert hvalues hnew⟩

theorem DistinctKeys.withChild (hvalue : value.DistinctKeys) (segment : Segment)
    (hnew : new.DistinctKeys) : (value.withChild segment new).DistinctKeys := by
  cases value with
  | object entries =>
    cases segment with
    | key name => exact hvalue.insert name hnew
    | index position => exact hvalue
  | array items =>
    cases segment with
    | key name => exact hvalue
    | index position =>
      rw [distinctKeys_array] at hvalue
      refine distinctKeys_array.mpr fun item hitem ↦ ?_
      rcases List.mem_or_eq_of_mem_set hitem with hold | rfl
      · exact hvalue item hold
      · exact hnew
  | _ => exact hvalue

theorem DistinctKeys.fill (hvalue : value.DistinctKeys) (path : Path) (hnew : new.DistinctKeys) :
    (value.fill path new).DistinctKeys := by
  induction path generalizing value with
  | nil => rwa [fill_nil]
  | cons segment rest ih =>
    cases hchild : value.child? segment with
    | some next =>
      rw [fill_cons_of_child hchild]
      exact hvalue.withChild segment (ih (hvalue.child? hchild))
    | none =>
      rw [fill_cons_of_missing hchild]
      exact hvalue.withChild segment hnew

theorem DistinctKeys.merge (hvalue : value.DistinctKeys) (hnew : new.DistinctKeys) :
    (value.merge new).DistinctKeys := by
  unfold Value.merge
  split
  · rw [distinctKeys_array] at hvalue hnew ⊢
    exact List.forall_mem_append.mpr ⟨hvalue, hnew⟩
  · rw [distinctKeys_object] at hvalue hnew ⊢
    exact ⟨Entries.nodup_keys_insertAll _ hvalue.1, Entries.forall_mem_insertAll hvalue.2 hnew.2⟩
  · exact hnew

theorem DistinctKeys.outcome? (hvalue : value.DistinctKeys) (hchange : change.DistinctKeys)
    (houtcome : change.outcome? value = some new) : new.DistinctKeys := by
  cases change with
  | replace incoming =>
    obtain rfl : value.merge incoming = new := Option.some_inj.mp houtcome
    exact hvalue.merge hchange
  | append item =>
    cases value with
    | array items =>
      obtain rfl : array (items ++ [item]) = new := Option.some_inj.mp houtcome
      rw [distinctKeys_array] at hvalue ⊢
      exact List.forall_mem_append.mpr ⟨hvalue, List.forall_mem_singleton.mpr hchange⟩
    | _ => cases houtcome
  | put key item =>
    cases value with
    | object entries =>
      obtain rfl : object (Entries.insert entries key item) = new := Option.some_inj.mp houtcome
      exact hvalue.insert key hchange
    | _ => cases houtcome

theorem DistinctKeys.outcomeAt? (hroot : root.DistinctKeys) (hchange : change.DistinctKeys)
    (houtcome : root.outcomeAt? change path = some new) : new.DistinctKeys := by
  obtain ⟨slot, hslot, hnew⟩ := Option.bind_eq_some_iff.mp houtcome
  cases slot with
  | some target =>
    have htarget : root.get? path = some target := by
      rw [get?_eq_slot?, hslot]
      rfl
    exact (hroot.get? htarget).outcome? hchange hnew
  | none =>
    cases change with
    | replace incoming =>
      obtain rfl : incoming = new := Option.some_inj.mp hnew
      exact hchange
    | append item => cases hnew
    | put key item => cases hnew

theorem distinctKeys_change (hroot : root.DistinctKeys) (hchange : change.DistinctKeys)
    (path : Path) : (root.change path change).DistinctKeys := by
  rw [Value.change, change?_eq]
  cases houtcome : root.outcomeAt? change path with
  | none => exact hroot
  | some new => exact hroot.fill path (hroot.outcomeAt? hchange houtcome)

end Value

end DocTree
