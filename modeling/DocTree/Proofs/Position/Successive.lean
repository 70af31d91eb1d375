import DocTree.Proofs.Position.Commute
import DocTree.Proofs.Position.Repeat

/-!
# One write after another

A replacement fills the slot of its path, whatever is in it (`Value.set_of_slot?`), so what a second
one finds there is what the first one left. Two values written one after another therefore come to
one write if merging them into a value one after another comes to one merge
(`Value.set_set_of_merge`). Arrays are joined from the left or from the right. Objects are merged in
the order in which their keys are first written, and this order is the same whether the second
object is merged into the first beforehand or into the target afterwards
(`Entries.insertAll_insertAll`). So writes of two containers of one kind collapse (`Value.set_set`).
-/

set_option autoImplicit false
set_option relaxedAutoImplicit false

namespace DocTree

namespace Entries

variable {α : Type} {entries incoming : Entries α} {key : String}

/-- A key that is there may be written before or after entries with other keys. -/
theorem insertAll_insert_of_not_mem (hthere : key ∈ entries.keys) (hkey : key ∉ incoming.keys)
    (value : α) :
    (entries.insert key value).insertAll incoming =
      (entries.insertAll incoming).insert key value := by
  induction incoming generalizing entries with
  | nil => rfl
  | cons entry rest ih =>
    rw [keys_cons, List.mem_cons, not_or] at hkey
    have hkept : key ∈ (entries.insert entry.1 entry.2).keys := by
      rw [keys_insert]
      split
      · exact hthere
      · exact List.mem_append_left _ hthere
    rw [insertAll_cons, insertAll_cons, insert_comm hkey.1 (.inl hthere), ih hkept hkey.2]

/-- Writing a key among the incoming entries is writing it after them. -/
theorem insertAll_insert (hincoming : incoming.keys.Nodup) (entries : Entries α) (key : String)
    (value : α) :
    entries.insertAll (incoming.insert key value) =
      (entries.insertAll incoming).insert key value := by
  induction incoming generalizing entries with
  | nil => rfl
  | cons entry rest ih =>
    obtain ⟨name, old⟩ := entry
    rw [keys_cons, List.nodup_cons] at hincoming
    by_cases hname : name = key
    · subst hname
      have hthere : name ∈ (entries.insert name old).keys :=
        get?_isSome_iff.mp (by rw [get?_insert_self]; rfl)
      have hinsert : insert ((name, old) :: rest) name value = (name, value) :: rest := by
        simp [insert]
      rw [hinsert, insertAll_cons, insertAll_cons,
        ← insertAll_insert_of_not_mem hthere hincoming.1, insert_insert]
    · have hinsert : insert ((name, old) :: rest) key value =
          (name, old) :: insert rest key value := by
        simp [insert, hname]
      rw [hinsert, insertAll_cons, insertAll_cons, ih hincoming.2]

/-- Entries that are written one list after another are merged with each other beforehand or not. -/
theorem insertAll_insertAll (hincoming : incoming.keys.Nodup) (entries later : Entries α) :
    (entries.insertAll incoming).insertAll later =
      entries.insertAll (incoming.insertAll later) := by
  induction later generalizing incoming with
  | nil => rfl
  | cons entry rest ih =>
    rw [insertAll_cons, ← insertAll_insert hincoming, ih (nodup_keys_insert hincoming _ _),
      insertAll_cons]

end Entries

namespace Value

variable {root first second joined : Value} {path : Path} {slot : Option Value}

/-! ### Two merges -/

theorem merge_array_array (value : Value) (items more : List Value) :
    (value.merge (array items)).merge (array more) = value.merge (array (items ++ more)) := by
  cases value with
  | array old => exact congrArg array (List.append_assoc old items more)
  | _ => rfl

/-- Containers of one kind are merged into a value one after another or merged with each other
beforehand. -/
theorem merge_merge_of_kind_eq (hfirst : first.DistinctKeys) (hcontainer : first.isContainer)
    (hkind : second.kind = first.kind) (value : Value) :
    (value.merge first).merge second = value.merge (first.merge second) := by
  cases first with
  | array items =>
    cases second with
    | array more => exact merge_array_array value items more
    | _ => cases hkind
  | object incoming =>
    cases second with
    | object later =>
      cases value with
      | object entries =>
        exact congrArg object (Entries.insertAll_insertAll hfirst.keys entries later)
      | _ => rfl
    | _ => cases hkind
  | _ => cases hcontainer

/-! ### Two writes -/

/-- A replacement merges into what is there, and fills a slot that is open. -/
theorem set_of_slot? (hslot : root.slot? path = some slot) (incoming : Value) :
    root.set path incoming = root.fill path (slot.elim incoming (·.merge incoming)) := by
  refine change_of_outcomeAt? ?_
  rw [outcomeAt?, hslot, Option.bind_some]
  cases slot <;> rfl

theorem set_of_slot?_eq_none (hslot : root.slot? path = none) (incoming : Value) :
    root.set path incoming = root :=
  change_of_outcomeAt?_eq_none (by rw [outcomeAt?, hslot, Option.bind_none])

theorem set_nil (root incoming : Value) : root.set [] incoming = root.merge incoming := by
  rw [set_of_slot? (slot?_nil root), fill_nil, Option.elim_some]

/-- Two writes come to one if the two merges do. -/
theorem set_set_of_merge (hjoined : first.merge second = joined)
    (hmerge : ∀ value : Value, (value.merge first).merge second = value.merge joined)
    (root : Value) (path : Path) :
    (root.set path first).set path second = root.set path joined := by
  cases hslot : root.slot? path with
  | none => rw [set_of_slot?_eq_none hslot, set_of_slot?_eq_none hslot, set_of_slot?_eq_none hslot]
  | some slot =>
    have hopen : (root.slot? path).isSome := by
      rw [hslot]
      rfl
    rw [set_of_slot? hslot, set_of_slot? (slot?_fill_self hopen _), fill_fill hopen,
      set_of_slot? hslot, Option.elim_some]
    cases slot with
    | none => exact congrArg _ hjoined
    | some old => exact congrArg _ (hmerge old)

/-- Two containers of one kind that are written at one path come to the second written into the
first, wherever the path leads. So an object may be written twice, and an array in two pieces. -/
theorem set_set (hfirst : first.DistinctKeys) (hcontainer : first.isContainer)
    (hkind : second.kind = first.kind) (root : Value) (path : Path) :
    (root.set path first).set path second = root.set path (first.set [] second) ∧
      (first.kind = .object → (root.set path first).set path first = root.set path first) ∧
        ∀ items more, (root.set path (array items)).set path (array more) =
          root.set path (array (items ++ more)) := by
  refine ⟨?_, fun hobject ↦ ?_, fun items more ↦ ?_⟩
  · rw [set_nil]
    exact set_set_of_merge rfl (merge_merge_of_kind_eq hfirst hcontainer hkind) root path
  · have harray : first.kind ≠ .array := by simp [hobject]
    exact set_set_of_merge (merge_self hfirst harray) (merge_merge hfirst harray) root path
  · exact set_set_of_merge rfl (fun value ↦ merge_array_array value items more) root path

/-- A document with one object in another. -/
def cupboard : Value := .object [("cup", .object [("blue", .int 1), ("red", .int 2)])]

/-- Both objects bring a key that is there and a key that is new, and one key twice. -/
theorem set_set_cupboard :
    (cupboard.set [.key "cup"] (.object [("white", .int 3), ("red", .int 4)])).set [.key "cup"]
        (.object [("black", .int 5), ("white", .int 6), ("blue", .int 7)]) =
      .object [("cup", .object [("blue", .int 7), ("red", .int 4), ("white", .int 6),
        ("black", .int 5)])] := by
  have hfirst : DistinctKeys (.object [("white", .int 3), ("red", .int 4)]) := by
    simp [DistinctKeys, DistinctKeysEntries]
  have hkind : kind (.object [("black", .int 5), ("white", .int 6), ("blue", .int 7)]) =
      kind (.object [("white", .int 3), ("red", .int 4)]) := rfl
  rw [(set_set hfirst rfl hkind cupboard [.key "cup"]).1]
  rfl

end Value

end DocTree
