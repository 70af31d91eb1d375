/-!
# Entries of an object

An object keeps its entries in the order in which their keys were first written. `insert` writes a
key: a key that is present keeps its position and takes the new value, a new key goes last. `get?`
reads a key, and `erase` removes one and keeps the order of the others. Entries built by `insert`
alone have pairwise distinct keys (`nodup_keys_insert`, `nodup_keys_ofList`).
-/

set_option autoImplicit false
set_option relaxedAutoImplicit false

namespace DocTree

/-- Key-value pairs in insertion order. -/
abbrev Entries (α : Type) := List (String × α)

namespace Entries

variable {α : Type}

/-- The keys, in order. -/
def keys (entries : Entries α) : List String := entries.map Prod.fst

/-- The value under `key`. -/
def get? (entries : Entries α) (key : String) : Option α :=
  match entries with
  | [] => none
  | (name, value) :: rest => if name = key then some value else get? rest key

/-- Writes `value` under `key`: in place when the key is present, at the end otherwise. -/
def insert (entries : Entries α) (key : String) (value : α) : Entries α :=
  match entries with
  | [] => [(key, value)]
  | (name, old) :: rest =>
    if name = key then (name, value) :: rest else (name, old) :: insert rest key value

/-- Removes `key` and keeps the order of the other entries. -/
def erase (entries : Entries α) (key : String) : Entries α :=
  entries.filter fun entry ↦ entry.1 ≠ key

/-- Writes every pair of `incoming`, first to last. -/
def insertAll (entries incoming : Entries α) : Entries α :=
  incoming.foldl (fun written entry ↦ written.insert entry.1 entry.2) entries

/-- The entries that result from writing the pairs one after another: of two pairs with one key the
first fixes the position and the last the value. -/
def ofList (pairs : List (String × α)) : Entries α := insertAll [] pairs

@[simp] theorem keys_nil : keys ([] : Entries α) = [] := rfl

@[simp] theorem keys_cons (entry : String × α) (rest : Entries α) :
    keys (entry :: rest) = entry.1 :: keys rest := rfl

/-- Writing a key keeps the keys, and appends it when it is new. -/
theorem keys_insert (entries : Entries α) (key : String) (value : α) :
    (entries.insert key value).keys =
      if key ∈ entries.keys then entries.keys else entries.keys ++ [key] := by
  induction entries with
  | nil =>
    rw [keys_nil, if_neg List.not_mem_nil]
    rfl
  | cons entry rest ih =>
    obtain ⟨name, old⟩ := entry
    by_cases hname : name = key
    · simp [insert, hname]
    · by_cases hrest : key ∈ keys rest <;>
        simp [insert, hname, ih, hrest, Ne.symm hname]

/-- Distinct keys stay distinct when a key is written. -/
theorem nodup_keys_insert {entries : Entries α} (hdistinct : entries.keys.Nodup) (key : String)
    (value : α) : (entries.insert key value).keys.Nodup := by
  rw [keys_insert]
  split
  · exact hdistinct
  · rename_i hnew
    rw [List.nodup_append]
    refine ⟨hdistinct, by simp, fun name hname other hother ↦ ?_⟩
    rw [List.mem_singleton.mp hother]
    exact fun heq ↦ hnew (heq ▸ hname)

/-- Distinct keys stay distinct when pairs are written one after another. -/
theorem nodup_keys_insertAll (incoming : Entries α) :
    ∀ {entries : Entries α}, entries.keys.Nodup → (entries.insertAll incoming).keys.Nodup := by
  induction incoming with
  | nil => exact fun hdistinct ↦ hdistinct
  | cons entry rest ih => exact fun hdistinct ↦ ih (nodup_keys_insert hdistinct _ _)

/-- Entries built from any list of pairs have distinct keys. -/
theorem nodup_keys_ofList (pairs : List (String × α)) : (ofList pairs).keys.Nodup :=
  nodup_keys_insertAll pairs List.nodup_nil

@[simp] theorem get?_insert_self (entries : Entries α) (key : String) (value : α) :
    (entries.insert key value).get? key = some value := by
  induction entries with
  | nil => simp [insert, get?]
  | cons entry rest ih =>
    obtain ⟨name, old⟩ := entry
    by_cases hname : name = key <;> simp [insert, get?, hname, ih]

/-- Writing one key leaves every other key as it was. -/
theorem get?_insert_of_ne {entries : Entries α} {key other : String} (hne : key ≠ other)
    (value : α) : (entries.insert key value).get? other = entries.get? other := by
  induction entries with
  | nil => simp [insert, get?, hne]
  | cons entry rest ih =>
    obtain ⟨name, old⟩ := entry
    by_cases hname : name = key
    · subst hname
      simp [insert, get?, hne]
    · by_cases hother : name = other
      · subst hother
        simp [insert, get?, hname]
      · simp [insert, get?, hname, hother, ih]

end Entries

end DocTree
