import DocTree.Proofs.Position.Distinct
import DocTree.Yaml.Document
import Mathlib.Data.List.Forall2
import Mathlib.Data.List.Perm.Subperm

/-!
# From YAML nodes to values

A node becomes a value by writing the pairs of each mapping into an object, one after another, under
the texts of their keys. So the value has distinct keys (`Node.distinctKeys_toValue`), and it has an
entry for every pair exactly when the keys of no mapping share a text (`Node.keeps_toValue_iff`).
Different keys may share one: of the pairs whose keys have a text the last gives its value to the
entry (`Node.atKey?_toValue_mapping`), and the others are lost (`Node.size_toValue_sharedKeys`).
-/

set_option autoImplicit false
set_option relaxedAutoImplicit false

namespace DocTree

namespace Entries

variable {α : Type} {entries others : Entries α} {key : String}

theorem get?_append : get? (entries ++ others) key = (entries.get? key).or (others.get? key) := by
  induction entries with
  | nil => rfl
  | cons entry rest ih =>
    obtain ⟨name, value⟩ := entry
    by_cases hname : name = key
    · simp [get?, hname]
    · simp [get?, hname, ih]

theorem get?_map {β : Type} (items : List β) (name : β → String) (value : β → α) :
    get? (items.map fun item ↦ (name item, value item)) key =
      (items.find? fun item ↦ name item = key).map value := by
  induction items with
  | nil => rfl
  | cons item rest ih =>
    by_cases hname : name item = key
    · simp [get?, hname]
    · simp [get?, hname, ih]

/-- Of the entries that are written under a key the last is found, and what was there before if
there is none. -/
theorem get?_insertAll_eq (entries incoming : Entries α) (key : String) :
    (entries.insertAll incoming).get? key =
      (get? incoming.reverse key).or (entries.get? key) := by
  induction incoming generalizing entries with
  | nil => rfl
  | cons entry rest ih =>
    obtain ⟨name, value⟩ := entry
    have hstep : entries.insertAll ((name, value) :: rest) =
        (entries.insert name value).insertAll rest := rfl
    rw [hstep, ih, List.reverse_cons, get?_append, Option.or_assoc]
    by_cases hname : name = key
    · subst hname
      simp [get?]
    · simp [get?, hname, get?_insert_of_ne hname]

theorem get?_ofList (pairs : List (String × α)) (key : String) :
    (ofList pairs).get? key = get? pairs.reverse key := by
  rw [ofList, get?_insertAll_eq]
  exact Option.or_none

/-- Entries built from pairs are as many as these exactly when the pairs have distinct keys. -/
theorem length_ofList_eq_iff {pairs : Entries α} :
    (ofList pairs).length = pairs.length ↔ pairs.keys.Nodup := by
  constructor
  · intro hlength
    have hsubset : (ofList pairs).keys ⊆ pairs.keys := by
      intro key hkey
      rw [← get?_isSome_iff, get?_ofList, get?_isSome_iff] at hkey
      simpa [keys] using hkey
    have hperm : (ofList pairs).keys.Perm pairs.keys :=
      ((nodup_keys_ofList pairs).subperm hsubset).perm_of_length_le (by simp [keys, hlength])
    exact hperm.nodup_iff.mp (nodup_keys_ofList pairs)
  · exact fun hdistinct ↦ congrArg List.length (ofList_eq_self hdistinct)

end Entries

namespace Yaml.Node

/-- A property of scalars that every other node has when its elements, the values of its pairs or
its content have it is a property of every node. -/
@[elab_as_elim]
theorem childInduction {motive : Node → Prop} (null : motive null)
    (bool : ∀ flag, motive (bool flag)) (int : ∀ number, motive (int number))
    (float : ∀ number, motive (float number)) (string : ∀ text, motive (string text))
    (sequence : ∀ items : List Node, (∀ item ∈ items, motive item) → motive (sequence items))
    (mapping : ∀ pairs : List (Node × Node), (∀ pair ∈ pairs, motive pair.2) →
      motive (mapping pairs))
    (tagged : ∀ tag content, motive content → motive (tagged tag content))
    (node : Node) : motive node := by
  refine @Node.rec motive (fun items ↦ ∀ item ∈ items, motive item)
    (fun pairs ↦ ∀ pair ∈ pairs, motive pair.2) (fun pair ↦ motive pair.2)
    null bool int float string sequence mapping tagged ?_ ?_ ?_ ?_ ?_ node
  · exact List.forall_mem_nil _
  · exact fun item items hitem hitems ↦ List.forall_mem_cons.mpr ⟨hitem, hitems⟩
  · exact List.forall_mem_nil _
  · exact fun pair rest hpair hrest ↦ List.forall_mem_cons.mpr ⟨hpair, hrest⟩
  · exact fun key value _ hvalue ↦ hvalue

theorem toValues_eq_map (items : List Node) : toValues items = items.map toValue := by
  induction items with
  | nil => rfl
  | cons item items ih => rw [toValues, ih, List.map_cons]

theorem toEntries_eq_map (pairs : List (Node × Node)) :
    toEntries pairs = pairs.map fun pair ↦ (keyText pair.1, toValue pair.2) := by
  induction pairs with
  | nil => rfl
  | cons pair rest ih =>
    obtain ⟨key, value⟩ := pair
    rw [toEntries, ih, List.map_cons]

/-- The texts of the keys of a mapping. -/
def keyTexts (pairs : List (Node × Node)) : List String := pairs.map fun pair ↦ keyText pair.1

theorem keys_toEntries (pairs : List (Node × Node)) :
    Entries.keys (toEntries pairs) = keyTexts pairs := by
  rw [toEntries_eq_map, Entries.keys, List.map_map]
  rfl

/-- The value of a node has distinct keys. -/
theorem distinctKeys_toValue (node : Node) : node.toValue.DistinctKeys := by
  induction node using childInduction with
  | int number =>
    rw [toValue, integerValue]
    split <;> trivial
  | sequence items ih =>
    rw [toValue, toValues_eq_map]
    exact Value.distinctKeys_array.mpr (List.forall_mem_map.mpr ih)
  | mapping pairs ih =>
    rw [toValue, toEntries_eq_map]
    exact Value.distinctKeys_ofList (List.forall_mem_map.mpr ih)
  | tagged tag content ih => rwa [toValue]
  | _ => trivial

/-! ### Entries that are kept -/

/-- A value keeps every entry of a node: for each mapping it has an object with an entry for each
pair, in the order of the pairs, under the text of the key and with a value that keeps every entry
of the pair's value. Tags are dropped. -/
inductive Keeps : Node → Value → Prop
  | null : Keeps null .null
  | bool (flag : Bool) : Keeps (bool flag) (.bool flag)
  | int (number : Int) : Keeps (int number) (integerValue number)
  | float (number : Float) : Keeps (float number) (.float number)
  | string (text : String) : Keeps (string text) (.string text)
  | sequence {items : List Node} {values : List Value} (hitems : List.Forall₂ Keeps items values) :
      Keeps (sequence items) (.array values)
  | mapping {pairs : List (Node × Node)} {entries : Entries Value}
      (htexts : entries.keys = keyTexts pairs)
      (hvalues : List.Forall₂ Keeps (pairs.map Prod.snd) (entries.map Prod.snd)) :
      Keeps (mapping pairs) (.object entries)
  | tagged {content : Node} {value : Value} (tag : String) (hcontent : Keeps content value) :
      Keeps (tagged tag content) value

/-- The keys of no mapping in a node, those inside of keys aside, share a text. -/
inductive DistinctTexts : Node → Prop
  | null : DistinctTexts null
  | bool (flag : Bool) : DistinctTexts (bool flag)
  | int (number : Int) : DistinctTexts (int number)
  | float (number : Float) : DistinctTexts (float number)
  | string (text : String) : DistinctTexts (string text)
  | sequence {items : List Node} (hitems : ∀ item ∈ items, DistinctTexts item) :
      DistinctTexts (sequence items)
  | mapping {pairs : List (Node × Node)} (htexts : (keyTexts pairs).Nodup)
      (hvalues : ∀ pair ∈ pairs, DistinctTexts pair.2) : DistinctTexts (mapping pairs)
  | tagged {content : Node} (tag : String) (hcontent : DistinctTexts content) :
      DistinctTexts (tagged tag content)

/-- The object of a mapping whose keys have different texts has the pairs as they are. -/
theorem toValue_mapping {pairs : List (Node × Node)} (htexts : (keyTexts pairs).Nodup) :
    toValue (mapping pairs) = .object (toEntries pairs) := by
  rw [toValue, Entries.ofList_eq_self (keys_toEntries pairs ▸ htexts)]

/-- The values of a mapping are kept in the places of their pairs when each of them is kept. -/
theorem forall₂_toEntries_iff {pairs : List (Node × Node)} :
    List.Forall₂ Keeps (pairs.map Prod.snd) (List.map Prod.snd (toEntries pairs)) ↔
      ∀ pair ∈ pairs, Keeps pair.2 pair.2.toValue := by
  rw [toEntries_eq_map, List.map_map, List.forall₂_map_left_iff, List.forall₂_map_right_iff,
    List.forall₂_same]
  rfl

/-- The value of a node keeps every entry exactly when the keys of no mapping share a text. -/
theorem keeps_toValue_iff (node : Node) : Keeps node node.toValue ↔ node.DistinctTexts := by
  induction node using childInduction with
  | null => exact ⟨fun _ ↦ .null, fun _ ↦ .null⟩
  | bool flag => exact ⟨fun _ ↦ .bool flag, fun _ ↦ .bool flag⟩
  | int number => exact ⟨fun _ ↦ .int number, fun _ ↦ .int number⟩
  | float number => exact ⟨fun _ ↦ .float number, fun _ ↦ .float number⟩
  | string text => exact ⟨fun _ ↦ .string text, fun _ ↦ .string text⟩
  | sequence items ih =>
    have hitems : List.Forall₂ Keeps items (items.map toValue) ↔
        ∀ item ∈ items, item.DistinctTexts := by
      rw [List.forall₂_map_right_iff, List.forall₂_same]
      exact forall₂_congr ih
    rw [toValue, toValues_eq_map]
    constructor
    · intro hkept
      cases hkept with
      | sequence hvalues => exact .sequence (hitems.mp hvalues)
    · intro hdistinct
      cases hdistinct with
      | sequence hvalues => exact .sequence (hitems.mpr hvalues)
  | mapping pairs ih =>
    constructor
    · intro hkept
      rw [toValue] at hkept
      cases hkept with
      | mapping htexts hvalues =>
        -- The keys of an object are distinct, so they cannot be texts that are not.
        have hdistinct : (keyTexts pairs).Nodup := htexts ▸ Entries.nodup_keys_ofList _
        rw [Entries.ofList_eq_self (keys_toEntries pairs ▸ hdistinct),
          forall₂_toEntries_iff] at hvalues
        exact .mapping hdistinct fun pair hpair ↦ (ih pair hpair).mp (hvalues pair hpair)
    · intro hdistinct
      cases hdistinct with
      | mapping htexts hvalues =>
        rw [toValue_mapping htexts]
        exact .mapping (keys_toEntries pairs) (forall₂_toEntries_iff.mpr fun pair hpair ↦
          (ih pair hpair).mpr (hvalues pair hpair))
  | tagged tag content ih =>
    rw [toValue]
    constructor
    · intro hkept
      cases hkept with
      | tagged _ hcontent => exact .tagged tag (ih.mp hcontent)
    · intro hdistinct
      cases hdistinct with
      | tagged _ hcontent => exact .tagged tag (ih.mpr hcontent)

/-! ### Entries that are lost -/

/-- Of the pairs of a mapping whose keys have a text, the last gives the value under that text. -/
theorem atKey?_toValue_mapping (pairs : List (Node × Node)) (text : String) :
    (toValue (mapping pairs)).atKey? text =
      (pairs.reverse.find? fun pair ↦ keyText pair.1 = text).map fun pair ↦ pair.2.toValue := by
  have hfound : (toValue (mapping pairs)).atKey? text =
      Entries.get? (Entries.ofList (toEntries pairs)) text := by
    rw [toValue]
    rfl
  rw [hfound, Entries.get?_ofList, toEntries_eq_map, ← List.map_reverse, Entries.get?_map]

/-- The object of a mapping has an entry for each pair exactly when their keys differ in text. -/
theorem size_toValue_mapping_eq_iff (pairs : List (Node × Node)) :
    (toValue (mapping pairs)).size = pairs.length ↔ (keyTexts pairs).Nodup := by
  have hlength : (toEntries pairs).length = pairs.length := by
    rw [toEntries_eq_map, List.length_map]
  rw [← keys_toEntries, ← Entries.length_ofList_eq_iff, hlength, toValue]
  rfl

/-- The pairs of a mapping. -/
def pairs? : Node → Option (List (Node × Node))
  | mapping pairs => some pairs
  | _ => none

theorem pairs?_eq_some_iff {node : Node} {pairs : List (Node × Node)} :
    node.pairs? = some pairs ↔ node = mapping pairs := by
  cases node <;> simp [pairs?]

/-- A document with an integer and a string of one text as keys. -/
def sharedKeysText : String := "1: a\n'1': b"

/-- Not every mapping of a document becomes an object with an entry for each of its pairs: an
integer and a string may have one text. -/
theorem size_toValue_sharedKeys :
    ¬ ∀ (text : String) (pairs : List (Node × Node)), node? text.toList = some (mapping pairs) →
      (toValue (mapping pairs)).size = pairs.length := by
  intro hkept
  have hread : ((node? sharedKeysText.toList).bind pairs?).map keyTexts = some ["1", "1"] := by
    decide +kernel
  obtain ⟨pairs, hpairs, htexts⟩ := Option.map_eq_some_iff.mp hread
  obtain ⟨node, hnode, hmapping⟩ := Option.bind_eq_some_iff.mp hpairs
  obtain rfl := pairs?_eq_some_iff.mp hmapping
  have hdistinct := (size_toValue_mapping_eq_iff pairs).mp (hkept sharedKeysText pairs hnode)
  rw [htexts] at hdistinct
  exact absurd hdistinct (by decide)

end Yaml.Node

end DocTree
