import DocTree.Proofs.Position.Below
import DocTree.Proofs.Position.Distinct
import DocTree.Proofs.Position.Repeat
import Mathlib.Data.List.Nodup

/-!
# The effect of a write

`Change.Applies` says at which paths of a document a change can be made: where there is a value of
the kind that the change asks for, and, if the change is a replacement, at a key that an object
lacks. `Change.Makes` says what it makes of what was there. Where entries are written into an
object, by a merge or one by one, the old keys keep their places and the new ones follow
(`Entries.overlay`). A write is made exactly where the change applies, leaves there what the change
makes, and leaves the document as it was when it is not made (`Value.change_effect`).
-/

set_option autoImplicit false
set_option relaxedAutoImplicit false

namespace DocTree

/-! ### Entries laid over others -/

namespace Entries

variable {α : Type} {entries incoming : Entries α} {key : String} {value : α}

/-- Entries with others laid over them: the old keys in their places, with the incoming value where
there is one, and then the new keys in incoming order. -/
def overlay (entries incoming : Entries α) : Entries α :=
  entries.map (fun entry ↦ (entry.1, (incoming.get? entry.1).getD entry.2)) ++
    incoming.filter fun entry ↦ entry.1 ∉ entries.keys

/-- A key that is there is written in its place. -/
theorem insert_eq_map (hdistinct : entries.keys.Nodup) (hkey : key ∈ entries.keys) (value : α) :
    entries.insert key value =
      entries.map fun entry ↦ (entry.1, if key = entry.1 then value else entry.2) := by
  induction entries with
  | nil => cases hkey
  | cons entry rest ih =>
    obtain ⟨name, old⟩ := entry
    rw [keys_cons, List.nodup_cons] at hdistinct
    by_cases hname : name = key
    · subst hname
      have hrest : rest.map (fun entry ↦ (entry.1, if name = entry.1 then value else entry.2)) =
          rest.map id := by
        refine List.map_congr_left fun entry hentry ↦ ?_
        have hnew : name ∉ keys rest := hdistinct.1
        have hne : name ≠ entry.1 := fun heq ↦ hnew (heq ▸ fst_mem_keys hentry)
        simp [hne]
      simp [insert, hrest]
    · have hrest : key ∈ keys rest := (List.mem_cons.mp hkey).resolve_left (Ne.symm hname)
      simp [insert, hname, Ne.symm hname, ih hdistinct.2 hrest]

/-- Laying entries over others may begin with writing the first of them. -/
theorem overlay_insert (hdistinct : entries.keys.Nodup) (hnew : key ∉ incoming.keys) (value : α) :
    (entries.insert key value).overlay incoming = entries.overlay ((key, value) :: incoming) := by
  have hmissing : incoming.get? key = none := get?_eq_none_iff.mpr hnew
  by_cases hkey : key ∈ entries.keys
  -- An old key keeps its place, so that no entry moves between the old ones and the new ones.
  · have hkeys : (entries.insert key value).keys = entries.keys := by
      rw [keys_insert, if_pos hkey]
    unfold overlay
    rw [hkeys, List.filter_cons_of_neg (by simpa using hkey), insert_eq_map hdistinct hkey,
      List.map_map]
    refine congrArg (· ++ _) (List.map_congr_left fun entry _ ↦ ?_)
    by_cases hentry : key = entry.1
    · simp [get?, ← hentry, hmissing]
    · simp [get?, hentry]
  -- A new key is the last of the old ones on one side and the first of the new ones on the other.
  · have hkeys : (entries.insert key value).keys = entries.keys ++ [key] := by
      rw [keys_insert, if_neg hkey]
    unfold overlay
    rw [hkeys, List.filter_cons_of_pos (by simpa using hkey), insert_of_not_mem hkey,
      List.map_append, List.append_assoc]
    refine congrArg₂ (· ++ ·) (List.map_congr_left fun entry hentry ↦ ?_) ?_
    · have hne : key ≠ entry.1 := fun heq ↦ hkey (heq ▸ fst_mem_keys hentry)
      simp [get?, hne]
    · have hrest : incoming.filter (fun entry ↦ entry.1 ∉ entries.keys ++ [key]) =
          incoming.filter fun entry ↦ entry.1 ∉ entries.keys := by
        refine List.filter_congr fun entry hentry ↦ ?_
        have hne : entry.1 ≠ key := fun heq ↦ hnew (heq ▸ fst_mem_keys hentry)
        simp [hne]
      rw [hrest, List.map_singleton, hmissing, Option.getD_none, List.singleton_append]

/-- Entries with distinct keys that are written one after another are laid over those that were
there. -/
theorem insertAll_eq_overlay (hentries : entries.keys.Nodup) (hincoming : incoming.keys.Nodup) :
    entries.insertAll incoming = entries.overlay incoming := by
  induction incoming generalizing entries with
  | nil => simp [insertAll, overlay, get?]
  | cons entry rest ih =>
    rw [keys_cons, List.nodup_cons] at hincoming
    rw [insertAll_cons, ih (nodup_keys_insert hentries _ _) hincoming.2,
      overlay_insert hentries hincoming.1]

end Entries

namespace Change

variable {change : Change} {slot : Option Value} {new : Value} {entries written : Entries Value}

/-! ### What a change makes -/

/-- What a change makes of a position. A position without a value is a key that its object lacks. -/
inductive Makes : Change → Option Value → Value → Prop where
  | joined (items incoming : List Value) :
    Makes (.replace (.array incoming)) (some (.array items)) (.array (items ++ incoming))
  | merged (entries incoming : Entries Value) :
    Makes (.replace (.object incoming)) (some (.object entries))
      (.object (Entries.insertAll entries incoming))
  | replaced (old incoming : Value) (harrays : ¬ (old.kind = .array ∧ incoming.kind = .array))
    (hobjects : ¬ (old.kind = .object ∧ incoming.kind = .object)) :
    Makes (.replace incoming) (some old) incoming
  | inserted (incoming : Value) : Makes (.replace incoming) none incoming
  | pushed (items : List Value) (item : Value) :
    Makes (.append item) (some (.array items)) (.array (items ++ [item]))
  | written (entries : Entries Value) (key : String) (item : Value) :
    Makes (.put key item) (some (.object entries)) (.object (Entries.insert entries key item))

theorem makes_merge (old incoming : Value) :
    Makes (.replace incoming) (some old) (old.merge incoming) := by
  unfold Value.merge
  split
  · exact .joined _ _
  · exact .merged _ _
  · rename_i harrays hobjects
    refine .replaced old incoming (fun hkinds ↦ ?_) fun hkinds ↦ ?_
    · cases old <;> cases incoming <;> simp_all [Value.kind]
    · cases old <;> cases incoming <;> simp_all [Value.kind]

/-- The value that a change puts into a slot is what it makes of it. -/
theorem makes_of_onSlot? {change : Change} {slot : Option Value} {new : Value}
    (houtcome : change.onSlot? slot = some new) : change.Makes slot new := by
  cases slot with
  | none =>
    cases change with
    | replace incoming =>
      obtain rfl : incoming = new := Option.some_inj.mp houtcome
      exact .inserted incoming
    | append item => cases houtcome
    | put key item => cases houtcome
  | some old =>
    cases change with
    | replace incoming =>
      obtain rfl : old.merge incoming = new := Option.some_inj.mp houtcome
      exact makes_merge old incoming
    | append item =>
      cases old with
      | array items =>
        obtain rfl : .array (items ++ [item]) = new := Option.some_inj.mp houtcome
        exact .pushed items item
      | _ => cases houtcome
    | put key item =>
      cases old with
      | object entries =>
        obtain rfl : .object (Entries.insert entries key item) = new := Option.some_inj.mp houtcome
        exact .written entries key item
      | _ => cases houtcome

/-- The entries that a change writes into an object. -/
def written? : Change → Option (Entries Value)
  | replace (.object incoming) => some incoming
  | put key item => some [(key, item)]
  | _ => none

theorem DistinctKeys.written? (hchange : change.DistinctKeys)
    (hwritten : change.written? = some written) : written.keys.Nodup := by
  cases change with
  | replace incoming =>
    cases incoming with
    | object incoming =>
      obtain rfl : incoming = written := Option.some_inj.mp hwritten
      exact Value.DistinctKeys.keys hchange
    | _ => cases hwritten
  | append item => cases hwritten
  | put key item =>
    obtain rfl : [(key, item)] = written := Option.some_inj.mp hwritten
    exact List.nodup_singleton key

/-- A change that writes entries into an object lays them over the entries of that object. -/
theorem Makes.eq_overlay (hmakes : change.Makes (some (.object entries)) new)
    (hwritten : change.written? = some written) (hentries : entries.keys.Nodup)
    (hdistinct : written.keys.Nodup) : new = .object (entries.overlay written) := by
  cases hmakes with
  | merged entries incoming =>
    obtain rfl : incoming = written := Option.some_inj.mp hwritten
    exact congrArg Value.object (Entries.insertAll_eq_overlay hentries hdistinct)
  | replaced _ _ harrays hobjects =>
    cases new with
    | object incoming => exact absurd ⟨rfl, rfl⟩ hobjects
    | _ => cases hwritten
  | written entries key item =>
    obtain rfl : [(key, item)] = written := Option.some_inj.mp hwritten
    exact congrArg Value.object (Entries.insertAll_eq_overlay hentries hdistinct)

/-! ### Where a change applies -/

/-- Whether a change can be made of values of a kind. -/
def suits : Change → Kind → Bool
  | replace _, _ => true
  | append _, kind => kind = .array
  | put _ _, kind => kind = .object

theorem isSome_outcome? (change : Change) (target : Value) :
    (change.outcome? target).isSome = change.suits target.kind := by
  cases change <;> cases target <;> rfl

/-- A change applies where it finds a value that suits it. A replacement applies also at the end of
a path whose last key is missing from an object. -/
inductive Applies (root : Value) : Change → Path → Prop where
  | suited {change : Change} {path : Path} {target : Value} (hget : root.get? path = some target)
    (hsuits : change.suits target.kind = true) : Applies root change path
  | missing {parent : Path} {entries : Entries Value} {key : String} (incoming : Value)
    (hparent : root.get? parent = some (.object entries)) (hmissing : key ∉ entries.keys) :
    Applies root (.replace incoming) (parent.child (.key key))

end Change

namespace Value

variable {root after new : Value} {change : Change} {path : Path}

/-- The slot of a path is open when its last key is missing from an object. -/
theorem slot?_eq_some_none_iff :
    root.slot? path = some none ↔ ∃ parent entries key, path = Path.child parent (.key key) ∧
      root.get? parent = some (.object entries) ∧ key ∉ Entries.keys entries := by
  constructor
  · intro hslot
    obtain rfl | ⟨parent, last, rfl⟩ := List.eq_nil_or_concat' path
    · simp at hslot
    · obtain ⟨container, hparent, -⟩ := exists_get?_of_slot? (by rw [hslot]; rfl)
      have hopen := (slot?_child hparent last).symm.trans hslot
      cases hchild : container.child? last with
      | some next => simp [hchild] at hopen
      | none =>
        have hgrows : container.grows last = true := by
          by_contra hfixed
          simp [hchild, hfixed] at hopen
        obtain ⟨entries, key, rfl, rfl⟩ := grows_iff.mp hgrows
        exact ⟨parent, entries, key, rfl, hparent, Entries.get?_eq_none_iff.mp hchild⟩
  · rintro ⟨parent, entries, key, rfl, hparent, hmissing⟩
    simp [slot?_child hparent, Entries.get?_eq_none_iff.mpr hmissing, grows]

/-- A change can be made exactly where it applies. -/
theorem isSome_outcomeAt?_iff :
    (root.outcomeAt? change path).isSome ↔ change.Applies root path := by
  constructor
  · intro houtcome
    obtain ⟨new, hnew⟩ := Option.isSome_iff_exists.mp houtcome
    obtain ⟨slot, hslot, hmade⟩ := Option.bind_eq_some_iff.mp hnew
    cases slot with
    | some target =>
      refine .suited (slot?_eq_some_some_iff.mp hslot) ?_
      rw [← change.isSome_outcome?]
      exact Option.isSome_of_eq_some hmade
    | none =>
      obtain ⟨parent, entries, key, rfl, hparent, hmissing⟩ := slot?_eq_some_none_iff.mp hslot
      cases change with
      | replace incoming => exact .missing incoming hparent hmissing
      | append item => cases hmade
      | put key item => cases hmade
  · intro happlies
    cases happlies with
    | suited hget hsuits =>
      rwa [outcomeAt?, slot?_eq_some_some_iff.mpr hget, Option.bind_some, Change.onSlot?,
        Change.isSome_outcome?]
    | missing incoming hparent hmissing =>
      rw [outcomeAt?, slot?_eq_some_none_iff.mpr ⟨_, _, _, rfl, hparent, hmissing⟩]
      rfl

/-- The outcome of a change is what it makes of what the path leads to. -/
theorem makes_of_outcomeAt? (houtcome : root.outcomeAt? change path = some new) :
    change.Makes (root.get? path) new := by
  obtain ⟨slot, hslot, hmade⟩ := Option.bind_eq_some_iff.mp houtcome
  have hget : root.get? path = slot := by
    rw [get?_eq_slot?, hslot]
    rfl
  exact hget ▸ Change.makes_of_onSlot? hmade

/-- A write is made exactly where its change applies. One that is not made leaves the document as it
was, and one that is made leaves at its path what the change makes of what was there. Written into
an object, entries are laid over those of the object. -/
theorem change_effect (root : Value) (path : Path) (change : Change) :
    ((root.change? path change).isSome ↔ change.Applies root path) ∧
      (root.change? path change = none → root.change path change = root) ∧
        ∀ after, root.change? path change = some after →
          root.change path change = after ∧
            ∃ new, after.get? path = some new ∧ change.Makes (root.get? path) new ∧
              (root.DistinctKeys → change.DistinctKeys → ∀ entries written,
                root.get? path = some (.object entries) → change.written? = some written →
                  new = .object (Entries.overlay entries written)) := by
  refine ⟨?made, fun hrefused ↦ ?refused, fun after hafter ↦ ?written⟩
  case made => rw [isSome_change?, isSome_outcomeAt?_iff]
  case refused => rw [Value.change, hrefused, Option.getD_none]
  case written =>
    refine ⟨by rw [Value.change, hafter, Option.getD_some], ?_⟩
    rw [change?_eq, Option.map_eq_some_iff] at hafter
    obtain ⟨new, houtcome, rfl⟩ := hafter
    have hmakes := makes_of_outcomeAt? houtcome
    refine ⟨new, get?_fill (slot?_isSome_of_outcomeAt? houtcome) new, hmakes, ?_⟩
    intro hroot hchange entries written hget hwritten
    rw [hget] at hmakes
    exact hmakes.eq_overlay hwritten (hroot.get? hget).keys (hchange.written? hwritten)

/-- A document with one object in another. -/
def basket : Value := .object [("fruit", .object [("pear", .int 1), ("plum", .int 2)])]

/-- A change that merges an old and a new entry into an object. -/
def basketChange : Change := .replace (.object [("fig", .int 3), ("pear", .int 4)])

/-- The merge is made, keeps the place of the old key and adds the new one. A change that asks for
an array is not made and leaves the document as it was. -/
theorem change_effect_basket :
    (basket.change? [.key "fruit"] basketChange).isSome ∧
      (basket.change [.key "fruit"] basketChange).get? [.key "fruit"] =
        some (.object [("pear", .int 4), ("plum", .int 2), ("fig", .int 3)]) ∧
        basket.change? [.key "fruit"] (.append .null) = none ∧
          basket.change [.key "fruit"] (.append .null) = basket := by
  obtain ⟨hmade, -, hwritten⟩ := change_effect basket [.key "fruit"] basketChange
  obtain ⟨happlies, hkept, -⟩ := change_effect basket [.key "fruit"] (.append .null)
  have hget : basket.get? [.key "fruit"] =
      some (.object [("pear", .int 1), ("plum", .int 2)]) := by
    simp [basket, get?_cons, Entries.get?]
  have hrefused : basket.change? [.key "fruit"] (.append .null) = none := by
    rw [← Option.not_isSome_iff_eq_none, happlies]
    rintro ⟨hget', hsuits⟩
    rw [hget, Option.some_inj] at hget'
    subst hget'
    cases hsuits
  have hroot : basket.DistinctKeys := by simp [basket, DistinctKeys, DistinctKeysEntries]
  have hchange : basketChange.DistinctKeys := by
    simp [basketChange, Change.DistinctKeys, DistinctKeys, DistinctKeysEntries]
  have hsome : (basket.change? [.key "fruit"] basketChange).isSome := hmade.mpr (.suited hget rfl)
  obtain ⟨after, hafter⟩ := Option.isSome_iff_exists.mp hsome
  obtain ⟨hsame, new, hnew, -, hlaid⟩ := hwritten after hafter
  refine ⟨hsome, ?_, hrefused, hkept hrefused⟩
  rw [hsame, hnew, hlaid hroot hchange _ _ hget rfl]
  rfl

end Value

end DocTree
