import DocTree.Proofs.Position.Below
import DocTree.Proofs.Value.Distinct

/-!
# What a write leaves as it was

A write at a path shows at no path apart from it. Above it, every value on the way keeps its kind
and all its children but the next one on the way (`Value.KeptBeside`): an array keeps its length and
an object the order of its keys. Only the object at the end of the way may grow, by the last key of
the path, as its last entry (`Value.change_frame`).
-/

set_option autoImplicit false
set_option relaxedAutoImplicit false

namespace DocTree

namespace Entries

variable {α : Type} {entries : Entries α} {key : String} {value : α}

/-- Writing a key leaves the entries of all other keys in their places. -/
theorem getElem?_insert_of_ne {position : Nat} {entry : String × α}
    (hentry : entries[position]? = some entry) (hne : key ≠ entry.1) (value : α) :
    (entries.insert key value)[position]? = some entry := by
  induction entries generalizing position with
  | nil => simp at hentry
  | cons first rest ih =>
    obtain ⟨name, old⟩ := first
    cases position with
    | zero =>
      obtain rfl : (name, old) = entry := by simpa using hentry
      simp [insert, Ne.symm hne]
    | succ position =>
      rw [List.getElem?_cons_succ] at hentry
      by_cases hname : name = key
      · simpa [insert, hname] using hentry
      · simpa [insert, hname] using ih hentry

end Entries

namespace Value

/-- What a value on the way to a path keeps when a write is made there, where `segment` is the next
one on the way and `rest` comes after it: everything but the child that the segment names. -/
inductive KeptBeside (segment : Segment) (rest : Path) : Value → Value → Prop where
  | scalar {value : Value} (hscalar : value.isContainer = false) :
    KeptBeside segment rest value value
  | array {items others : List Value} (hlength : others.length = items.length)
    (hothers : ∀ position, segment ≠ .index position → others[position]? = items[position]?) :
    KeptBeside segment rest (.array items) (.array others)
  | object {entries others : Entries Value} (hkeys : others.keys = entries.keys)
    (hothers : ∀ (position : Nat) entry, entries[position]? = some entry →
      segment ≠ .key entry.1 → others[position]? = some entry) :
    KeptBeside segment rest (.object entries) (.object others)
  /-- The last segment of the path is a new key of the object. -/
  | grown {entries : Entries Value} {key : String} (hlast : rest = [])
    (hsegment : segment = .key key) (hnew : key ∉ entries.keys) (value : Value) :
    KeptBeside segment rest (.object entries) (.object (entries ++ [(key, value)]))

variable {root value new next : Value} {path front rest : Path} {segment : Segment}
  {change : Change}

theorem KeptBeside.kind_eq (hkept : KeptBeside segment rest value new) : new.kind = value.kind := by
  cases hkept <;> rfl

theorem KeptBeside.refl (segment : Segment) (rest : Path) (value : Value) :
    KeptBeside segment rest value value := by
  cases value with
  | array items => exact .array rfl fun _ _ ↦ rfl
  | object entries => exact .object rfl fun _ _ hentry _ ↦ hentry
  | _ => exact .scalar rfl

/-- A child that is there is written beside all others. -/
theorem keptBeside_withChild (hchild : value.child? segment = some next) (rest : Path)
    (new : Value) : KeptBeside segment rest value (value.withChild segment new) := by
  cases value with
  | array items =>
    cases segment with
    | key name => exact .refl _ _ _
    | index position =>
      refine .array List.length_set fun other hne ↦ List.getElem?_set_ne ?_
      rintro rfl
      exact hne rfl
  | object entries =>
    cases segment with
    | key name =>
      have hkey : name ∈ Entries.keys entries :=
        Entries.get?_isSome_iff.mp (Option.isSome_of_eq_some hchild)
      refine .object (by rw [Entries.keys_insert, if_pos hkey]) fun position entry hentry hne ↦ ?_
      exact Entries.getElem?_insert_of_ne hentry (fun heq ↦ hne (congrArg Segment.key heq)) new
    | index position => exact .refl _ _ _
  | _ => exact .refl _ _ _

/-- A slot below a value is filled beside everything that is not on the way to it. -/
theorem keptBeside_fill (hslot : (value.slot? (segment :: rest)).isSome) (new : Value) :
    KeptBeside segment rest value (value.fill (segment :: rest) new) := by
  cases hchild : value.child? segment with
  | some next =>
    rw [fill_cons_of_child hchild]
    exact keptBeside_withChild hchild rest _
  | none =>
    obtain ⟨rfl, hgrows⟩ : rest = [] ∧ value.grows segment = true := by
      simpa [slot?_cons_of_missing hchild] using hslot
    obtain ⟨entries, key, rfl, rfl⟩ := grows_iff.mp hgrows
    have hnew : key ∉ Entries.keys entries := Entries.get?_eq_none_iff.mp hchild
    rw [fill_cons_of_missing hchild, withChild, Entries.insert_of_not_mem hnew]
    exact .grown rfl rfl hnew new

/-- A write shows at no path apart from its own. Every value on the way to it keeps its kind, and
everything but what is further on the way; only the object that the last key of the path is missing
from may take that key as its last entry. -/
theorem change_frame (root : Value) (path : Path) (change : Change) :
    (∀ other, path.Apart other → (root.change path change).get? other = root.get? other) ∧
      ∀ front segment rest value, path = front ++ segment :: rest →
        root.get? front = some value →
          ∃ new, (root.change path change).get? front = some new ∧ new.kind = value.kind ∧
            KeptBeside segment rest value new := by
  cases houtcome : root.outcomeAt? change path with
  | none =>
    rw [change_of_outcomeAt?_eq_none houtcome]
    exact ⟨fun _ _ ↦ rfl, fun front segment rest value _ hget ↦
      ⟨value, hget, rfl, .refl segment rest value⟩⟩
  | some made =>
    rw [change_of_outcomeAt? houtcome]
    have hslot := slot?_isSome_of_outcomeAt? houtcome
    refine ⟨fun other hapart ↦ ?_, ?_⟩
    · rw [get?_eq_slot?, get?_eq_slot?, slot?_fill_of_apart hapart hslot]
    · rintro front segment rest value rfl hget
      rw [slot?_append hget] at hslot
      have hkept := keptBeside_fill hslot made
      exact ⟨_, get?_fill_append hget _ made, hkept.kind_eq, hkept⟩

/-- A document whose second row lacks a key. -/
def pantry : Value :=
  .object [("rows", .array [.object [("jam", .int 1)], .object []]), ("count", .int 2)]

/-- The key is added to the second row, and the first row and the count are as they were. -/
theorem change_frame_pantry :
    (pantry.change [.key "rows", .index 1, .key "jam"] (.replace .null)).get? [.key "count"] =
        some (.int 2) ∧
      ∃ others : List Value,
        (pantry.change [.key "rows", .index 1, .key "jam"] (.replace .null)).get? [.key "rows"] =
            some (.array others) ∧
          others.length = 2 ∧ others[0]? = some (.object [("jam", .int 1)]) := by
  obtain ⟨hapart, habove⟩ :=
    change_frame pantry [.key "rows", .index 1, .key "jam"] (.replace .null)
  have hcount : pantry.get? [.key "count"] = some (.int 2) := by
    simp [pantry, get?_cons, Entries.get?]
  have hrows : pantry.get? [.key "rows"] =
      some (.array [.object [("jam", .int 1)], .object []]) := by
    simp [pantry, get?_cons, Entries.get?]
  refine ⟨(hapart _ (by simp [Path.Apart])).trans hcount, ?_⟩
  obtain ⟨new, hnew, -, hkept⟩ := habove [.key "rows"] (.index 1) [.key "jam"] _ rfl hrows
  cases hkept with
  | scalar hscalar => cases hscalar
  | array hlength hothers => exact ⟨_, hnew, hlength, hothers 0 (by simp)⟩

end Value

end DocTree
