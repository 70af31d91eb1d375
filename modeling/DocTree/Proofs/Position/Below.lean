import DocTree.Proofs.Position.Slot

/-!
# Slots below a position

What a path leads to below a position depends on the value there alone. So the slot of a longer path
is a slot of that value (`slot?_append`), it is filled by filling that one (`fill_append`), and it
is there only if the position is (`exists_get?_of_slot?`). A slot that is filled twice holds the
last value (`fill_fill`).
-/

set_option autoImplicit false
set_option relaxedAutoImplicit false

namespace DocTree

namespace Entries

variable {α : Type}

/-- Of two values written under one key the last stays. -/
theorem insert_insert (entries : Entries α) (key : String) (value other : α) :
    (entries.insert key value).insert key other = entries.insert key other := by
  induction entries with
  | nil => simp [insert]
  | cons entry rest ih =>
    obtain ⟨name, old⟩ := entry
    by_cases hname : name = key
    · simp [insert, hname]
    · simp [insert, hname, ih]

end Entries

namespace Value

variable {root value new : Value} {front path rest : Path} {segment : Segment}

theorem grows_iff {value : Value} {segment : Segment} :
    value.grows segment = true ↔ ∃ entries key, value = object entries ∧ segment = .key key := by
  cases value <;> cases segment <;> simp [grows]

theorem withChild_withChild (value : Value) (segment : Segment) (first second : Value) :
    (value.withChild segment first).withChild segment second = value.withChild segment second := by
  cases value with
  | object entries =>
    cases segment with
    | key name => exact congrArg object (Entries.insert_insert entries name first second)
    | index position => rfl
  | array items =>
    cases segment with
    | key name => rfl
    | index position => simp [withChild]
  | _ => rfl

/-- Filling a slot writes one child: the child that is there with the slot filled, or the new
value. -/
theorem fill_cons (value : Value) (segment : Segment) (rest : Path) (new : Value) :
    value.fill (segment :: rest) new =
      value.withChild segment ((value.child? segment).elim new (·.fill rest new)) := by
  cases hchild : value.child? segment with
  | some next => rw [fill_cons_of_child hchild, Option.elim_some]
  | none => rw [fill_cons_of_missing hchild, Option.elim_none]

theorem slot?_append (hget : root.get? front = some value) (rest : Path) :
    root.slot? (front ++ rest) = value.slot? rest := by
  induction front generalizing root with
  | nil =>
    rw [get?_nil, Option.some_inj] at hget
    rw [List.nil_append, hget]
  | cons segment front ih =>
    obtain ⟨next, hnext, hbelow⟩ := get?_cons_eq_some_iff.mp hget
    rw [List.cons_append, slot?_cons_of_child hnext, ih hbelow]

theorem fill_append (hget : root.get? front = some value) (rest : Path) (new : Value) :
    root.fill (front ++ rest) new = root.fill front (value.fill rest new) := by
  induction front generalizing root with
  | nil =>
    rw [get?_nil, Option.some_inj] at hget
    rw [List.nil_append, fill_nil, hget]
  | cons segment front ih =>
    obtain ⟨next, hnext, hbelow⟩ := get?_cons_eq_some_iff.mp hget
    rw [List.cons_append, fill_cons_of_child hnext, fill_cons_of_child hnext, ih hbelow]

/-- A slot below a position is there only if the position leads to a value with that slot. -/
theorem exists_get?_of_slot? (hslot : (root.slot? (front ++ segment :: rest)).isSome) :
    ∃ value, root.get? front = some value ∧ (value.slot? (segment :: rest)).isSome := by
  induction front generalizing root with
  | nil => exact ⟨root, get?_nil root, hslot⟩
  | cons first front ih =>
    rw [List.cons_append] at hslot
    cases hchild : root.child? first with
    | some next =>
      rw [slot?_cons_of_child hchild] at hslot
      obtain ⟨value, hget, hbelow⟩ := ih hslot
      exact ⟨value, get?_cons_eq_some_iff.mpr ⟨next, hchild, hget⟩, hbelow⟩
    | none => simp [slot?_cons_of_missing hchild] at hslot

/-! ### Slots that hold a value -/

theorem slot?_eq_some_some_iff :
    root.slot? path = some (some value) ↔ root.get? path = some value := by
  rw [get?_eq_slot?, Option.join_eq_some_iff]

theorem slot?_of_get? (hget : root.get? path = some value) : (root.slot? path).isSome := by
  rw [slot?_eq_some_some_iff.mpr hget]
  rfl

theorem get?_fill (hslot : (root.slot? path).isSome) (new : Value) :
    (root.fill path new).get? path = some new :=
  slot?_eq_some_some_iff.mp (slot?_fill_self hslot new)

/-- Filling a slot below a position fills that slot of the value there. -/
theorem get?_fill_append (hget : root.get? front = some value) (rest : Path) (new : Value) :
    (root.fill (front ++ rest) new).get? front = some (value.fill rest new) := by
  rw [fill_append hget]
  exact get?_fill (slot?_of_get? hget) _

/-- Of two values that fill one slot the last stays. -/
theorem fill_fill (hslot : (root.slot? path).isSome) (first second : Value) :
    (root.fill path first).fill path second = root.fill path second := by
  induction path generalizing root with
  | nil => rw [fill_nil, fill_nil]
  | cons segment rest ih =>
    cases hchild : root.child? segment with
    | some next =>
      rw [slot?_cons_of_child hchild] at hslot
      have hwritten : (root.withChild segment (next.fill rest first)).child? segment =
          some (next.fill rest first) := child?_withChild_self (.inl (by simp [hchild])) _
      rw [fill_cons_of_child hchild, fill_cons_of_child hwritten, fill_cons_of_child hchild,
        ih hslot, withChild_withChild]
    | none =>
      rw [slot?_cons_of_missing hchild] at hslot
      obtain ⟨rfl, hgrows⟩ : rest = [] ∧ root.grows segment = true := by simpa using hslot
      have hwritten : (root.withChild segment first).child? segment = some first :=
        child?_withChild_self (.inr hgrows) first
      rw [fill_cons_of_missing hchild, fill_cons_of_child hwritten, fill_cons_of_missing hchild,
        fill_nil, withChild_withChild]

end Value

end DocTree
