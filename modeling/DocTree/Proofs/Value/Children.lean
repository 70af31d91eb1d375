import DocTree.Value.Order
import DocTree.Proofs.Value.Distinct

/-!
# Values and their children

`Value.childInduction` proves a property of every value from the same property of its children. The
bounds and conditions on whole values that are defined by recursion over elements and entries are
conditions on every child (`depthItems_le_iff`, `nonFiniteEntries?_eq_none_iff` and the like), and so
is a condition on all floats at any depth (`everyFloat_array_iff`, `everyFloat_object_iff`). So the
search for a float that is infinite or NaN misses none (`nonFinite?_eq_none_iff`).
-/

set_option autoImplicit false
set_option relaxedAutoImplicit false

namespace DocTree.Value

/-- A property of scalars that every container has when its children have it is a property of every
value. -/
@[elab_as_elim]
theorem childInduction {motive : Value → Prop}
    (scalar : ∀ value : Value, value.isContainer = false → motive value)
    (array : ∀ items : List Value, (∀ item ∈ items, motive item) → motive (.array items))
    (object : ∀ entries : Entries Value, (∀ entry ∈ entries, motive entry.2) →
      motive (.object entries))
    (value : Value) : motive value := by
  refine @Value.rec motive (fun items ↦ ∀ item ∈ items, motive item)
    (fun entries ↦ ∀ entry ∈ entries, motive entry.2) (fun entry ↦ motive entry.2)
    (scalar _ rfl) (fun _ ↦ scalar _ rfl) (fun _ ↦ scalar _ rfl) (fun _ ↦ scalar _ rfl)
    (fun _ ↦ scalar _ rfl) array object ?_ ?_ ?_ ?_ ?_ value
  · exact List.forall_mem_nil _
  · exact fun item items hitem hitems ↦ List.forall_mem_cons.mpr ⟨hitem, hitems⟩
  · exact List.forall_mem_nil _
  · exact fun entry rest hentry hrest ↦ List.forall_mem_cons.mpr ⟨hentry, hrest⟩
  · exact fun key value hvalue ↦ hvalue

variable {items : List Value} {entries : Entries Value} {limit : Nat}

theorem depth_eq_zero {value : Value} (hscalar : value.isContainer = false) : value.depth = 0 := by
  cases value with
  | array items => cases hscalar
  | object entries => cases hscalar
  | _ => simp [depth]

theorem depthItems_le_iff : depthItems items ≤ limit ↔ ∀ item ∈ items, item.depth ≤ limit := by
  induction items with
  | nil => simp [depthItems]
  | cons item items ih => rw [depthItems, Nat.max_le, List.forall_mem_cons, ih]

theorem depthEntries_le_iff :
    depthEntries entries ≤ limit ↔ ∀ entry ∈ entries, entry.2.depth ≤ limit := by
  induction entries with
  | nil => simp [depthEntries]
  | cons entry rest ih =>
    obtain ⟨key, value⟩ := entry
    rw [depthEntries, Nat.max_le, List.forall_mem_cons, ih]

theorem nonFiniteItems?_eq_none_iff :
    nonFiniteItems? items = none ↔ ∀ item ∈ items, item.nonFinite? = none := by
  induction items with
  | nil => simp [nonFiniteItems?]
  | cons item items ih => simp [nonFiniteItems?, ih]

theorem nonFiniteEntries?_eq_none_iff :
    nonFiniteEntries? entries = none ↔ ∀ entry ∈ entries, entry.2.nonFinite? = none := by
  induction entries with
  | nil => simp [nonFiniteEntries?]
  | cons entry rest ih =>
    obtain ⟨key, value⟩ := entry
    simp [nonFiniteEntries?, ih]

/-! ### Floats -/

/-- No position of the value leads to a float that is infinite or NaN. -/
def FiniteFloats (value : Value) : Prop :=
  ∀ path number, value.get? path = some (.float number) → number.isFinite = true

theorem child?_of_scalar {value : Value} (hscalar : value.isContainer = false)
    (segment : Segment) : value.child? segment = none := by
  cases value with
  | array items => cases hscalar
  | object entries => cases hscalar
  | _ => cases segment <;> rfl

/-- Every float that a position of the value leads to satisfies a condition. -/
def EveryFloat (condition : Float → Prop) (value : Value) : Prop :=
  ∀ path number, value.get? path = some (.float number) → condition number

variable {condition : Float → Prop}

theorem everyFloat_scalar_iff {value : Value} (hscalar : value.isContainer = false) :
    value.EveryFloat condition ↔ ∀ number, value = .float number → condition number := by
  refine ⟨fun hevery number hvalue ↦ hevery [] number (by rw [get?_nil, hvalue]),
    fun hevery path number hnumber ↦ ?_⟩
  cases path with
  | nil => exact hevery number (Option.some.inj ((get?_nil value).symm.trans hnumber))
  | cons segment rest =>
    rw [get?_cons, child?_of_scalar hscalar segment] at hnumber
    cases hnumber

theorem everyFloat_array_iff :
    (array items).EveryFloat condition ↔ ∀ item ∈ items, item.EveryFloat condition := by
  constructor
  · intro hevery item hitem path number hnumber
    obtain ⟨position, hposition⟩ := List.mem_iff_getElem?.mp hitem
    exact hevery (.index position :: path) number
      (get?_cons_eq_some_iff.mpr ⟨item, hposition, hnumber⟩)
  · intro hevery path number hnumber
    cases path with
    | nil => cases (get?_nil (array items)).symm.trans hnumber
    | cons segment rest =>
      obtain ⟨next, hchild, hrest⟩ := get?_cons_eq_some_iff.mp hnumber
      cases segment with
      | key name => cases hchild
      | index position => exact hevery next (List.mem_of_getElem? hchild) rest number hrest

theorem everyFloat_object_iff (hdistinct : entries.keys.Nodup) :
    (object entries).EveryFloat condition ↔ ∀ entry ∈ entries, entry.2.EveryFloat condition := by
  constructor
  · rintro hevery ⟨key, next⟩ hentry path number hnumber
    exact hevery (.key key :: path) number
      (get?_cons_eq_some_iff.mpr ⟨next, Entries.get?_of_mem hdistinct hentry, hnumber⟩)
  · intro hevery path number hnumber
    cases path with
    | nil => cases (get?_nil (object entries)).symm.trans hnumber
    | cons segment rest =>
      obtain ⟨next, hchild, hrest⟩ := get?_cons_eq_some_iff.mp hnumber
      cases segment with
      | key name => exact hevery _ (Entries.mem_of_get? hchild) rest number hrest
      | index position => cases hchild

/-- The search for a float that is infinite or NaN finds none just if there is none. -/
theorem nonFinite?_eq_none_iff {value : Value} (hdistinct : value.DistinctKeys) :
    value.nonFinite? = none ↔ value.FiniteFloats := by
  show value.nonFinite? = none ↔ value.EveryFloat fun number ↦ number.isFinite = true
  induction value using childInduction with
  | scalar value hscalar =>
    rw [everyFloat_scalar_iff hscalar]
    cases value with
    | array items => cases hscalar
    | object entries => cases hscalar
    | _ => simp [nonFinite?]
  | array items ih =>
    rw [DistinctKeys, distinctKeysItems_iff] at hdistinct
    rw [nonFinite?, nonFiniteItems?_eq_none_iff, everyFloat_array_iff]
    exact forall₂_congr fun item hitem ↦ ih item hitem (hdistinct item hitem)
  | object entries ih =>
    rw [DistinctKeys, distinctKeysEntries_iff] at hdistinct
    rw [nonFinite?, nonFiniteEntries?_eq_none_iff, everyFloat_object_iff hdistinct.1]
    exact forall₂_congr fun entry hentry ↦ ih entry hentry (hdistinct.2 entry hentry)

end DocTree.Value
