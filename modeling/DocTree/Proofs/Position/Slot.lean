import DocTree.Proofs.Position.Child

/-!
# Slots

The slot of a path is what a write there finds: nothing that could be written to, a key that its
object lacks, or a value (`Value.slot?`). A write is the slot changed and put back: `change?_eq`
takes it apart into `Change.onSlot?`, which looks at the slot alone, and `Value.fill`, which does
not look at what it replaces.

Two paths are apart when neither is a prefix of the other. Filling one slot leaves the slots of all
paths apart from it as they are (`slot?_fill_of_apart`), those with a missing last key included, so
that a write neither makes another path resolve nor stops it from resolving.
-/

set_option autoImplicit false
set_option relaxedAutoImplicit false

namespace DocTree

/-- Neither of two paths is a prefix of the other. -/
def Path.Apart (first second : Path) : Prop := ¬ first <+: second ∧ ¬ second <+: first

namespace Path

theorem Apart.symm {first second : Path} (hapart : first.Apart second) : second.Apart first :=
  ⟨hapart.2, hapart.1⟩

theorem Apart.ne {first second : Path} (hapart : first.Apart second) : first ≠ second := by
  rintro rfl
  exact hapart.1 List.prefix_rfl

theorem not_apart_nil (path : Path) : ¬ Apart [] path := fun hapart ↦ hapart.1 List.nil_prefix

theorem apart_cons_self {segment : Segment} {first second : Path}
    (hapart : Apart (segment :: first) (segment :: second)) : first.Apart second :=
  ⟨fun hprefix ↦ hapart.1 (List.cons_prefix_cons.mpr ⟨rfl, hprefix⟩),
    fun hprefix ↦ hapart.2 (List.cons_prefix_cons.mpr ⟨rfl, hprefix⟩)⟩

end Path

namespace Value

/-- What a write at a path finds: `none` when nothing can be written there, `some none` when only
the last key is missing from an object, and else the value. -/
def slot? : Value → Path → Option (Option Value)
  | value, [] => some (some value)
  | value, segment :: rest =>
    match value.child? segment with
    | some next => slot? next rest
    | none => if rest.isEmpty && value.grows segment then some none else none

/-- The value with `new` in the slot of a path. -/
def fill : Value → Path → Value → Value
  | _, [], new => new
  | value, segment :: rest, new =>
    match value.child? segment with
    | some next => value.withChild segment (fill next rest new)
    | none => value.withChild segment new

@[simp] theorem slot?_nil (value : Value) : value.slot? [] = some (some value) := by
  simp [slot?]

@[simp] theorem fill_nil (value new : Value) : value.fill [] new = new := by
  simp [fill]

theorem slot?_cons_of_child {value next : Value} {segment : Segment}
    (hchild : value.child? segment = some next) (rest : Path) :
    value.slot? (segment :: rest) = next.slot? rest := by
  simp [slot?, hchild]

theorem slot?_cons_of_missing {value : Value} {segment : Segment}
    (hchild : value.child? segment = none) (rest : Path) :
    value.slot? (segment :: rest) =
      if rest.isEmpty && value.grows segment then some none else none := by
  simp [slot?, hchild]

theorem fill_cons_of_child {value next : Value} {segment : Segment}
    (hchild : value.child? segment = some next) (rest : Path) (new : Value) :
    value.fill (segment :: rest) new = value.withChild segment (next.fill rest new) := by
  simp [fill, hchild]

theorem fill_cons_of_missing {value : Value} {segment : Segment}
    (hchild : value.child? segment = none) (rest : Path) (new : Value) :
    value.fill (segment :: rest) new = value.withChild segment new := by
  simp [fill, hchild]

/-- The value at a path is the one in its slot. -/
theorem get?_eq_slot? (value : Value) (path : Path) :
    value.get? path = (value.slot? path).join := by
  induction path generalizing value with
  | nil => simp
  | cons segment rest ih =>
    rw [get?_cons]
    cases hchild : value.child? segment with
    | some next => rw [slot?_cons_of_child hchild, Option.bind_some, ih]
    | none =>
      rw [slot?_cons_of_missing hchild]
      split <;> rfl

/-- The slot of a missing last key is open when its parent is an object, and that of a missing last
index is not there. -/
theorem slot?_child {root container : Value} {path : Path}
    (hcontainer : root.get? path = some container) (segment : Segment) :
    root.slot? (path.child segment) =
      match container.child? segment with
      | some next => some (some next)
      | none => if container.grows segment then some none else none := by
  induction path generalizing root with
  | nil =>
    rw [get?_nil, Option.some_inj] at hcontainer
    subst hcontainer
    simp [Path.child, slot?]
  | cons first rest ih =>
    rw [get?_cons, Option.bind_eq_some_iff] at hcontainer
    obtain ⟨next, hnext, hrest⟩ := hcontainer
    rw [Path.child, List.cons_append, slot?_cons_of_child hnext]
    exact ih hrest

/-! ### Filling a slot -/

theorem slot?_fill_self {value : Value} {path : Path} (hslot : (value.slot? path).isSome)
    (new : Value) : (value.fill path new).slot? path = some (some new) := by
  induction path generalizing value with
  | nil => simp
  | cons segment rest ih =>
    cases hchild : value.child? segment with
    | some next =>
      rw [slot?_cons_of_child hchild] at hslot
      rw [fill_cons_of_child hchild,
        slot?_cons_of_child (child?_withChild_self (.inl (by simp [hchild])) _), ih hslot]
    | none =>
      rw [slot?_cons_of_missing hchild] at hslot
      obtain ⟨rfl, hgrows⟩ : rest = [] ∧ value.grows segment = true := by
        simpa using hslot
      rw [fill_cons_of_missing hchild,
        slot?_cons_of_child (child?_withChild_self (.inr hgrows) _), slot?_nil]

/-- Filling one slot leaves the slots of all paths apart from it as they are. -/
theorem slot?_fill_of_apart {value : Value} {path other : Path} (hapart : path.Apart other)
    (hslot : (value.slot? path).isSome) (new : Value) :
    (value.fill path new).slot? other = value.slot? other := by
  induction path generalizing value other with
  | nil => exact absurd hapart (Path.not_apart_nil other)
  | cons segment rest ih =>
    cases other with
    | nil => exact absurd hapart.symm (Path.not_apart_nil _)
    | cons second others =>
      by_cases hsegment : segment = second
      · subst hsegment
        have hrest := Path.apart_cons_self hapart
        cases hchild : value.child? segment with
        | some next =>
          rw [slot?_cons_of_child hchild] at hslot
          rw [fill_cons_of_child hchild,
            slot?_cons_of_child (child?_withChild_self (.inl (by simp [hchild])) _),
            slot?_cons_of_child hchild, ih hrest hslot]
        | none =>
          have hnil : rest ≠ [] := fun hnil ↦ Path.not_apart_nil others (hnil ▸ hrest)
          simp [slot?_cons_of_missing hchild, hnil] at hslot
      · -- The two paths part here, so the write goes into another child.
        have hother : ∀ child, (value.withChild segment child).slot? (second :: others) =
            value.slot? (second :: others) := fun child ↦ by
          simp only [slot?, child?_withChild_of_ne hsegment, grows_withChild]
        cases hchild : value.child? segment with
        | some next => rw [fill_cons_of_child hchild, hother]
        | none => rw [fill_cons_of_missing hchild, hother]

end Value

/-! ### Writes -/

/-- The value that a change puts into a slot, if it can be made there. -/
def Change.onSlot? (change : Change) (slot : Option Value) : Option Value :=
  match slot with
  | some target => change.outcome? target
  | none => change.fresh?

namespace Value

theorem update?_eq (step : Value → Option Value) (fresh : Option Value) (path : Path)
    (value : Value) :
    update? step fresh path value = (value.slot? path).bind fun slot ↦
      (slot.elim fresh step).map (value.fill path) := by
  induction path generalizing value with
  | nil =>
    simp only [update?, slot?_nil, Option.bind_some, Option.elim_some]
    cases step value <;> simp
  | cons segment rest ih =>
    cases hchild : value.child? segment with
    | some next =>
      have hfill : value.fill (segment :: rest) =
          fun new ↦ value.withChild segment (next.fill rest new) :=
        funext (fill_cons_of_child hchild rest)
      have hdescend : update? step fresh (segment :: rest) value =
          (update? step fresh rest next).map (value.withChild segment) := by
        cases segment <;> cases value <;>
          simp_all [child?, atKey?, atIndex?, entries?, items?, update?] <;> rfl
      rw [hdescend, ih, slot?_cons_of_child hchild, hfill]
      cases next.slot? rest with
      | none => rfl
      | some slot => simp [Option.map_map, Function.comp_def]
    | none =>
      have hfill : value.fill (segment :: rest) = value.withChild segment :=
        funext (fill_cons_of_missing hchild rest)
      rw [slot?_cons_of_missing hchild, hfill]
      cases segment <;> cases value <;>
        simp_all [child?, atKey?, atIndex?, entries?, items?, update?, grows]
      split <;> simp_all
      rfl

/-- The value that a change makes at a path, if it can be made there. -/
def outcomeAt? (change : Change) (root : Value) (path : Path) : Option Value :=
  (root.slot? path).bind change.onSlot?

/-- A write looks at the slot of its path alone and puts the outcome back. -/
theorem change?_eq (root : Value) (path : Path) (change : Change) :
    root.change? path change = (root.outcomeAt? change path).map (root.fill path) := by
  rw [change?, update?_eq, outcomeAt?]
  cases root.slot? path with
  | none => rfl
  | some slot => cases slot <;> rfl

theorem isSome_change? (root : Value) (path : Path) (change : Change) :
    (root.change? path change).isSome = (root.outcomeAt? change path).isSome := by
  rw [change?_eq, Option.isSome_map]

/-- A write that can be made puts its outcome into the slot of its path. -/
theorem change_of_outcomeAt? {change : Change} {root new : Value} {path : Path}
    (houtcome : root.outcomeAt? change path = some new) :
    root.change path change = root.fill path new := by
  rw [Value.change, change?_eq, houtcome, Option.map_some, Option.getD_some]

/-- A write that cannot be made leaves the document as it was. -/
theorem change_of_outcomeAt?_eq_none {change : Change} {root : Value} {path : Path}
    (houtcome : root.outcomeAt? change path = none) : root.change path change = root := by
  rw [Value.change, change?_eq, houtcome, Option.map_none, Option.getD_none]

theorem slot?_isSome_of_outcomeAt? {change : Change} {root new : Value} {path : Path}
    (houtcome : root.outcomeAt? change path = some new) : (root.slot? path).isSome := by
  obtain ⟨slot, hslot, -⟩ := Option.bind_eq_some_iff.mp houtcome
  rw [hslot]
  rfl

end Value

end DocTree
