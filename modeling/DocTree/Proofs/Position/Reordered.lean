import DocTree.Proofs.Position.Repeat
import DocTree.Proofs.Value.Reordered

/-!
# Writes whatever the order of entries

Values that differ only in the order of entries have the like in the slot of every path, and a
change makes the like of it (`Reordered.outcomeAt?`). Filling a slot shows at no path that does not lead
through it (`outlineAt?_fill`).
-/

set_option autoImplicit false
set_option relaxedAutoImplicit false

namespace DocTree.Value

variable {root value other new : Value} {change : Change} {path place : Path} {paths : List Path}

/-! ### One change -/

theorem Reordered.slot? (hreordered : Reordered value other) (hvalue : value.DistinctKeys)
    (path : Path) : Option.Rel (Option.Rel Reordered) (value.slot? path) (other.slot? path) := by
  induction path generalizing value other with
  | nil =>
    rw [slot?_nil, slot?_nil]
    exact .some (.some hreordered)
  | cons segment rest ih =>
    rcases Option.rel_cases (hreordered.child? hvalue segment) with
      ⟨hchild, hthere⟩ | ⟨next, twin, hchild, hthere, hrelated⟩
    · rw [slot?_cons_of_missing hchild, slot?_cons_of_missing hthere, hreordered.grows]
      split
      · exact .some .none
      · exact .none
    · rw [slot?_cons_of_child hchild, slot?_cons_of_child hthere]
      exact ih hrelated (hvalue.child? hchild)

theorem Reordered.insertAll {entries others incoming : Entries Value}
    (hreordered : Reordered (.object entries) (.object others))
    (hentries : (Value.object entries).DistinctKeys) (hincoming : incoming.keys.Nodup) :
    Reordered (.object (entries.insertAll incoming)) (.object (others.insertAll incoming)) := by
  have hothers := (hreordered.distinctKeys hentries).keys
  refine (reordered_object_iff (Entries.nodup_keys_insertAll incoming hentries.keys)
    (Entries.nodup_keys_insertAll incoming hothers)).mpr fun key ↦ ?_
  cases hkey : incoming.get? key with
  | some value =>
    have hmem := Entries.mem_of_get? hkey
    rw [Entries.get?_insertAll hincoming hmem, Entries.get?_insertAll hincoming hmem]
    exact .some (.refl value)
  | none =>
    have hnew : key ∉ incoming.keys := fun hmem ↦ by
      simpa [hkey] using Entries.get?_isSome_iff.mpr hmem
    rw [Entries.get?_insertAll_of_not_mem hnew, Entries.get?_insertAll_of_not_mem hnew]
    exact (reordered_object_iff hentries.keys hothers).mp hreordered key

theorem Reordered.merge {incoming : Value} (hreordered : Reordered value other)
    (hvalue : value.DistinctKeys) (hincoming : incoming.DistinctKeys) :
    Reordered (value.merge incoming) (other.merge incoming) := by
  cases hreordered with
  | scalar hscalar => exact .refl _
  | array hitems =>
    cases incoming with
    | array added =>
      exact .array (List.rel_append hitems (List.forall₂_same.mpr fun item _ ↦ .refl item))
    | _ => exact .refl _
  | object hkeys hvalues hperm =>
    cases incoming with
    | object added => exact (Reordered.object hkeys hvalues hperm).insertAll hvalue hincoming.keys
    | _ => exact .refl _

/-- A change makes the like of values that differ only in the order of entries. -/
theorem Reordered.outcome? (hreordered : Reordered value other) (hvalue : value.DistinctKeys)
    (hchange : change.DistinctKeys) :
    Option.Rel Reordered (change.outcome? value) (change.outcome? other) := by
  cases change with
  | replace incoming => exact .some (hreordered.merge hvalue hchange)
  | append item =>
    cases hreordered with
    | scalar hscalar =>
      cases value <;> first | exact .none | exact .some (.refl _)
    | array hitems =>
      exact .some (.array (List.rel_append hitems (List.forall₂_same.mpr fun item _ ↦ .refl item)))
    | object => exact .none
  | put key item =>
    cases hreordered with
    | scalar hscalar =>
      cases value <;> first | exact .none | exact .some (.refl _)
    | array => exact .none
    | object hkeys hvalues hperm =>
      have hwritten : (Entries.keys [(key, item)]).Nodup := List.nodup_singleton key
      exact .some ((Reordered.object hkeys hvalues hperm).insertAll hvalue hwritten)

theorem Reordered.outcomeAt? (hreordered : Reordered root other) (hroot : root.DistinctKeys)
    (hchange : change.DistinctKeys) (path : Path) :
    Option.Rel Reordered (root.outcomeAt? change path) (other.outcomeAt? change path) := by
  refine Option.rel_bind (hreordered.slot? hroot path) fun slot twin hslot hrelated ↦ ?_
  rcases Option.rel_cases hrelated with ⟨rfl, rfl⟩ | ⟨target, found, rfl, rfl, hfound⟩
  · cases change with
    | replace incoming => exact .some (.refl incoming)
    | append item => exact .none
    | put key item => exact .none
  · have hget : root.get? path = some target := by
      rw [get?_eq_slot?, hslot]
      rfl
    exact hfound.outcome? (hroot.get? hget) hchange

/-! ### What a filled slot shows -/

theorem outline_withChild (value : Value) (segment : Segment) (new : Value) :
    (value.withChild segment new).outline = value.outline := by
  cases value with
  | array items =>
    cases segment with
    | key name => rfl
    | index position => simp [withChild, outline]
  | object entries => cases segment <;> rfl
  | _ => rfl

/-- Filling a slot shows at no path that does not lead through it. -/
theorem outlineAt?_fill (hslot : (root.slot? path).isSome) (hthrough : ¬ path <+: place)
    (new : Value) : (root.fill path new).outlineAt? place = root.outlineAt? place := by
  induction path generalizing root place with
  | nil => exact absurd List.nil_prefix hthrough
  | cons segment rest ih =>
    cases place with
    | nil =>
      have hshape : ∀ child, (root.withChild segment child).outlineAt? [] = root.outlineAt? [] :=
        fun child ↦ by simp [outlineAt?, outline_withChild]
      cases hchild : root.child? segment with
      | some next => rw [fill_cons_of_child hchild, hshape]
      | none => rw [fill_cons_of_missing hchild, hshape]
    | cons second more =>
      by_cases hsegment : segment = second
      · subst hsegment
        rw [List.cons_prefix_cons, and_iff_right rfl] at hthrough
        cases hchild : root.child? segment with
        | some next =>
          rw [slot?_cons_of_child hchild] at hslot
          rw [fill_cons_of_child hchild, outlineAt?_cons, outlineAt?_cons,
            child?_withChild_self (.inl (by simp [hchild])), hchild, Option.bind_some,
            Option.bind_some, ih hslot hthrough]
        | none =>
          have hnil : rest ≠ [] := fun hnil ↦ hthrough (hnil ▸ List.nil_prefix)
          simp [slot?_cons_of_missing hchild, hnil] at hslot
      · have hother : ∀ child, (root.withChild segment child).outlineAt? (second :: more) =
            root.outlineAt? (second :: more) := fun child ↦ by
          rw [outlineAt?_cons, outlineAt?_cons, child?_withChild_of_ne hsegment]
        cases hchild : root.child? segment with
        | some next => rw [fill_cons_of_child hchild, hother]
        | none => rw [fill_cons_of_missing hchild, hother]

end DocTree.Value
