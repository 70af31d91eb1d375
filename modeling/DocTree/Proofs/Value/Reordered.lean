import DocTree.Proofs.Position.Distinct
import DocTree.Proofs.Value.Children
import Mathlib.Data.List.Forall2
import Mathlib.Data.List.Nodup

/-!
# Values up to the order of entries

`Value.Reordered` relates two values that differ in nothing but the order of the entries of objects,
at any depth. When keys are distinct such objects are told apart by no lookup
(`reordered_object_iff`), so that a segment leads from both values to the like, or from neither to
anything (`Reordered.child?`). Conversely, values are related when they show the same at every path:
the scalar there, the number of elements, or that there is an object (`reordered_of_outlineAt?`).
-/

set_option autoImplicit false
set_option relaxedAutoImplicit false

namespace Option

variable {α β γ δ : Type} {r : α → β → Prop} {s : γ → δ → Prop} {first : Option α}
  {second : Option β}

theorem rel_some_left_iff {a : α} :
    Option.Rel r (some a) second ↔ ∃ b, second = some b ∧ r a b := by
  constructor
  · rintro (hrelated | _)
    exact ⟨_, rfl, hrelated⟩
  · rintro ⟨b, rfl, hrelated⟩
    exact .some hrelated

/-- Related values agree on what holds of the value if there is one. -/
theorem exists_eq_some_iff_of_rel {p : α → Prop} {q : β → Prop} (hrel : Option.Rel r first second)
    (hvalues : ∀ a b, first = some a → r a b → (p a ↔ q b)) :
    (∃ a, first = some a ∧ p a) ↔ ∃ b, second = some b ∧ q b := by
  cases hrel with
  | some hrelated => simpa using hvalues _ _ rfl hrelated
  | none => simp

theorem rel_cases (hrel : Option.Rel r first second) :
    (first = none ∧ second = none) ∨ ∃ a b, first = some a ∧ second = some b ∧ r a b := by
  cases hrel with
  | some hrelated => exact .inr ⟨_, _, rfl, rfl, hrelated⟩
  | none => exact .inl ⟨rfl, rfl⟩

theorem isSome_eq_of_rel (hrel : Option.Rel r first second) : first.isSome = second.isSome := by
  cases hrel <;> rfl

theorem map_eq_map_of_rel {f : α → γ} {g : β → γ} (hrel : Option.Rel r first second)
    (hvalues : ∀ a b, r a b → f a = g b) : first.map f = second.map g := by
  cases hrel with
  | some hrelated => exact congrArg some (hvalues _ _ hrelated)
  | none => rfl

theorem rel_bind {f : α → Option γ} {g : β → Option δ} (hrel : Option.Rel r first second)
    (hnext : ∀ a b, first = some a → r a b → Option.Rel s (f a) (g b)) :
    Option.Rel s (first.bind f) (second.bind g) := by
  cases hrel with
  | some hrelated => exact hnext _ _ rfl hrelated
  | none => exact .none

end Option

namespace DocTree

namespace Entries

variable {α : Type} {entries others : Entries α} {key : String} {value : α}

theorem get?_eq_some_iff (hdistinct : entries.keys.Nodup) :
    entries.get? key = some value ↔ (key, value) ∈ entries :=
  ⟨mem_of_get?, get?_of_mem hdistinct⟩

theorem nodup_of_nodup_keys (hdistinct : entries.keys.Nodup) : entries.Nodup :=
  List.Nodup.of_map Prod.fst hdistinct

/-- The order of entries with distinct keys does not matter to a lookup. -/
theorem get?_of_perm (hperm : others.Perm entries) (hdistinct : entries.keys.Nodup)
    (key : String) : others.get? key = entries.get? key := by
  have hothers : others.keys.Nodup := (hperm.map Prod.fst).nodup_iff.mpr hdistinct
  refine Option.ext fun value ↦ ?_
  rw [get?_eq_some_iff hothers, get?_eq_some_iff hdistinct, hperm.mem_iff]

theorem perm_of_get? (hentries : entries.keys.Nodup) (hothers : others.keys.Nodup)
    (hget : ∀ key, others.get? key = entries.get? key) : others.Perm entries := by
  refine (List.perm_ext_iff_of_nodup (nodup_of_nodup_keys hothers)
    (nodup_of_nodup_keys hentries)).mpr fun entry ↦ ?_
  rw [← get?_eq_some_iff hothers, ← get?_eq_some_iff hentries, hget]

/-- Values that are related in the places of their entries are related under their keys. -/
theorem rel_get? {r : α → α → Prop} (hkeys : others.keys = entries.keys)
    (hvalues : List.Forall₂ r (entries.map Prod.snd) (others.map Prod.snd)) (key : String) :
    Option.Rel r (entries.get? key) (others.get? key) := by
  induction entries generalizing others with
  | nil =>
    obtain rfl : others = [] := List.map_eq_nil_iff.mp hkeys
    exact .none
  | cons entry rest ih =>
    cases others with
    | nil => cases hkeys
    | cons other more =>
      obtain ⟨name, first⟩ := entry
      obtain ⟨second, value⟩ := other
      simp only [keys_cons, List.cons.injEq] at hkeys
      obtain ⟨rfl, hkeys⟩ := hkeys
      obtain ⟨hfirst, hrest⟩ := List.forall₂_cons.mp hvalues
      by_cases hname : second = key
      · simp only [get?, hname, if_true]
        exact .some hfirst
      · simp only [get?, hname, if_false]
        exact ih hkeys hrest

end Entries

namespace Value

section Pairs

variable {α β : Type} {r : α → β → Prop} {firsts : List α} {seconds : List β}

theorem exists_mem_of_forall₂ (hpairs : List.Forall₂ r firsts seconds) {second : β}
    (hsecond : second ∈ seconds) : ∃ first ∈ firsts, r first second := by
  induction hpairs with
  | nil => cases hsecond
  | cons hpair hrest ih =>
    rcases List.mem_cons.mp hsecond with rfl | hlater
    · exact ⟨_, List.mem_cons_self, hpair⟩
    · obtain ⟨first, hfirst, hrelated⟩ := ih hlater
      exact ⟨first, List.mem_cons_of_mem _ hfirst, hrelated⟩

theorem forall₂_imp_of_mem {s : α → β → Prop} (hpairs : List.Forall₂ r firsts seconds)
    (himp : ∀ first ∈ firsts, ∀ second, r first second → s first second) :
    List.Forall₂ s firsts seconds := by
  induction hpairs with
  | nil => exact .nil
  | cons hpair hrest ih =>
    obtain ⟨hfirst, hothers⟩ := List.forall_mem_cons.mp himp
    exact .cons (hfirst _ hpair) (ih hothers)

theorem map_eq_map_of_forall₂ {γ : Type} {f : α → γ} {g : β → γ}
    (hpairs : List.Forall₂ (fun first second ↦ f first = g second) firsts seconds) :
    firsts.map f = seconds.map g := by
  rw [← List.forall₂_eq_eq_eq]
  exact List.forall₂_map_left_iff.mpr (List.forall₂_map_right_iff.mpr hpairs)

theorem rel_getElem?_of_forall₂ (hpairs : List.Forall₂ r firsts seconds) (position : Nat) :
    Option.Rel r firsts[position]? seconds[position]? := by
  induction hpairs generalizing position with
  | nil => exact .none
  | cons hpair hrest ih =>
    cases position with
    | zero => exact .some hpair
    | succ position => exact ih position

end Pairs

/-- `other` is `value` with the entries of objects in another order: first the values of the entries
are put in order, and then the entries. -/
inductive Reordered : Value → Value → Prop
  | scalar {value : Value} (hscalar : value.isContainer = false) : Reordered value value
  | array {items others : List Value} (hitems : List.Forall₂ Reordered items others) :
      Reordered (.array items) (.array others)
  | object {entries inside others : Entries Value} (hkeys : inside.keys = entries.keys)
      (hvalues : List.Forall₂ Reordered (entries.map Prod.snd) (inside.map Prod.snd))
      (hperm : others.Perm inside) : Reordered (.object entries) (.object others)

variable {value other : Value} {entries others : Entries Value} {segment : Segment}

theorem Reordered.refl (value : Value) : Reordered value value := by
  induction value using childInduction with
  | scalar value hscalar => exact .scalar hscalar
  | array items ih => exact .array (List.forall₂_same.mpr ih)
  | object entries ih =>
    refine .object rfl ?_ (List.Perm.refl entries)
    rw [List.forall₂_map_left_iff, List.forall₂_map_right_iff, List.forall₂_same]
    exact ih

/-- Objects with distinct keys are the same up to the order of entries when every key leads from
both to the like, or from neither to anything. -/
theorem reordered_object_iff (hentries : entries.keys.Nodup) (hothers : others.keys.Nodup) :
    Reordered (.object entries) (.object others) ↔
      ∀ key, Option.Rel Reordered (entries.get? key) (others.get? key) := by
  constructor
  · intro hreordered key
    cases hreordered with
    | scalar hscalar => cases hscalar
    | object hkeys hvalues hperm =>
      rw [Entries.get?_of_perm hperm (hkeys ▸ hentries)]
      exact Entries.rel_get? hkeys hvalues key
  · intro hget
    have hfound : ∀ entry ∈ entries, ∃ found, others.get? entry.1 = some found ∧
        Reordered entry.2 found := by
      intro entry hentry
      have hrel := hget entry.1
      rwa [Entries.get?_of_mem hentries hentry, Option.rel_some_left_iff] at hrel
    -- The values of the second object in the order of the keys of the first.
    let inside : Entries Value :=
      entries.map fun entry ↦ (entry.1, (others.get? entry.1).getD entry.2)
    have hkeys : inside.keys = entries.keys := by
      simp [inside, Entries.keys]
    have hinside : inside.keys.Nodup := hkeys ▸ hentries
    refine .object hkeys ?values (Entries.perm_of_get? hinside hothers fun key ↦ ?lookup)
    case values =>
      simp only [inside, List.map_map, List.forall₂_map_left_iff, List.forall₂_map_right_iff,
        List.forall₂_same]
      intro entry hentry
      obtain ⟨found, hother, hreordered⟩ := hfound entry hentry
      simpa [hother] using hreordered
    case lookup =>
      rcases Option.rel_cases (hget key) with ⟨hentry, hother⟩ | ⟨value, found, hentry, hother, -⟩
      · have hmissing : inside.get? key = none := by
          rw [← Option.not_isSome_iff_eq_none, Entries.get?_isSome_iff, hkeys,
            ← Entries.get?_isSome_iff, hentry]
          exact Bool.false_ne_true
        rw [hmissing, hother]
      · have hplaced : (key, found) ∈ inside :=
          List.mem_map.mpr ⟨_, Entries.mem_of_get? hentry, by rw [hother, Option.getD_some]⟩
        rw [hother, Entries.get?_of_mem hinside hplaced]

/-! ### What is reordered, child by child -/

theorem Reordered.distinctKeys (hreordered : Reordered value other) (hvalue : value.DistinctKeys) :
    other.DistinctKeys := by
  induction value using childInduction generalizing other with
  | scalar value hscalar =>
    cases hreordered with
    | scalar => exact hvalue
    | array => cases hscalar
    | object => cases hscalar
  | array items ih =>
    cases hreordered with
    | scalar hscalar => exact hvalue
    | array hitems =>
      rw [distinctKeys_array] at hvalue ⊢
      intro other hother
      obtain ⟨item, hitem, hrelated⟩ := exists_mem_of_forall₂ hitems hother
      exact ih item hitem hrelated (hvalue item hitem)
  | object entries ih =>
    cases hreordered with
    | scalar hscalar => exact hvalue
    | object hkeys hvalues hperm =>
      rw [distinctKeys_object] at hvalue ⊢
      have hinside : (Entries.keys _).Nodup := hkeys ▸ hvalue.1
      refine ⟨(hperm.map Prod.fst).nodup_iff.mpr hinside, fun entry hentry ↦ ?_⟩
      obtain ⟨first, hfirst, hrelated⟩ :=
        exists_mem_of_forall₂ hvalues (List.mem_map_of_mem (hperm.mem_iff.mp hentry))
      obtain ⟨original, horiginal, rfl⟩ := List.mem_map.mp hfirst
      exact ih original horiginal hrelated (hvalue.2 original horiginal)

/-- A segment leads from both values to the like, or from neither to anything. -/
theorem Reordered.child? (hreordered : Reordered value other) (hvalue : value.DistinctKeys)
    (segment : Segment) : Option.Rel Reordered (value.child? segment) (other.child? segment) := by
  cases hreordered with
  | scalar hscalar =>
    cases value with
    | array items => cases hscalar
    | object entries => cases hscalar
    | _ => cases segment <;> exact .none
  | array hitems =>
    cases segment with
    | key name => exact .none
    | index position => exact rel_getElem?_of_forall₂ hitems position
  | object hkeys hvalues hperm =>
    cases segment with
    | key name =>
      rw [child?_object_key, child?_object_key, Entries.get?_of_perm hperm (hkeys ▸ hvalue.keys)]
      exact Entries.rel_get? hkeys hvalues name
    | index position => exact .none

theorem Reordered.grows (hreordered : Reordered value other) (segment : Segment) :
    other.grows segment = value.grows segment := by
  cases hreordered with
  | scalar => rfl
  | array => rfl
  | object => cases segment <;> rfl

/-- A path leads in both values to the like, or in neither to anything. -/
theorem Reordered.get? (hreordered : Reordered value other) (hvalue : value.DistinctKeys)
    (path : Path) : Option.Rel Reordered (value.get? path) (other.get? path) := by
  induction path generalizing value other with
  | nil =>
    rw [get?_nil, get?_nil]
    exact .some hreordered
  | cons segment rest ih =>
    rw [get?_cons, get?_cons]
    exact Option.rel_bind (hreordered.child? hvalue segment) fun next twin hnext hrelated ↦
      ih hrelated (hvalue.child? hnext)

/-! ### Outlines -/

/-- What shows of a value without its children: a scalar, the number of elements of an array, or
that there is an object. -/
def outline : Value → Value
  | array items => array (List.replicate items.length null)
  | object _ => object []
  | scalar => scalar

/-- The outline of the value at a path. -/
def outlineAt? (root : Value) (path : Path) : Option Value := (root.get? path).map outline

theorem Reordered.outline (hreordered : Reordered value other) : value.outline = other.outline := by
  cases hreordered with
  | scalar => rfl
  | array hitems => rw [Value.outline, Value.outline, hitems.length_eq]
  | object => rfl

theorem outline_of_scalar (hscalar : value.isContainer = false) : value.outline = value := by
  cases value with
  | array items => cases hscalar
  | object entries => cases hscalar
  | _ => rfl

theorem outlineAt?_cons (root : Value) (segment : Segment) (rest : Path) :
    root.outlineAt? (segment :: rest) = (root.child? segment).bind (·.outlineAt? rest) := by
  rw [outlineAt?, get?_cons]
  cases root.child? segment <;> rfl

theorem Reordered.outlineAt? (hreordered : Reordered value other) (hvalue : value.DistinctKeys)
    (path : Path) : value.outlineAt? path = other.outlineAt? path :=
  Option.map_eq_map_of_rel (hreordered.get? hvalue path) fun _ _ hrelated ↦ hrelated.outline

/-- A segment leads from values that show the same at every path to such values, or from neither to
anything. -/
theorem rel_child?_of_outlineAt? (hsame : ∀ path, value.outlineAt? path = other.outlineAt? path)
    (segment : Segment) :
    Option.Rel (fun next twin : Value ↦ ∀ path, next.outlineAt? path = twin.outlineAt? path)
      (value.child? segment) (other.child? segment) := by
  have hbelow := fun rest ↦ hsame (segment :: rest)
  simp only [outlineAt?_cons] at hbelow
  cases hnext : value.child? segment with
  | some next =>
    cases htwin : other.child? segment with
    | some twin => exact .some fun rest ↦ by simpa [hnext, htwin] using hbelow rest
    | none => simpa [hnext, htwin, outlineAt?] using hbelow []
  | none =>
    cases htwin : other.child? segment with
    | some twin => simpa [hnext, htwin, outlineAt?] using hbelow []
    | none => exact .none

/-- Values that show the same at every path differ in nothing but the order of entries. -/
theorem reordered_of_outlineAt? (hvalue : value.DistinctKeys) (hother : other.DistinctKeys)
    (hsame : ∀ path, value.outlineAt? path = other.outlineAt? path) : Reordered value other := by
  induction value using childInduction generalizing other with
  | scalar value hscalar =>
    have hshape : value.outline = other.outline := by
      simpa [outlineAt?] using hsame []
    rw [outline_of_scalar hscalar] at hshape
    obtain rfl : value = other := by
      cases other with
      | array others =>
        rw [hshape] at hscalar
        cases hscalar
      | object others =>
        rw [hshape] at hscalar
        cases hscalar
      | _ => exact hshape
    exact .scalar hscalar
  | array items ih =>
    cases other with
    | array others =>
      have hlength : items.length = others.length := by
        simpa [outlineAt?, Value.outline] using hsame []
      rw [distinctKeys_array] at hvalue hother
      refine .array (List.forall₂_iff_get.mpr ⟨hlength, fun position hitem hthere ↦ ?_⟩)
      have hrel := rel_child?_of_outlineAt? hsame (.index position)
      simp only [child?_array_index, List.getElem?_eq_getElem hitem,
        List.getElem?_eq_getElem hthere] at hrel
      obtain ⟨twin, htwin, hbelow⟩ := Option.rel_some_left_iff.mp hrel
      obtain rfl := Option.some_inj.mp htwin
      exact ih _ (List.getElem_mem hitem) (hvalue _ (List.getElem_mem hitem))
        (hother _ (List.getElem_mem hthere)) hbelow
    | _ => simpa [outlineAt?, Value.outline] using hsame []
  | object entries ih =>
    cases other with
    | object others =>
      refine (reordered_object_iff hvalue.keys hother.keys).mpr fun key ↦ ?_
      have hrel := rel_child?_of_outlineAt? hsame (.key key)
      rw [child?_object_key, child?_object_key] at hrel
      rcases Option.rel_cases hrel with
        ⟨hnext, htwin⟩ | ⟨next, twin, hnext, htwin, hbelow⟩
      · rw [hnext, htwin]
        exact .none
      · have hchild : (Value.object entries).child? (.key key) = some next := hnext
        have hthere : (Value.object others).child? (.key key) = some twin := htwin
        rw [hnext, htwin]
        exact .some (ih _ (Entries.mem_of_get? hnext) (hvalue.child? hchild)
          (hother.child? hthere) hbelow)
    | _ => simpa [outlineAt?, Value.outline] using hsame []

end Value

end DocTree
