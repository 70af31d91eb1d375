import DocTree.Proofs.Json.Lines
import DocTree.Proofs.Position.Order

/-!
# Values that are not written

A value with a float that is infinite or NaN cannot be written as JSON, and neither can one whose
containers nest deeper than the reader allows (`Format.render_refused_iff`). The error names the
first such float in the order in which the value is written. That order is defined on the value
itself (`Value.WrittenBefore`): two paths part at a container, and its entries are written by key
when keys are sorted. The search for the float goes through the arranged value instead, and finds
the same one (`Value.exists_firstNonFinite`), because in every container the children are arranged
in that order and only those before the first one with such a float are passed over
(`FirstNonFinite.below`).
-/

set_option autoImplicit false
set_option relaxedAutoImplicit false

namespace DocTree

namespace Value

variable {value container child : Value} {sorted : Bool} {number : Float} {path : Path}
  {segment : Segment} {entries : Entries Value}

/-! ### The order in which a value is written -/

/-- Whether one segment names a child of a value that is written before another child. The entries
of an object are written by key when keys are sorted; all other children are written in the order
they have. -/
def ChildBefore (sorted : Bool) (value : Value) (first second : Segment) : Prop :=
  match sorted, value, first, second with
  | true, object _, .key one, .key two => one < two
  | _, _, _, _ => value.Before first second

theorem childBefore_array_iff {items : List Value} {first second : Segment} :
    (array items).ChildBefore sorted first second ↔ (array items).Before first second := by
  cases sorted <;> rfl

/-- Whether what is at one path is written before what is at another: after a common front they name
different children of one container, and the child of the first is written before. -/
def WrittenBefore (sorted : Bool) (root : Value) (first second : Path) : Prop :=
  ∃ front container earlier later firstRest secondRest,
    first = front ++ earlier :: firstRest ∧ second = front ++ later :: secondRest ∧
      root.get? front = some container ∧ container.ChildBefore sorted earlier later

theorem ChildBefore.writtenBefore {first second : Segment}
    (hbefore : container.ChildBefore sorted first second) (firstRest secondRest : Path) :
    container.WrittenBefore sorted (first :: firstRest) (second :: secondRest) :=
  ⟨[], container, first, second, firstRest, secondRest, rfl, rfl, get?_nil container, hbefore⟩

theorem WrittenBefore.below {first second : Path} (hchild : container.child? segment = some child)
    (hbefore : child.WrittenBefore sorted first second) :
    container.WrittenBefore sorted (segment :: first) (segment :: second) := by
  obtain ⟨front, parent, earlier, later, firstRest, secondRest, rfl, rfl, hparent, hsegments⟩ :=
    hbefore
  exact ⟨segment :: front, parent, earlier, later, firstRest, secondRest, rfl, rfl,
    get?_cons_eq_some_iff.mpr ⟨child, hchild, hparent⟩, hsegments⟩

/-- The entries of an object are arranged in the order in which they are written, with the values in
them arranged. -/
theorem exists_arrange_object (hdistinct : entries.keys.Nodup) (sorted : Bool) :
    ∃ shown : Entries Value, (object entries).arrange sorted = object shown ∧
      shown.Perm (entries.map fun entry ↦ (entry.1, entry.2.arrange sorted)) ∧
        shown.keys.Pairwise fun one two ↦
          (object entries).ChildBefore sorted (.key one) (.key two) := by
  cases sorted with
  | false =>
    refine ⟨entries, rfl, (List.map_id entries).symm ▸ .refl _, ?_⟩
    rw [List.pairwise_iff_getElem]
    intro i j hi hj hlt
    exact before_of_keys hdistinct (List.getElem?_eq_getElem hi) (List.getElem?_eq_getElem hj) hlt
  | true =>
    refine ⟨Entries.sort (sortKeysEntries entries), rfl, ?_, ?_⟩
    · exact (Entries.sort_perm _).trans (.of_eq (sortKeysEntries_eq_map entries))
    · refine Entries.pairwise_keys_sort ?_
      rwa [keys_sortKeysEntries]

/-! ### The first float that cannot be written -/

/-- Whether a float that is infinite or NaN is at a path of a value, and no other one is written
before it. -/
structure FirstNonFinite (sorted : Bool) (value : Value) (path : Path) (number : Float) : Prop where
  float : value.get? path = some (.float number)
  nonFinite : number.isFinite = false
  first : ∀ other next, value.get? other = some (.float next) → next.isFinite = false →
    other = path ∨ value.WrittenBefore sorted path other

theorem firstNonFinite_float (hnumber : number.isFinite = false) :
    (float number).FirstNonFinite sorted [] number where
  float := get?_nil (float number)
  nonFinite := hnumber
  first := by
    intro other next hother hnext
    cases other with
    | nil => exact .inl rfl
    | cons step rest =>
      rw [get?_cons, child?_of_scalar rfl step] at hother
      cases hother

/-- The first one in a child is the first one in its container, if no child that is written before
has any. -/
theorem FirstNonFinite.below (hcontainer : container.isContainer = true)
    (hchild : container.child? segment = some child)
    (hfirst : child.FirstNonFinite sorted path number)
    (hlater : ∀ other next, container.child? other = some next → ¬ next.FiniteFloats →
      other = segment ∨ container.ChildBefore sorted segment other) :
    container.FirstNonFinite sorted (segment :: path) number where
  float := get?_cons_eq_some_iff.mpr ⟨child, hchild, hfirst.float⟩
  nonFinite := hfirst.nonFinite
  first := by
    intro other next hother hnext
    cases other with
    | nil =>
      obtain rfl := Option.some.inj ((get?_nil container).symm.trans hother)
      cases hcontainer
    | cons step rest =>
      obtain ⟨twin, htwin, hrest⟩ := get?_cons_eq_some_iff.mp hother
      have hnonFinite : ¬ twin.FiniteFloats := fun hfinite ↦ by
        rw [hfinite rest next hrest] at hnext
        cases hnext
      rcases hlater step twin htwin hnonFinite with rfl | hbefore
      · obtain rfl := Option.some.inj (hchild.symm.trans htwin)
        exact (hfirst.first rest next hrest hnext).imp (congrArg (step :: ·)) (.below hchild)
      · exact .inr (hbefore.writtenBefore path rest)

theorem nonFiniteItems?_eq_findSome? (items : List Value) :
    nonFiniteItems? items = items.findSome? nonFinite? := by
  induction items with
  | nil => rfl
  | cons item items ih =>
    rw [nonFiniteItems?, ih, List.findSome?_cons]
    cases nonFinite? item <;> rfl

theorem nonFiniteEntries?_eq_findSome? (entries : Entries Value) :
    nonFiniteEntries? entries = entries.findSome? fun entry ↦ entry.2.nonFinite? := by
  induction entries with
  | nil => rfl
  | cons entry rest ih =>
    obtain ⟨key, value⟩ := entry
    rw [nonFiniteEntries?, ih, List.findSome?_cons]
    cases nonFinite? value <;> rfl

/-- Arranging a value neither adds nor removes a float that is infinite or NaN. -/
theorem nonFinite?_arrange_eq_none_iff (hdistinct : value.DistinctKeys) (sorted : Bool) :
    (value.arrange sorted).nonFinite? = none ↔ value.FiniteFloats := by
  rw [← nonFinite?_eq_none_iff hdistinct]
  cases sorted with
  | false => rfl
  | true => exact nonFinite?_sortKeys_eq_none_iff

/-- The search through an arranged value finds the first float that is infinite or NaN in the order
in which the value is written. -/
theorem exists_firstNonFinite (hdistinct : value.DistinctKeys)
    (hfound : (value.arrange sorted).nonFinite? = some number) :
    ∃ path, value.FirstNonFinite sorted path number := by
  induction value using childInduction generalizing number with
  | scalar value hscalar =>
    have hself : value.arrange sorted = value := by
      cases sorted with
      | false => rfl
      | true => exact sortKeys_of_scalar hscalar
    rw [hself] at hfound
    obtain ⟨rfl, hnumber⟩ : value = .float number ∧ number.isFinite = false := by
      cases value with
      | array items => cases hscalar
      | object entries => cases hscalar
      | float other =>
        obtain ⟨rfl, hnumber⟩ : other = number ∧ other.isFinite = false := by
          simpa [nonFinite?, and_comm] using hfound
        exact ⟨rfl, hnumber⟩
      | _ => simp [nonFinite?] at hfound
    exact ⟨[], firstNonFinite_float hnumber⟩
  | array items ih =>
    rw [DistinctKeys, distinctKeysItems_iff] at hdistinct
    rw [arrange_array, nonFinite?, nonFiniteItems?_eq_findSome?, List.findSome?_map,
      List.findSome?_eq_some_iff] at hfound
    obtain ⟨front, item, back, rfl, hitem, hfront⟩ := hfound
    obtain ⟨path, hfirst⟩ := ih item (by simp) (hdistinct item (by simp)) hitem
    have hchild : (array (front ++ item :: back)).child? (.index front.length) = some item := by
      simp
    -- The elements before it were passed over, so they have no such float.
    refine ⟨_, hfirst.below rfl hchild fun other next hother hnext ↦ ?_⟩
    cases other with
    | key name => cases hother
    | index position =>
      rw [child?_array_index] at hother
      rcases Nat.lt_trichotomy position front.length with hbefore | rfl | hafter
      · rw [List.getElem?_append_left hbefore] at hother
        have hmem := List.mem_of_getElem? hother
        have hitem := nonFinite?_arrange_eq_none_iff (hdistinct next (by simp [hmem])) sorted
        exact absurd (hitem.mp (hfront next hmem)) hnext
      · exact .inl rfl
      · obtain ⟨hbound, -⟩ := List.getElem?_eq_some_iff.mp hother
        exact .inr (childBefore_array_iff.mpr (before_of_lt hafter hbound))
  | object entries ih =>
    rw [DistinctKeys, distinctKeysEntries_iff] at hdistinct
    obtain ⟨shown, hshown, hperm, hkeys⟩ := exists_arrange_object hdistinct.1 sorted
    rw [hshown, nonFinite?, nonFiniteEntries?_eq_findSome?, List.findSome?_eq_some_iff] at hfound
    obtain ⟨front, found, back, rfl, hentry, hfront⟩ := hfound
    obtain ⟨entry, hmem, rfl⟩ := List.mem_map.mp (hperm.subset (List.mem_append_cons_self))
    obtain ⟨path, hfirst⟩ := ih entry hmem (hdistinct.2 entry hmem) hentry
    have hchild : (object entries).child? (.key entry.1) = some entry.2 :=
      Entries.get?_of_mem hdistinct.1 hmem
    refine ⟨_, hfirst.below rfl hchild fun other next hother hnext ↦ ?_⟩
    cases other with
    | index position => cases hother
    | key name =>
      have hother : (name, next) ∈ entries := Entries.mem_of_get? hother
      have hwritten := hperm.symm.subset (List.mem_map_of_mem hother)
      rcases List.mem_append.mp hwritten with hbefore | hwritten
      · have hentry := nonFinite?_arrange_eq_none_iff (hdistinct.2 _ hother) sorted
        exact absurd (hentry.mp (hfront _ hbefore)) hnext
      rcases List.mem_cons.mp hwritten with hsame | hafter
      · exact .inl (congrArg (Segment.key ·.1) hsame)
      · rw [Entries.keys, List.map_append, List.map_cons, List.pairwise_append] at hkeys
        exact .inr ((List.pairwise_cons.mp hkeys.2.1).1 name (List.mem_map_of_mem hafter))

end Value

/-! ### What is refused -/

variable {value : Value}

/-- A value is refused as JSON for a float that is infinite or NaN, or else because its containers
nest deeper than the reader allows. -/
theorem Format.render_json_eq (hdistinct : value.DistinctKeys) (options : RenderOptions) :
    Format.json.render value options =
      match (value.arrange options.sortKeys).nonFinite? with
      | some number => .error (.json number)
      | none =>
        if value.depth ≤ Json.maxDepth then
          .ok (endLine
            (.ofList (Json.write options.indent 0 (value.arrange options.sortKeys))))
        else .error .unreadable := by
  cases hfound : (value.arrange options.sortKeys).nonFinite? with
  | some number =>
    simp only [Format.render, renderJson, hfound]
    rfl
  | none =>
    have hparse := Json.parse?_write (hdistinct.arrange options.sortKeys) hfound options.indent
    rw [Value.depth_arrange] at hparse
    simp only [Format.render, renderJson, hfound, bind, Except.bind, checkJson, hparse]
    by_cases hdepth : value.depth ≤ Json.maxDepth <;> simp [hdepth]

/-- A value is refused as JSON Lines only for a float that is infinite or NaN. -/
theorem Format.render_jsonLines_eq (value : Value) (options : RenderOptions) :
    Format.jsonLines.render value options =
      match (value.arrange options.sortKeys).nonFinite? with
      | some number => .error (.json number)
      | none => .ok (endLine
        (.ofList (Json.writeLines (Json.lineValues (value.arrange options.sortKeys))))) := by
  cases hfound : (value.arrange options.sortKeys).nonFinite? <;>
  · simp only [Format.render, renderJsonLines, hfound]
    rfl

/-- A value is refused as JSON if a float in it is infinite or NaN or its containers nest more than
127 deep, and as JSON Lines only if a float in it is infinite or NaN. The error names the first such
float in the order in which the value is written. -/
theorem Format.render_refused_iff (hdistinct : value.DistinctKeys) (options : RenderOptions) :
    ((∃ error, Format.json.render value options = .error error) ↔
        ¬ value.FiniteFloats ∨ 127 < value.depth) ∧
      ((∃ error, Format.jsonLines.render value options = .error error) ↔
        ¬ value.FiniteFloats) ∧
      (¬ value.FiniteFloats → ∃ path number,
        value.FirstNonFinite options.sortKeys path number ∧
          Format.json.render value options = .error (.json number) ∧
          Format.jsonLines.render value options = .error (.json number)) := by
  rw [Format.render_json_eq hdistinct, Format.render_jsonLines_eq,
    ← Value.nonFinite?_arrange_eq_none_iff hdistinct options.sortKeys]
  cases hfound : (value.arrange options.sortKeys).nonFinite? with
  | some number =>
    obtain ⟨path, hfirst⟩ := Value.exists_firstNonFinite hdistinct hfound
    exact ⟨by simp, by simp, fun _ ↦ ⟨path, number, hfirst, rfl, rfl⟩⟩
  | none =>
    refine ⟨?_, by simp, fun hnone ↦ absurd rfl hnone⟩
    have hlimit : Json.maxDepth = 127 := rfl
    by_cases hdepth : value.depth ≤ Json.maxDepth <;> simp [hdepth] <;> omega

/-- An infinite float and NaN, under keys that are not in order. -/
def gauges : Value :=
  .object [("north", .float (Float.ofBits 0x7ff0000000000000)),
    ("east", .array [.int 3, .float (Float.ofBits 0x7ff8000000000000)])]

/-- With keys sorted, NaN is written first. -/
theorem Format.render_refused_iff_gauges :
    (∃ path, gauges.FirstNonFinite true path (Float.ofBits 0x7ff8000000000000)) ∧
      Format.json.render gauges ⟨2, true⟩ =
        .error (.json (Float.ofBits 0x7ff8000000000000)) := by
  have hdistinct : gauges.DistinctKeys := by
    simp [gauges, Value.DistinctKeys, Value.DistinctKeysEntries, Value.DistinctKeysItems]
  have hinfinite : (Float.ofBits 0x7ff0000000000000).isFinite = false := by decide +kernel
  have hnan : (Float.ofBits 0x7ff8000000000000).isFinite = false := by decide +kernel
  have hfaulty : ¬ gauges.FiniteFloats := fun hfinite ↦
    Bool.false_ne_true (hinfinite.symm.trans (hfinite [.key "north"] _ rfl))
  obtain ⟨path, number, hfirst, hjson, -⟩ :=
    (Format.render_refused_iff hdistinct ⟨2, true⟩).2.2 hfaulty
  have hfound : (gauges.arrange true).nonFinite? = some (Float.ofBits 0x7ff8000000000000) := by
    simp [gauges, Value.arrange, Value.sortKeys, Value.sortKeysEntries, Value.sortKeysItems,
      Entries.sort, List.mergeSort, Value.nonFinite?, Value.nonFiniteEntries?,
      Value.nonFiniteItems?, hnan]
  have hnumber : number = Float.ofBits 0x7ff8000000000000 := by
    rw [Format.render_json_eq hdistinct, hfound] at hjson
    simpa using hjson.symm
  rw [hnumber] at hfirst hjson
  exact ⟨⟨path, hfirst⟩, hjson⟩

end DocTree
