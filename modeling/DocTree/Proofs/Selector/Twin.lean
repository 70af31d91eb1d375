import DocTree.Proofs.Selector.Level
import Mathlib.Data.List.Forall2

/-!
# One selector in two documents

A selector is resolved in two documents in the same way as long as its filters choose the same
children at the same paths: it reaches the same paths, in the same order
(`Selector.resolveFrom_twin`). A filter that looks at keys, positions and the number of elements, and
at no element itself, chooses the same children after a child has been written, unless the child is
a new key (`Filter.segments_withChild`), and so after any slot further down has been filled
(`Filter.segmentsAt?_fill`).
-/

set_option autoImplicit false
set_option relaxedAutoImplicit false

namespace DocTree

variable {predicate : Option NativePredicate} {root new value : Value} {selector : Selector}
  {filter : Filter} {path : Path} {segment : Segment}

/-! ### What a filter looks at -/

namespace Filter

/-- Whether a filter looks at no element itself. -/
def ignoresElements : Filter → Bool
  | .elementQuery _ => false
  | _ => true

/-- Writing a child that is there changes neither the keys nor the number of elements. A literal key
does not look at the keys either. -/
theorem segments_withChild (hfilter : filter.ignoresElements)
    (hchild : (value.child? segment).isSome ∨ ∃ name, filter = .key name) (new : Value) :
    filter.segments predicate (value.withChild segment new) = filter.segments predicate value := by
  cases value with
  | object entries =>
    cases segment with
    | index position => rfl
    | key name =>
      cases filter with
      | keyQuery query =>
        have hname : name ∈ Entries.keys entries := by
          rw [← Entries.get?_isSome_iff]
          simpa using hchild
        simp only [Value.withChild, segments, Entries.keys_insert, if_pos hname]
      | _ => rfl
  | array items =>
    cases segment with
    | key name => rfl
    | index position =>
      cases filter with
      | elementQuery query => cases hfilter
      | range bounds => simp only [Value.withChild, segments, List.length_set]
      | _ => rfl
  | _ => rfl

/-- The children that a filter chooses at a path, if it leads to a value. -/
def segmentsAt? (predicate : Option NativePredicate) (filter : Filter) (root : Value)
    (path : Path) : Option (Except SelectorError (List Segment)) :=
  (root.get? path).map (filter.segments predicate)

/-- Filling the slot of a longer path does not change what a filter chooses at a path, unless it
adds a key to the very value that the filter looks at. -/
theorem segmentsAt?_fill (hfilter : filter.ignoresElements) {longer : Path}
    (hlength : path.length < longer.length) {slot : Option Value}
    (hslot : root.slot? longer = some slot)
    (hopen : slot = none → path.length + 1 = longer.length → ∃ name, filter = .key name)
    (new : Value) :
    filter.segmentsAt? predicate (root.fill longer new) path =
      filter.segmentsAt? predicate root path := by
  induction path generalizing root longer with
  | nil =>
    cases longer with
    | nil => simp at hlength
    | cons segment rest =>
      simp only [segmentsAt?, Value.get?_nil, Option.map_some, Option.some_inj]
      cases hchild : root.child? segment with
      | some next =>
        rw [Value.fill_cons_of_child hchild]
        exact segments_withChild hfilter (.inl (by simp [hchild])) _
      | none =>
        rw [Value.slot?_cons_of_missing hchild] at hslot
        split at hslot
        · rename_i hgrows
          obtain ⟨hrest, -⟩ := Bool.and_eq_true_iff.mp hgrows
          rw [Value.fill_cons_of_missing hchild]
          refine segments_withChild hfilter (.inr (hopen (Option.some_inj.mp hslot).symm ?_)) _
          simpa using (List.isEmpty_iff.mp hrest).symm
        · cases hslot
  | cons first path ih =>
    cases longer with
    | nil => simp at hlength
    | cons segment rest =>
      simp only [List.length_cons, Nat.add_lt_add_iff_right, Nat.add_right_cancel_iff]
        at hlength hopen
      cases hchild : root.child? segment with
      | none =>
        have hrest : rest ≠ [] := by
          rintro rfl
          simp at hlength
        simp [Value.slot?_cons_of_missing hchild, hrest] at hslot
      | some next =>
        rw [Value.slot?_cons_of_child hchild] at hslot
        simp only [segmentsAt?, Value.get?_cons, Value.fill_cons_of_child hchild]
        by_cases hsegment : segment = first
        · subst hsegment
          rw [Value.child?_withChild_self (.inl (by simp [hchild])), hchild]
          exact ih hlength hslot hopen
        · rw [Value.child?_withChild_of_ne hsegment]

end Filter

/-! ### One selector in two documents -/

/-- Two records of one path, each with what the path leads to in its own document. -/
structure Record.Twin (root new : Value) (depth : Nat) (record other : Record) : Prop where
  path : other.path = record.path
  length : record.path.length = depth
  sound : record.Sound root
  again : other.Sound new

section Twin

variable {depth : Nat} {record other : Record} {records others : List Record}

theorem Record.Twin.map_path (htwins : List.Forall₂ (Record.Twin root new depth) records others) :
    others.map Record.path = records.map Record.path := by
  induction htwins with
  | nil => rfl
  | cons htwin _ ih => rw [List.map_cons, List.map_cons, htwin.path, ih]

theorem Record.Twin.forall_sound
    (htwins : List.Forall₂ (Record.Twin root new depth) records others) :
    ∀ other ∈ others, other.Sound new := by
  induction htwins with
  | nil => exact List.forall_mem_nil _
  | cons htwin _ ih => exact List.forall_mem_cons.mpr ⟨htwin.again, ih⟩

/-- A filter that chooses the same at one path of two documents reaches the same paths there. -/
theorem Filter.expand_twin {reached : List Record} (hroot : root.DistinctKeys)
    (hnew : new.DistinctKeys) (htwin : record.Twin root new depth other)
    (hsame : filter.segmentsAt? predicate new record.path =
      filter.segmentsAt? predicate root record.path)
    (hexpand : filter.expand predicate record = .ok reached) :
    ∃ again, filter.expand predicate other = .ok again ∧
      List.Forall₂ (Record.Twin root new (depth + 1)) reached again := by
  have hrecord : record.source = root.get? record.path := htwin.sound
  have hother : other.source = new.get? record.path := htwin.path ▸ htwin.again
  cases hsource : record.source with
  | none =>
    rw [segmentsAt?, segmentsAt?, ← hrecord, hsource, Option.map_none, Option.map_eq_none_iff]
      at hsame
    rw [expand_of_missing hsource] at hexpand
    obtain rfl := Except.ok.inj hexpand
    exact ⟨[], expand_of_missing (hother.trans hsame), .nil⟩
  | some value =>
    rw [segmentsAt?, segmentsAt?, ← hrecord, hsource, Option.map_some, Option.map_eq_some_iff]
      at hsame
    obtain ⟨found, hfound, hsegments⟩ := hsame
    rw [expand_eq (hroot.get? (hrecord.symm.trans hsource)) hsource, ← hsegments,
      Except.map_eq_ok_iff] at hexpand
    obtain ⟨segments, hrun, rfl⟩ := hexpand
    refine ⟨segments.map (other.descend found), ?_, ?_⟩
    · rw [expand_eq (hnew.get? hfound) (hother.trans hfound), hrun]
      rfl
    · rw [List.forall₂_map_left_iff, List.forall₂_map_right_iff, List.forall₂_same]
      intro segment _
      refine ⟨?_, ?_, htwin.sound.descend hsource segment,
        htwin.again.descend (hother.trans hfound) segment⟩
      · exact congrArg (Path.child · segment) htwin.path
      · simp [Record.descend, Record.child, Path.child, htwin.length]

theorem Filter.expandAll_twin {next : List Record} (hroot : root.DistinctKeys)
    (hnew : new.DistinctKeys) (htwins : List.Forall₂ (Record.Twin root new depth) records others)
    (hsame : ∀ path : Path, path.length = depth →
      filter.segmentsAt? predicate new path = filter.segmentsAt? predicate root path)
    (hexpand : filter.expandAll predicate records = .ok next) :
    ∃ again, filter.expandAll predicate others = .ok again ∧
      List.Forall₂ (Record.Twin root new (depth + 1)) next again := by
  induction htwins generalizing next with
  | nil =>
    obtain rfl := Except.ok.inj hexpand
    exact ⟨[], rfl, .nil⟩
  | cons htwin _ ih =>
    obtain ⟨reached, hreached, hrest⟩ := Except.bind_eq_ok_iff.mp hexpand
    obtain ⟨later, hlater, hnext⟩ := Except.bind_eq_ok_iff.mp hrest
    obtain rfl := Except.ok.inj hnext
    obtain ⟨first, hfirst, hfirstTwins⟩ :=
      expand_twin hroot hnew htwin (hsame _ htwin.length) hreached
    obtain ⟨others, hothers, hotherTwins⟩ := ih hlater
    refine ⟨first ++ others, ?_, List.rel_append hfirstTwins hotherTwins⟩
    exact Except.bind_eq_ok_iff.mpr ⟨first, hfirst, Except.bind_eq_ok_iff.mpr ⟨others, hothers, rfl⟩⟩

/-- A selector whose filters choose the same in two documents, at the paths that they come to,
reaches the same paths there. -/
theorem Selector.resolveFrom_twin {final : List Record} (hroot : root.DistinctKeys)
    (hnew : new.DistinctKeys) (htwins : List.Forall₂ (Record.Twin root new depth) records others)
    (hsame : ∀ k filter, selector[k]? = some filter → ∀ path : Path, path.length = depth + k →
      filter.segmentsAt? predicate new path = filter.segmentsAt? predicate root path)
    (hrun : selector.resolveFrom predicate records = .ok final) :
    ∃ again, selector.resolveFrom predicate others = .ok again ∧
      List.Forall₂ (Record.Twin root new (depth + selector.length)) final again := by
  induction selector generalizing depth records others with
  | nil =>
    obtain rfl := Except.ok.inj hrun
    exact ⟨others, rfl, htwins⟩
  | cons filter rest ih =>
    obtain ⟨next, hnext, hlater⟩ := Except.bind_eq_ok_iff.mp hrun
    obtain ⟨reached, hreached, hreachedTwins⟩ :=
      Filter.expandAll_twin hroot hnew htwins (hsame 0 filter rfl) hnext
    obtain ⟨again, hagain, hagainTwins⟩ := ih hreachedTwins
      (fun k other hother path hpath ↦ hsame (k + 1) other hother path (by omega)) hlater
    refine ⟨again, Except.bind_eq_ok_iff.mpr ⟨reached, hreached, hagain⟩, ?_⟩
    rwa [List.length_cons, Nat.add_comm rest.length, ← Nat.add_assoc]

end Twin

end DocTree
