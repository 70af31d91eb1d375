import DocTree.Proofs.Position.Slot

/-!
# Document order

One path precedes another in a document when the two part at a container and go there into
different children, the first into the earlier one. The order of children is that of the keys of an
object and of the elements of an array. A path that precedes another is apart from it
(`Precedes.apart`), and going further down from two paths keeps their order (`Precedes.child`).
-/

set_option autoImplicit false
set_option relaxedAutoImplicit false

namespace DocTree.Value

/-- The position of the child that a segment names among the children of its parent. -/
def position? (value : Value) (segment : Segment) : Option Nat :=
  match value, segment with
  | object entries, .key name => (Entries.keys entries).idxOf? name
  | array items, .index position => if position < items.length then some position else none
  | _, _ => none

/-- Whether one segment names an earlier child of a value than another. -/
def Before (value : Value) (first second : Segment) : Prop :=
  ∃ i j, value.position? first = some i ∧ value.position? second = some j ∧ i < j

/-- Whether one path comes before another in document order: after a common front they name
different children of one container, the first the earlier one. -/
def Precedes (root : Value) (first second : Path) : Prop :=
  ∃ front container earlier later firstRest secondRest,
    first = front ++ earlier :: firstRest ∧ second = front ++ later :: secondRest ∧
      root.get? front = some container ∧ container.Before earlier later

theorem Before.ne {value : Value} {first second : Segment} (hbefore : value.Before first second) :
    first ≠ second := by
  rintro rfl
  obtain ⟨i, j, hfirst, hsecond, hlt⟩ := hbefore
  rw [hfirst, Option.some_inj] at hsecond
  omega

theorem before_of_keys {entries : Entries Value} (hdistinct : (Entries.keys entries).Nodup)
    {i j : Nat} {first second : String} (hfirst : (Entries.keys entries)[i]? = some first)
    (hsecond : (Entries.keys entries)[j]? = some second) (hlt : i < j) :
    (object entries).Before (.key first) (.key second) := by
  have hposition : ∀ {k : Nat} {name : String}, (Entries.keys entries)[k]? = some name →
      (object entries).position? (.key name) = some k := by
    intro k name hname
    obtain ⟨hk, hget⟩ := List.getElem?_eq_some_iff.mp hname
    refine List.idxOf?_eq_some_iff.mpr ⟨hk, hget, fun l hl heq ↦ ?_⟩
    have hsame : (Entries.keys entries)[l]? = (Entries.keys entries)[k]? := by
      rw [hname, List.getElem?_eq_getElem (Nat.lt_trans hl hk), heq]
    exact Nat.ne_of_lt hl ((List.getElem?_inj (Nat.lt_trans hl hk) hdistinct).mp hsame)
  exact ⟨i, j, hposition hfirst, hposition hsecond, hlt⟩

theorem before_of_lt {items : List Value} {i j : Nat} (hlt : i < j) (hbound : j < items.length) :
    (array items).Before (.index i) (.index j) :=
  ⟨i, j, by simp [position?, Nat.lt_trans hlt hbound], by simp [position?, hbound], hlt⟩

variable {root : Value} {first second : Path}

theorem Precedes.apart (hprecedes : root.Precedes first second) : first.Apart second := by
  obtain ⟨front, container, earlier, later, firstRest, secondRest, rfl, rfl, -, hbefore⟩ :=
    hprecedes
  constructor
  · intro hprefix
    rw [List.prefix_append_right_inj, List.cons_prefix_cons] at hprefix
    exact hbefore.ne hprefix.1
  · intro hprefix
    rw [List.prefix_append_right_inj, List.cons_prefix_cons] at hprefix
    exact hbefore.ne hprefix.1.symm

theorem Precedes.child (hprecedes : root.Precedes first second) (segment other : Segment) :
    root.Precedes (first.child segment) (second.child other) := by
  obtain ⟨front, container, earlier, later, firstRest, secondRest, rfl, rfl, hfront, hbefore⟩ :=
    hprecedes
  exact ⟨front, container, earlier, later, firstRest ++ [segment], secondRest ++ [other],
    by simp [Path.child], by simp [Path.child], hfront, hbefore⟩

theorem precedes_of_before {path : Path} {container : Value} {segment other : Segment}
    (hcontainer : root.get? path = some container) (hbefore : container.Before segment other) :
    root.Precedes (path.child segment) (path.child other) :=
  ⟨path, container, segment, other, [], [], rfl, rfl, hcontainer, hbefore⟩

end DocTree.Value
