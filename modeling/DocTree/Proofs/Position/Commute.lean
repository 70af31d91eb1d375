import DocTree.Proofs.Position.Below
import DocTree.Proofs.Value.Distinct

/-!
# Writes that commute

Two paths that are apart part at some value on the way (`Path.Apart.exists_fork`), and writes at
them go into different children of it. Different children are written in either order with the same
result (`Value.withChild_comm`), unless both are new keys of one object, which then stand in the
order in which they were written. So a write neither makes another one possible nor stops it, and
the order of the two shows in nothing but the order of new keys (`Value.change_comm`).
-/

set_option autoImplicit false
set_option relaxedAutoImplicit false

namespace DocTree

namespace Entries

variable {α : Type} {entries : Entries α} {key other : String}

/-- Different keys are written in either order, if one of them is there. -/
theorem insert_comm (hne : key ≠ other) (hthere : key ∈ entries.keys ∨ other ∈ entries.keys)
    (value second : α) :
    (entries.insert key value).insert other second =
      (entries.insert other second).insert key value := by
  induction entries with
  | nil => simp at hthere
  | cons entry rest ih =>
    obtain ⟨name, old⟩ := entry
    by_cases hkey : name = key
    · simp [insert, hkey, hne]
    · by_cases hother : name = other
      · simp [insert, hother, Ne.symm hne]
      · have hrest : key ∈ keys rest ∨ other ∈ keys rest := by
          simpa [Ne.symm hkey, Ne.symm hother] using hthere
        simp [insert, hkey, hother, ih hrest]

/-- Keys that are both new stand in the order in which they are written. -/
theorem insert_insert_of_new (hne : key ≠ other) (hkey : key ∉ entries.keys)
    (hother : other ∉ entries.keys) (value second : α) :
    (entries.insert key value).insert other second =
      entries ++ [(key, value), (other, second)] := by
  have hnew : other ∉ keys (entries.insert key value) := by
    rw [keys_insert, if_neg hkey, List.mem_append, not_or]
    exact ⟨hother, by simpa using Ne.symm hne⟩
  rw [insert_of_not_mem hnew, insert_of_not_mem hkey, List.append_assoc, List.singleton_append]

end Entries

/-- Paths that are apart have a common front and go on with different segments. -/
theorem Path.Apart.exists_fork {first second : Path} (hapart : first.Apart second) :
    ∃ front segment firstRest other secondRest, first = front ++ segment :: firstRest ∧
      second = front ++ other :: secondRest ∧ segment ≠ other := by
  induction first generalizing second with
  | nil => exact absurd hapart (Path.not_apart_nil second)
  | cons segment rest ih =>
    cases second with
    | nil => exact absurd hapart.symm (Path.not_apart_nil _)
    | cons other others =>
      by_cases hsegment : segment = other
      · subst hsegment
        obtain ⟨front, one, firstRest, two, secondRest, rfl, rfl, hne⟩ :=
          ih (Path.apart_cons_self hapart)
        exact ⟨segment :: front, one, firstRest, two, secondRest, rfl, rfl, hne⟩
      · exact ⟨[], segment, rest, other, others, rfl, rfl, hsegment⟩

namespace Value

variable {root value container : Value} {front first second firstRest secondRest : Path}
  {segment other : Segment}

/-- Different children are written in either order, if one of them is there. -/
theorem withChild_comm (hne : segment ≠ other)
    (hthere : (value.child? segment).isSome ∨ (value.child? other).isSome) (new later : Value) :
    (value.withChild segment new).withChild other later =
      (value.withChild other later).withChild segment new := by
  cases value with
  | object entries =>
    cases segment with
    | key name =>
      cases other with
      | key twin =>
        have hname : name ≠ twin := fun heq ↦ hne (congrArg Segment.key heq)
        rw [child?_object_key, child?_object_key, Entries.get?_isSome_iff,
          Entries.get?_isSome_iff] at hthere
        exact congrArg object (Entries.insert_comm hname hthere new later)
      | index position => rfl
    | index position => cases other <;> rfl
  | array items =>
    cases segment with
    | key name => cases other <;> rfl
    | index position =>
      cases other with
      | key name => rfl
      | index twin =>
        have hposition : position ≠ twin := fun heq ↦ hne (congrArg Segment.index heq)
        exact congrArg array (List.set_comm new later hposition)
  | _ => rfl

/-! ### Two slots -/

/-- Two slots with a common front are filled in the value that the front leads to. -/
theorem fill_fill_append (hcontainer : root.get? front = some container) (firstRest : Path)
    (secondRest : Path) (new later : Value) :
    (root.fill (front ++ firstRest) new).fill (front ++ secondRest) later =
      root.fill front ((container.fill firstRest new).fill secondRest later) := by
  rw [fill_append (get?_fill_append hcontainer firstRest new), fill_append hcontainer,
    fill_fill (slot?_of_get? hcontainer)]

/-- Slots that different children lead to are filled by writing these children. -/
theorem fill_fill_cons (hne : segment ≠ other) (container : Value) (firstRest : Path)
    (secondRest : Path) (new later : Value) :
    (container.fill (segment :: firstRest) new).fill (other :: secondRest) later =
      (container.withChild segment
        ((container.child? segment).elim new (·.fill firstRest new))).withChild other
          ((container.child? other).elim later (·.fill secondRest later)) := by
  rw [fill_cons, fill_cons, child?_withChild_of_ne hne]

/-- Two documents that come from `root` by the same writes are the same up to new keys if they are
equal, or if both come from it by adding two keys to one object, in either order. -/
inductive SameUpToNewKeys (root : Value) : Value → Value → Prop where
  | same (after : Value) : SameUpToNewKeys root after after
  | swapped {parent : Path} {entries : Entries Value} {first second : String × Value}
    (hparent : root.get? parent = some (.object entries)) (hfirst : first.1 ∉ entries.keys)
    (hsecond : second.1 ∉ entries.keys) (hne : first.1 ≠ second.1) :
    SameUpToNewKeys root (root.fill parent (.object (entries ++ [first, second])))
      (root.fill parent (.object (entries ++ [second, first])))

/-- Slots of paths that are apart are filled in either order, up to the order of new keys, which
there are only if both slots are open. -/
theorem fill_comm (hapart : first.Apart second) (hfirst : (root.slot? first).isSome)
    (hsecond : (root.slot? second).isSome) (new later : Value) :
    root.SameUpToNewKeys ((root.fill first new).fill second later)
        ((root.fill second later).fill first new) ∧
      ((root.get? first).isSome ∨ (root.get? second).isSome →
        (root.fill first new).fill second later = (root.fill second later).fill first new) := by
  obtain ⟨front, segment, firstRest, other, secondRest, rfl, rfl, hne⟩ := hapart.exists_fork
  obtain ⟨container, hcontainer, hopen⟩ := exists_get?_of_slot? hfirst
  rw [slot?_append hcontainer] at hsecond
  rw [fill_fill_append hcontainer, fill_fill_append hcontainer, fill_fill_cons hne,
    fill_fill_cons hne.symm, get?_append, get?_append, hcontainer, Option.bind_some,
    Option.bind_some, get?_cons, get?_cons]
  cases hchild : container.child? segment with
  | some next =>
    rw [withChild_comm hne (.inl (by simp [hchild]))]
    exact ⟨.same _, fun _ ↦ rfl⟩
  | none =>
    cases hthere : container.child? other with
    | some next =>
      rw [withChild_comm hne (.inr (by simp [hthere]))]
      exact ⟨.same _, fun _ ↦ rfl⟩
    | none =>
      -- Both children are missing, so the container is an object and both segments are new keys.
      obtain ⟨-, hgrows⟩ : firstRest = [] ∧ container.grows segment = true := by
        simpa [slot?_cons_of_missing hchild] using hopen
      obtain ⟨-, htakes⟩ : secondRest = [] ∧ container.grows other = true := by
        simpa [slot?_cons_of_missing hthere] using hsecond
      obtain ⟨entries, key, rfl, rfl⟩ := grows_iff.mp hgrows
      obtain ⟨_, twin, -, rfl⟩ := grows_iff.mp htakes
      have hname : key ≠ twin := fun heq ↦ hne (congrArg Segment.key heq)
      have hkey : key ∉ Entries.keys entries := Entries.get?_eq_none_iff.mp hchild
      have htwin : twin ∉ Entries.keys entries := Entries.get?_eq_none_iff.mp hthere
      simp only [withChild, Option.elim_none, Entries.insert_insert_of_new hname hkey htwin,
        Entries.insert_insert_of_new hname.symm htwin hkey]
      exact ⟨.swapped hcontainer hkey htwin hname, fun hsome ↦ by simp at hsome⟩

/-! ### Two writes -/

/-- What a change makes at a path does not depend on a write apart from it. -/
theorem outcomeAt?_change (hapart : first.Apart second) (root : Value) (change later : Change) :
    (root.change first change).outcomeAt? later second = root.outcomeAt? later second := by
  cases houtcome : root.outcomeAt? change first with
  | none => rw [change_of_outcomeAt?_eq_none houtcome]
  | some new =>
    rw [change_of_outcomeAt? houtcome, outcomeAt?, outcomeAt?,
      slot?_fill_of_apart hapart (slot?_isSome_of_outcomeAt? houtcome)]

/-- Of two writes at paths that are apart each is made in either order or in none. They leave the
same document, up to the order of keys that both add to one object, and exactly the same if one of
the paths leads to a value. -/
theorem change_comm (hapart : first.Apart second) (root : Value) (change later : Change) :
    ((root.change second later).change? first change).isSome =
        (root.change? first change).isSome ∧
      ((root.change first change).change? second later).isSome =
          (root.change? second later).isSome ∧
        root.SameUpToNewKeys ((root.change first change).change second later)
            ((root.change second later).change first change) ∧
          ((root.get? first).isSome ∨ (root.get? second).isSome →
            (root.change first change).change second later =
              (root.change second later).change first change) := by
  have hfirst := outcomeAt?_change hapart.symm root later change
  have hsecond := outcomeAt?_change hapart root change later
  refine ⟨?_, ?_, ?_⟩
  · rw [isSome_change?, isSome_change?, hfirst]
  · rw [isSome_change?, isSome_change?, hsecond]
  · cases hnew : root.outcomeAt? change first with
    | none =>
      rw [change_of_outcomeAt?_eq_none hnew,
        change_of_outcomeAt?_eq_none (hfirst.trans hnew)]
      exact ⟨.same _, fun _ ↦ rfl⟩
    | some new =>
      cases hlater : root.outcomeAt? later second with
      | none =>
        rw [change_of_outcomeAt?_eq_none hlater,
          change_of_outcomeAt?_eq_none (hsecond.trans hlater)]
        exact ⟨.same _, fun _ ↦ rfl⟩
      | some made =>
        rw [change_of_outcomeAt? (hsecond.trans hlater), change_of_outcomeAt? hnew,
          change_of_outcomeAt? (hfirst.trans hnew), change_of_outcomeAt? hlater]
        exact fill_comm hapart (slot?_isSome_of_outcomeAt? hnew)
          (slot?_isSome_of_outcomeAt? hlater) new made

/-- A document with a list beside an object. -/
def drawer : Value := .object [("left", .array [.int 1]), ("right", .object [])]

/-- An item appended on the left and a key set on the right leave one document. Two new keys on the
right stand in the order of the writes. -/
theorem change_comm_drawer :
    (drawer.change [.key "left"] (.append .null)).change [.key "right"] (.put "screw" .null) =
        (drawer.change [.key "right"] (.put "screw" .null)).change [.key "left"] (.append .null) ∧
      drawer.SameUpToNewKeys
        ((drawer.change [.key "right", .key "screw"] (.replace .null)).change
          [.key "right", .key "nail"] (.replace .null))
        ((drawer.change [.key "right", .key "nail"] (.replace .null)).change
          [.key "right", .key "screw"] (.replace .null)) := by
  have hleft : (drawer.get? [.key "left"]).isSome := by
    simp [drawer, get?_cons, Entries.get?]
  have hsides : Path.Apart [.key "left"] [.key "right"] := by simp [Path.Apart]
  have hkeys : Path.Apart [.key "right", .key "screw"] [.key "right", .key "nail"] := by
    simp [Path.Apart]
  obtain ⟨-, -, -, hsame⟩ := change_comm hsides drawer (.append .null) (.put "screw" .null)
  obtain ⟨-, -, hnew, -⟩ := change_comm hkeys drawer (.replace .null) (.replace .null)
  exact ⟨hsame (.inl hleft), hnew⟩

end Value

end DocTree
