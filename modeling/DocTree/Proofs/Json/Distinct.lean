import DocTree.Format.Reader
import DocTree.Proofs.Outcome
import DocTree.Proofs.Position.Distinct
import Mathlib.Tactic.SplitIfs

/-!
# Reading JSON gives distinct keys

A reader of things with commas between them gives things of which all holds that its reader of one
thing guarantees (`Yields.members`). An object is built from its pairs by writing one after another,
so a document that is read from JSON or JSON Lines has distinct keys, whatever keys its text repeats
(`distinctKeys_of_parseJson`, `distinctKeys_of_parseJsonLines`).
-/

set_option autoImplicit false
set_option relaxedAutoImplicit false

namespace DocTree

namespace Json

/-- What holds of everything that a reader reads, whatever the text. -/
def Yields {α : Type} (one : Reader α) (p : α → Prop) : Prop :=
  ∀ ⦃text item rest⦄, one text = some (item, rest) → p item

section List

variable {α : Type} {close : Char} {one : Reader α} {p : α → Prop} {items : List α}

theorem Yields.listOf (hone : Yields one p) (room : List Char) :
    Yields (Json.listOf close one room) fun items ↦ ∀ item ∈ items, p item := by
  intro text items rest hread
  induction room generalizing text items with
  | nil => cases hread
  | cons first room ih =>
    unfold Json.listOf at hread
    split at hread
    · cases hread
    · rename_i item tail hitem
      split at hread
      · cases hread
      · split_ifs at hread with hclose hcomma
        · obtain ⟨rfl, rfl⟩ := Prod.mk.inj (Option.some.inj hread)
          exact List.forall_mem_singleton.mpr (hone hitem)
        · obtain ⟨⟨others, last⟩, hothers, heq⟩ := Option.map_eq_some_iff.mp hread
          obtain ⟨rfl, rfl⟩ := Prod.mk.inj heq
          exact List.forall_mem_cons.mpr ⟨hone hitem, ih hothers⟩

/-- All things of a container are as the reader of one thing guarantees. -/
theorem Yields.members (hone : Yields one p) :
    Yields (Json.members close one) fun items ↦ ∀ item ∈ items, p item := by
  intro text items rest hread
  unfold Json.members at hread
  split at hread
  · cases hread
  · split_ifs at hread with hclose
    · obtain ⟨rfl, rfl⟩ := Prod.mk.inj (Option.some.inj hread)
      exact List.forall_mem_nil _
    · exact hone.listOf text hread

end List

theorem Yields.entry {value : Reader Value} {p : Value → Prop} (hvalue : Yields value p) :
    Yields (Json.entry value) fun pair ↦ p pair.2 := by
  intro text pair rest hread
  unfold Json.entry at hread
  obtain ⟨⟨key, tail⟩, -, hread⟩ := Option.bind_eq_some_iff.mp hread
  dsimp only at hread
  split at hread
  · obtain ⟨⟨item, last⟩, hitem, hpair⟩ := Option.bind_eq_some_iff.mp hread
    obtain ⟨rfl, rfl⟩ := Prod.mk.inj (Option.some.inj hpair)
    exact hvalue hitem
  · cases hread

/-! ### Values -/

variable {float? : FloatReader}

theorem isContainer_of_value? {numeral : Numeral} {value : Value}
    (hvalue : numeral.value? float? = some value) : value.isContainer = false := by
  have hfloat : (float? numeral).map .float = some value → value.isContainer = false := by
    intro hread
    obtain ⟨number, -, rfl⟩ := Option.map_eq_some_iff.mp hread
    rfl
  unfold Numeral.value? at hvalue
  split at hvalue
  · exact hfloat hvalue
  · extract_lets magnitude number at hvalue
    split at hvalue
    · exact hfloat hvalue
    · split at hvalue
      · obtain rfl := Option.some.inj hvalue
        rfl
      · exact hfloat hvalue

theorem eq_of_word? {word text rest : List Char} {value other : Value}
    (hread : word? word value text = some (other, rest)) : other = value := by
  unfold word? at hread
  split_ifs at hread
  exact (Prod.mk.inj (Option.some.inj hread)).1.symm

/-- What the reader of scalars reads is no container. -/
theorem yields_scalar? : Yields (scalar? float?) fun value ↦ value.isContainer = false := by
  intro text value rest hread
  unfold scalar? at hread
  split at hread
  · rw [eq_of_word? hread]
    rfl
  · rw [eq_of_word? hread]
    rfl
  · rw [eq_of_word? hread]
    rfl
  · obtain ⟨⟨chars, tail⟩, -, heq⟩ := Option.map_eq_some_iff.mp hread
    obtain ⟨rfl, rfl⟩ := Prod.mk.inj heq
    rfl
  · split at hread
    · obtain ⟨number, hnumber, heq⟩ := Option.map_eq_some_iff.mp hread
      obtain ⟨rfl, rfl⟩ := Prod.mk.inj heq
      exact isContainer_of_value? hnumber
    · cases hread

theorem yields_valueWith {child? : Option (Reader Value)}
    (hchild : ∀ child ∈ child?, Yields child Value.DistinctKeys) :
    Yields (valueWith float? child?) Value.DistinctKeys := by
  intro text value rest hread
  unfold valueWith at hread
  split at hread
  · obtain ⟨child, hsome, hread⟩ := Option.bind_eq_some_iff.mp hread
    obtain ⟨⟨items, tail⟩, hitems, heq⟩ := Option.bind_eq_some_iff.mp hread
    obtain ⟨rfl, rfl⟩ := Prod.mk.inj (Option.some.inj heq)
    exact Value.distinctKeys_array.mpr ((hchild child hsome).members hitems)
  · obtain ⟨child, hsome, hread⟩ := Option.bind_eq_some_iff.mp hread
    obtain ⟨⟨pairs, tail⟩, hpairs, heq⟩ := Option.bind_eq_some_iff.mp hread
    obtain ⟨rfl, rfl⟩ := Prod.mk.inj (Option.some.inj heq)
    exact Value.distinctKeys_ofList ((hchild child hsome).entry.members hpairs)
  · exact Value.distinctKeys_of_scalar (yields_scalar? hread)

theorem yields_value? (depth : Nat) : Yields (value? float? depth) Value.DistinctKeys := by
  induction depth with
  | zero => exact yields_valueWith fun _ hchild ↦ nomatch hchild
  | succ depth ih =>
    refine yields_valueWith fun child hchild ↦ ?_
    obtain rfl := Option.some.inj hchild
    exact ih

theorem distinctKeys_of_parseChars? {text : List Char} {value : Value}
    (hread : parseChars? text = some value) : value.DistinctKeys := by
  unfold parseChars? at hread
  split at hread
  · rename_i found rest hfound
    split_ifs at hread
    obtain rfl := Option.some.inj hread
    exact yields_value? maxDepth hfound
  · cases hread

theorem distinctKeys_of_parseLinesFrom {lines : List (List Char)} {items : List Value} :
    ∀ {number : Nat}, parseLinesFrom number lines = .ok items →
      ∀ item ∈ items, item.DistinctKeys := by
  induction lines generalizing items with
  | nil =>
    rintro number ⟨⟩
    exact List.forall_mem_nil _
  | cons line lines ih =>
    intro number hread
    unfold parseLinesFrom at hread
    split_ifs at hread with hblank
    · exact ih hread
    · split at hread
      · cases hread
      · rename_i value hvalue
        obtain ⟨others, hothers, rfl⟩ := Except.map_eq_ok_iff.mp hread
        exact List.forall_mem_cons.mpr ⟨distinctKeys_of_parseChars? hvalue, ih hothers⟩

end Json

variable {text : String} {value : Value}

/-- A document that is read from JSON has distinct keys. -/
theorem distinctKeys_of_parseJson (hread : parseJson text = .ok value) : value.DistinctKeys := by
  unfold parseJson at hread
  split at hread
  · rename_i found hfound
    obtain rfl := Except.ok.inj hread
    exact Json.distinctKeys_of_parseChars? hfound
  · cases hread

/-- A document that is read from JSON Lines has distinct keys. -/
theorem distinctKeys_of_parseJsonLines (hread : parseJsonLines text = .ok value) :
    value.DistinctKeys := by
  unfold parseJsonLines at hread
  split at hread
  · cases hread
  · cases hread
  · rename_i items _ hitems
    obtain rfl := Except.ok.inj hread
    exact Value.distinctKeys_array.mpr (Json.distinctKeys_of_parseLinesFrom hitems)

end DocTree
