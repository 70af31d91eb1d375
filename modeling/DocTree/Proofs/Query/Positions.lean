import DocTree.Proofs.Query.Shape
import DocTree.Query.Eval
import Mathlib.Tactic.SplitIfs

/-!
# The positions that a query chooses

A query other than a range judges each candidate on its own: `Query.Accepts` says when it takes one,
and `mem_positions_iff` that the positions it gives are those of the candidates that it accepts. A
native query that succeeds has had a verdict on every candidate, so it chooses like a filter whose
test is that verdict (`positionsWhere_of_nativePositions`). A range chooses by the number of
candidates alone. In each case the positions increase strictly (`positions_sorted`) and are those of
candidates that exist (`lt_length_of_mem_positions`).
-/

set_option autoImplicit false
set_option relaxedAutoImplicit false

namespace DocTree

/-! ### Ranges -/

namespace Range

theorem toInt_clamp (number low high : Int64) :
    (clamp number low high).toInt =
      if number.toInt < low.toInt then low.toInt
      else if high.toInt < number.toInt then high.toInt else number.toInt := by
  simp only [clamp, Int64.lt_iff_toInt_lt]
  split_ifs <;> rfl

theorem toInt_sub_one {number : Int64} (hpositive : Int64.minValue.toInt < number.toInt) :
    (number - 1).toInt = number.toInt - 1 := by
  have hupper := number.toInt_lt
  rw [Int64.toInt_minValue] at hpositive
  rw [Int64.toInt_sub, Int64.toInt_one]
  exact Int.bmod_eq_of_le (by omega) (by omega)

/-- The last position of a range lies before the end of the list. -/
theorem interval_stop_lt (range : Range) {length : Int64} (hlength : 0 < length.toInt) :
    (range.interval length).2.toInt < length.toInt := by
  have hlast : (length - 1).toInt = length.toInt - 1 :=
    toInt_sub_one (by rw [Int64.toInt_minValue]; omega)
  obtain ⟨start, stop⟩ := range
  cases stop with
  | none => cases start <;> simp only [interval, hlast] <;> omega
  | some stop =>
    cases start with
    | some start =>
      simp only [interval, toInt_clamp, hlast, Int64.toInt_zero]
      split_ifs <;> omega
    | none =>
      by_cases hstop : 0 ≤ stop
      · have hnonneg : 0 ≤ stop.toInt := Int64.le_iff_toInt_le.mp hstop
        simp only [interval, hstop, if_true]
        split_ifs with hbefore
        · rw [Int64.lt_iff_toInt_lt] at hbefore
          rw [toInt_sub_one (by rw [Int64.toInt_minValue]; omega)]
          omega
        · rw [hlast]
          omega
      · simp only [interval, hstop, if_false, hlast]
        omega

theorem resolve_sorted (range : Range) (length : Nat) :
    (range.resolve length).Pairwise (· < ·) := by
  unfold resolve
  split
  · exact List.Pairwise.nil
  · dsimp only
    split
    · exact List.Pairwise.nil
    · exact List.pairwise_lt_range'

/-- Every position that a range resolves to is one of the list. -/
theorem lt_of_mem_resolve {range : Range} {length position : Nat}
    (hposition : position ∈ range.resolve length) : position < length := by
  unfold resolve at hposition
  split at hposition
  · simp at hposition
  · rename_i hlength
    dsimp only at hposition
    split at hposition
    · simp at hposition
    · rw [List.mem_range'_1] at hposition
      have hstop := (range.interval (Int64.ofNat length)).2.toNatClampNeg_lt
      by_cases hsmall : length < 2 ^ 63
      · have hnumber : (Int64.ofNat length).toInt = length := Int64.toInt_ofNat_of_lt hsmall
        have hpositive : 0 < (Int64.ofNat length).toInt := by omega
        have hbound := range.interval_stop_lt hpositive
        have hclamp : (range.interval (Int64.ofNat length)).2.toNatClampNeg =
            (range.interval (Int64.ofNat length)).2.toInt.toNat := rfl
        omega
      · omega

end Range

namespace Query

/-- Whether a query takes a candidate on its own merits. -/
def Accepts (predicate : Option NativePredicate) (query : Query) (candidate : Value) : Prop :=
  match query with
  | .node filter => filter.holds candidate = true
  | .native text => ∃ accepts, predicate = some accepts ∧ accepts text candidate = .ok true

/-! ### Filters and native queries -/

/-- The answer of a predicate, where a refusal counts as a no. -/
def verdict : Except String Bool → Bool
  | .ok answer => answer
  | .error _ => false

theorem positionsWhere_of_nativePositions {accepts : Value → Except String Bool} {position : Nat}
    {candidates : List Value} {positions : List Nat}
    (hrun : nativePositions accepts position candidates = .ok positions) :
    positions =
      positionsWhere (fun candidate ↦ verdict (accepts candidate)) position candidates := by
  induction candidates generalizing position positions with
  | nil => simpa [nativePositions, positionsWhere] using hrun.symm
  | cons candidate rest ih =>
    simp only [nativePositions] at hrun
    cases hanswer : accepts candidate with
    | error reason => simp [hanswer] at hrun
    | ok answer =>
      rw [hanswer] at hrun
      cases hrest : nativePositions accepts (position + 1) rest with
      | error error => simp [hrest, Except.map] at hrun
      | ok later =>
        simp only [hrest, Except.map, Except.ok.injEq] at hrun
        rw [← hrun, positionsWhere, hanswer, ← ih hrest]
        rfl

theorem positionsWhere_sublist (test : Value → Bool) (position : Nat) (candidates : List Value) :
    (positionsWhere test position candidates).Sublist (List.range' position candidates.length) := by
  induction candidates generalizing position with
  | nil => exact List.Sublist.slnil
  | cons candidate rest ih =>
    rw [positionsWhere, List.length_cons, List.range'_succ]
    split
    · exact (ih (position + 1)).cons_cons position
    · exact (ih (position + 1)).cons position

theorem mem_positionsWhere {test : Value → Bool} {position index : Nat} {candidates : List Value} :
    position + index ∈ positionsWhere test position candidates ↔
      ∃ candidate, candidates[index]? = some candidate ∧ test candidate := by
  induction candidates generalizing position index with
  | nil => simp [positionsWhere]
  | cons candidate rest ih =>
    cases index with
    | zero =>
      -- The positions after the first are all greater, so the first candidate decides alone.
      have hlater : position ∉ positionsWhere test (position + 1) rest := fun hmem ↦ by
        have := (positionsWhere_sublist test (position + 1) rest).subset hmem
        rw [List.mem_range'_1] at this
        omega
      simp only [positionsWhere, Nat.add_zero, List.getElem?_cons_zero, Option.some_inj]
      split <;> simp_all
    | succ index =>
      have hshift : position + (index + 1) = position + 1 + index := by omega
      have hne : position + 1 + index ≠ position := by omega
      simp only [positionsWhere, hshift, List.getElem?_cons_succ, ← @ih (position + 1) index]
      split
      · simp [hne]
      · rfl

/-! ### Every query -/

variable {predicate : Option NativePredicate} {candidates : List Value} {query : Query}
  {positions : List Nat}

/-- A query that is no range chooses like a filter with some test that decides acceptance. -/
theorem exists_test (hquery : query.isRange = false)
    (hrun : query.positions predicate candidates = .ok positions) :
    ∃ test : Value → Bool, positions = positionsWhere test 0 candidates ∧
      ∀ candidate, test candidate = true ↔ query.Accepts predicate candidate := by
  cases query with
  | node filter =>
    refine ⟨filter.holds, ?_, fun candidate ↦ Iff.rfl⟩
    cases filter with
    | range range => simp [isRange] at hquery
    | condition condition => exact (Except.ok.inj hrun).symm
    | group children connective => exact (Except.ok.inj hrun).symm
  | native text =>
    cases predicate with
    | none => simp [Query.positions] at hrun
    | some accepts =>
      refine ⟨_, positionsWhere_of_nativePositions hrun, fun candidate ↦ ?_⟩
      simp only [Accepts, Option.some.injEq, exists_eq_left']
      cases accepts text candidate <;> simp [verdict]

theorem mem_positions_iff (hquery : query.isRange = false)
    (hrun : query.positions predicate candidates = .ok positions) (index : Nat) :
    index ∈ positions ↔
      ∃ candidate, candidates[index]? = some candidate ∧ query.Accepts predicate candidate := by
  obtain ⟨test, rfl, htest⟩ := exists_test hquery hrun
  rw [← Nat.zero_add index, mem_positionsWhere]
  simp only [Nat.zero_add, htest]

/-- The positions of a range, or of the candidates that pass some test. -/
theorem positions_cases (hrun : query.positions predicate candidates = .ok positions) :
    (∃ range : Range, positions = range.resolve candidates.length) ∨
      ∃ test : Value → Bool, positions = positionsWhere test 0 candidates := by
  cases hquery : query.isRange with
  | false =>
    obtain ⟨test, hpositions, -⟩ := exists_test hquery hrun
    exact .inr ⟨test, hpositions⟩
  | true =>
    cases query with
    | node filter =>
      cases filter with
      | range range => exact .inl ⟨range, (Except.ok.inj hrun).symm⟩
      | _ => simp [isRange] at hquery
    | native text => simp [isRange] at hquery

theorem positions_sorted (hrun : query.positions predicate candidates = .ok positions) :
    positions.Pairwise (· < ·) := by
  rcases positions_cases hrun with ⟨range, rfl⟩ | ⟨test, rfl⟩
  · exact range.resolve_sorted candidates.length
  · exact (List.pairwise_lt_range' (s := 0)).sublist (positionsWhere_sublist test 0 candidates)

theorem lt_length_of_mem_positions (hrun : query.positions predicate candidates = .ok positions)
    {index : Nat} (hindex : index ∈ positions) : index < candidates.length := by
  rcases positions_cases hrun with ⟨range, rfl⟩ | ⟨test, rfl⟩
  · exact Range.lt_of_mem_resolve hindex
  · have hrange := (positionsWhere_sublist test 0 candidates).subset hindex
    simpa [List.mem_range'_1] using hrange

end Query

end DocTree
