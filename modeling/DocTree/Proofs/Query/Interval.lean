import DocTree.Proofs.Query.Positions
import Mathlib.Algebra.Group.Nat.Defs

/-!
# The positions of a range

`Range.Covers` says which positions a range takes from a list, for each way in which its bounds may
be given. Resolving the range gives exactly those, in increasing order (`Range.resolve_exact`). The
bounds are cut to the list first, so they may be any integers: `Range.resolve?` is the same
computation with every integer on the way held against the range of `Int64`, and none of them leaves
it.
-/

set_option autoImplicit false
set_option relaxedAutoImplicit false

namespace DocTree

/-! ### Integers that fit -/

/-- An integer as an `Int64`, if it is in range. -/
def int64OfInt? (number : Int) : Option Int64 :=
  if Int64.minValue.toInt ≤ number ∧ number ≤ Int64.maxValue.toInt then some (Int64.ofInt number)
  else none

theorem int64OfInt?_toInt (number : Int64) : int64OfInt? number.toInt = some number := by
  have hlower := number.le_toInt
  have hupper := number.toInt_le
  rw [int64OfInt?, if_pos ⟨hlower, hupper⟩, Int64.ofInt_toInt]

namespace Range

variable {range : Range} {length : Int64} {size position : Nat}

/-! ### The definition in other words -/

/-- Whether a range takes a position of a list with `size` elements. Two bounds both belong to the
range, and a negative one stands for the first position. A lone end counts from the start of the
list, or from its end when it is negative. -/
def Covers (range : Range) (size position : Nat) : Prop :=
  match range.start, range.stop with
  | some start, some stop => max 0 start.toInt ≤ position ∧ position ≤ max 0 stop.toInt
  | none, some stop =>
    if 0 ≤ stop.toInt then position < stop.toInt else (size : Int) - stop.toInt.natAbs ≤ position
  | some start, none => start.toInt ≤ position
  | none, none => True

/-- The interval of a range, unless a sum or a difference on the way to it is out of range. -/
def interval? (range : Range) (length : Int64) : Option (Int64 × Int64) :=
  match range.start, range.stop with
  | some start, some stop =>
    (int64OfInt? (length.toInt - 1)).map fun last ↦ (clamp start 0 length, clamp stop 0 last)
  | none, some stop =>
    if 0 ≤ stop then
      (int64OfInt? ((if stop < length then stop else length).toInt - 1)).map fun last ↦ (0, last)
    else
      (int64OfInt? (length.toInt + stop.toInt)).bind fun first ↦
        (int64OfInt? (length.toInt - 1)).map fun last ↦ (if first < 0 then 0 else first, last)
  | some start, none => (int64OfInt? (length.toInt - 1)).map fun last ↦ (clamp start 0 length, last)
  | none, none => (int64OfInt? (length.toInt - 1)).map fun last ↦ (0, last)

/-- The positions of a range in a list with `size` elements, unless an integer on the way to them is
out of range. -/
def resolve? (range : Range) (size : Nat) : Option (List Nat) :=
  if size = 0 then some []
  else
    (int64OfInt? size).bind fun length ↦ (range.interval? length).map fun (start, stop) ↦
      if stop < start then []
      else List.range' start.toNatClampNeg (stop.toNatClampNeg + 1 - start.toNatClampNeg)

/-! ### No integer is out of range -/

theorem int64OfInt?_sub_one {number : Int64} (hpositive : Int64.minValue.toInt < number.toInt) :
    int64OfInt? (number.toInt - 1) = some (number - 1) := by
  rw [← toInt_sub_one hpositive, int64OfInt?_toInt]

theorem toInt_add_of_neg {number other : Int64} (hnumber : 0 ≤ number.toInt)
    (hother : other.toInt < 0) : (number + other).toInt = number.toInt + other.toInt := by
  have hupper := number.toInt_lt
  have hlower := other.le_toInt
  rw [Int64.toInt_add]
  exact Int.bmod_eq_of_le (by omega) (by omega)

theorem int64OfInt?_add_of_neg {number other : Int64} (hnumber : 0 ≤ number.toInt)
    (hother : other.toInt < 0) :
    int64OfInt? (number.toInt + other.toInt) = some (number + other) := by
  rw [← toInt_add_of_neg hnumber hother, int64OfInt?_toInt]

theorem interval?_eq (range : Range) (hlength : 0 < length.toInt) :
    range.interval? length = some (range.interval length) := by
  have hleast : Int64.minValue.toInt < 0 := by decide
  have hlast : int64OfInt? (length.toInt - 1) = some (length - 1) := int64OfInt?_sub_one (by omega)
  obtain ⟨start, stop⟩ := range
  cases stop with
  | none => cases start <;> simp [interval?, interval, hlast]
  | some stop =>
    cases start with
    | some start => simp [interval?, interval, hlast]
    | none =>
      by_cases hstop : 0 ≤ stop
      · have hnonneg : 0 ≤ stop.toInt := Int64.le_iff_toInt_le.mp hstop
        have hnearer : Int64.minValue.toInt < (if stop < length then stop else length).toInt := by
          split_ifs <;> omega
        simp [interval?, interval, hstop, int64OfInt?_sub_one hnearer]
      · have hnegative : stop.toInt < 0 := by
          rw [Int64.le_iff_toInt_le, Int64.toInt_zero] at hstop
          omega
        simp [interval?, interval, hstop, int64OfInt?_add_of_neg (Int.le_of_lt hlength) hnegative,
          hlast]

theorem resolve?_eq (range : Range) (hsize : size < 2 ^ 63) :
    range.resolve? size = some (range.resolve size) := by
  unfold resolve? resolve
  split
  · rfl
  · have hlength : (Int64.ofNat size).toInt = size := Int64.toInt_ofNat_of_lt hsize
    have hfit : int64OfInt? size = some (Int64.ofNat size) := by rw [← hlength, int64OfInt?_toInt]
    rw [hfit, Option.bind_some, interval?_eq range (by omega), Option.map_some]

/-! ### The positions between the bounds -/

theorem interval_start_nonneg (range : Range) (hlength : 0 < length.toInt) :
    0 ≤ (range.interval length).1.toInt := by
  obtain ⟨start, stop⟩ := range
  cases start with
  | some start =>
    cases stop <;> simp only [interval, toInt_clamp, Int64.toInt_zero] <;> split_ifs <;> omega
  | none =>
    cases stop with
    | none => simp [interval]
    | some stop =>
      simp only [interval]
      by_cases hstop : 0 ≤ stop
      · simp [hstop]
      · simp only [hstop, if_false]
        split_ifs with hbefore
        · simp
        · exact Int64.le_iff_toInt_le.mp (Int64.not_lt.mp hbefore)

theorem mem_resolve_iff_interval (hsize : size ≠ 0) (hlength : (Int64.ofNat size).toInt = size) :
    position ∈ range.resolve size ↔
      (range.interval (Int64.ofNat size)).1.toInt ≤ position ∧
        position ≤ (range.interval (Int64.ofNat size)).2.toInt := by
  have hpositive : 0 < (Int64.ofNat size).toInt := by omega
  have hstart := interval_start_nonneg range hpositive
  have hclamp : ∀ number : Int64, number.toNatClampNeg = number.toInt.toNat := fun _ ↦ rfl
  rw [resolve, if_neg hsize]
  dsimp only
  split_ifs with hempty
  · rw [Int64.lt_iff_toInt_lt] at hempty
    simp only [List.not_mem_nil, false_iff]
    omega
  · rw [Int64.lt_iff_toInt_lt] at hempty
    rw [List.mem_range'_1, hclamp, hclamp]
    omega

theorem covers_iff_interval (hlength : (Int64.ofNat size).toInt = size)
    (hposition : position < size) :
    range.Covers size position ↔
      (range.interval (Int64.ofNat size)).1.toInt ≤ position ∧
        position ≤ (range.interval (Int64.ofNat size)).2.toInt := by
  have hlast : (Int64.ofNat size - 1).toInt = size - 1 := by
    rw [toInt_sub_one (by rw [Int64.toInt_minValue]; omega), hlength]
  obtain ⟨start, stop⟩ := range
  cases start with
  | some start =>
    cases stop with
    | some stop =>
      simp only [Covers, interval, toInt_clamp, hlast, hlength, Int64.toInt_zero]
      split_ifs <;> omega
    | none =>
      simp only [Covers, interval, toInt_clamp, hlast, hlength, Int64.toInt_zero]
      split_ifs <;> omega
  | none =>
    cases stop with
    | none =>
      simp only [Covers, interval, hlast, Int64.toInt_zero, true_iff]
      omega
    | some stop =>
      by_cases hstop : 0 ≤ stop
      · have hnonneg : 0 ≤ stop.toInt := Int64.le_iff_toInt_le.mp hstop
        simp only [Covers, interval, hstop, hnonneg, if_true, Int64.lt_iff_toInt_lt, hlength]
        split_ifs
        · rw [toInt_sub_one (by rw [Int64.toInt_minValue]; omega), Int64.toInt_zero]
          omega
        · rw [hlast, Int64.toInt_zero]
          omega
      · have hnegative : stop.toInt < 0 := by
          rw [Int64.le_iff_toInt_le, Int64.toInt_zero] at hstop
          omega
        have hfirst : (Int64.ofNat size + stop).toInt = size + stop.toInt := by
          rw [toInt_add_of_neg (by omega) hnegative, hlength]
        simp only [Covers, interval, hstop, Int.not_le.mpr hnegative, if_false, hlast,
          Int64.lt_iff_toInt_lt, hfirst, Int64.toInt_zero]
        split_ifs
        · rw [Int64.toInt_zero]
          omega
        · rw [hfirst]
          omega

/-- The range of one position has that position, unless it is behind the end of the list. -/
theorem resolve_single (hsize : size < 2 ^ 63) (hposition : position < 2 ^ 63) :
    (single (Int64.ofNat position)).resolve size = if position < size then [position] else [] := by
  have hlength : (Int64.ofNat size).toInt = size := Int64.toInt_ofNat_of_lt hsize
  have hnumber : (Int64.ofNat position).toInt = position := Int64.toInt_ofNat_of_lt hposition
  have hlast : (Int64.ofNat size - 1).toInt = size - 1 := by
    rw [toInt_sub_one (by rw [Int64.toInt_minValue]; omega), hlength]
  have hclamp : ∀ number : Int64, number.toNatClampNeg = number.toInt.toNat := fun _ ↦ rfl
  by_cases hempty : size = 0
  · simp [resolve, hempty]
  by_cases hwithin : position < size
  · have hstart : (clamp (Int64.ofNat position) 0 (Int64.ofNat size)).toInt = position := by
      rw [toInt_clamp, hlength, hnumber, Int64.toInt_zero]
      split_ifs <;> omega
    have hstop : (clamp (Int64.ofNat position) 0 (Int64.ofNat size - 1)).toInt = position := by
      rw [toInt_clamp, hlast, hnumber, Int64.toInt_zero]
      split_ifs <;> omega
    simp [resolve, hempty, interval, single, Int64.lt_iff_toInt_lt, hclamp, hstart, hstop, hwithin]
  · have hstart : (clamp (Int64.ofNat position) 0 (Int64.ofNat size)).toInt = size := by
      rw [toInt_clamp, hlength, hnumber, Int64.toInt_zero]
      split_ifs <;> omega
    have hstop : (clamp (Int64.ofNat position) 0 (Int64.ofNat size - 1)).toInt = size - 1 := by
      rw [toInt_clamp, hlast, hnumber, Int64.toInt_zero]
      split_ifs <;> omega
    have hbehind : (size : Int) - 1 < size := by omega
    simp [resolve, interval, single, Int64.lt_iff_toInt_lt, hstart, hstop, hwithin, hbehind]

/-! ### What a range resolves to -/

/-- A range resolves to the positions that it takes, in increasing order, and no integer on the way
to them is out of range. -/
theorem resolve_exact (range : Range) (hsize : size < 2 ^ 63) :
    (range.resolve size).Pairwise (· < ·) ∧
      (∀ position, position ∈ range.resolve size ↔
        position < size ∧ range.Covers size position) ∧
        range.resolve? size = some (range.resolve size) := by
  have hlength : (Int64.ofNat size).toInt = size := Int64.toInt_ofNat_of_lt hsize
  have hmem : ∀ position, position < size →
      (position ∈ range.resolve size ↔ range.Covers size position) := fun position hposition ↦ by
    rw [mem_resolve_iff_interval (by omega) hlength, covers_iff_interval hlength hposition]
  refine ⟨range.resolve_sorted size, fun position ↦ ?_, resolve?_eq range hsize⟩
  constructor
  · intro hposition
    have hbefore := lt_of_mem_resolve hposition
    exact ⟨hbefore, (hmem position hbefore).mp hposition⟩
  · rintro ⟨hbefore, hcovers⟩
    exact (hmem position hbefore).mpr hcovers

/-- As many of the last positions as the least number says are all of them. -/
theorem resolve_exact_lastOfTwo :
    2 < 2 ^ 63 ∧
      (∀ position, position ∈ resolve ⟨none, some Int64.minValue⟩ 2 ↔ position < 2) ∧
        resolve? ⟨none, some Int64.minValue⟩ 2 = some [0, 1] := by
  have hsize : 2 < 2 ^ 63 := by decide
  obtain ⟨-, hmem, hchecked⟩ := resolve_exact ⟨none, some Int64.minValue⟩ hsize
  refine ⟨hsize, fun position ↦ ?_, hchecked.trans rfl⟩
  rw [hmem]
  have hcovers : Covers ⟨none, some Int64.minValue⟩ 2 position := by
    have hnegative : ¬ 0 ≤ Int64.minValue.toInt := by decide
    simp only [Covers, hnegative, if_false]
    rw [Int64.toInt_minValue]
    omega
  simp [hcovers]

end Range

end DocTree
