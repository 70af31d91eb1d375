import DocTree.Query.Range

/-!
# Integers as they are written

An integer is written in decimal, with a minus sign in front when it is negative, and is read back
as it was (`Decimal.signedInt?_repr`). Its text holds digits and at most that sign, which keeps it
apart from the text around it.
-/

set_option autoImplicit false
set_option relaxedAutoImplicit false

namespace DocTree

namespace Decimal

theorem natOfDigits_eq (digits : List Char) :
    natOfDigits digits = Nat.ofDigitChars 10 digits 0 := by
  rw [Nat.ofDigitChars_eq_foldl]
  rfl

theorem natOfDigits_repr (number : Nat) : natOfDigits number.repr.toList = number := by
  rw [natOfDigits_eq, Nat.toList_repr, Nat.ofDigitChars_ten_toDigits]

theorem isDigit_of_mem_repr {number : Nat} {c : Char} (hmem : c ∈ number.repr.toList) :
    c.isDigit = true := by
  rw [Nat.toList_repr] at hmem
  exact Nat.isDigit_of_mem_toDigits (by omega) (by omega) hmem

theorem repr_ne_nil (number : Nat) : number.repr.toList ≠ [] := by
  rw [Nat.toList_repr]
  exact Nat.toDigits_ne_nil

theorem signedInt?_of_digits {text : List Char} (hne : text ≠ [])
    (hdigits : ∀ c ∈ text, c.isDigit = true) : signedInt? text = some (natOfDigits text) := by
  cases text with
  | nil => exact absurd rfl hne
  | cons c rest =>
    have hminus : c ≠ '-' := by
      rintro rfl
      exact absurd (hdigits '-' List.mem_cons_self) (by decide)
    have hplus : c ≠ '+' := by
      rintro rfl
      exact absurd (hdigits '+' List.mem_cons_self) (by decide)
    have hall : (c :: rest).all Char.isDigit = true := List.all_eq_true.mpr hdigits
    simp [signedInt?, hminus, hplus, hall]

theorem signedInt?_minus_of_digits {text : List Char} (hne : text ≠ [])
    (hdigits : ∀ c ∈ text, c.isDigit = true) :
    signedInt? ('-' :: text) = some (-(natOfDigits text : Int)) := by
  have hall : text.all Char.isDigit = true := List.all_eq_true.mpr hdigits
  simp [signedInt?, hne, hall]

/-- An integer is written as its absolute value, after a minus sign when it is negative. -/
theorem toList_repr_int (number : Int) :
    number.repr.toList =
      if number < 0 then '-' :: number.natAbs.repr.toList else number.natAbs.repr.toList := by
  cases number with
  | ofNat n =>
    have hnonneg : ¬Int.ofNat n < 0 := Int.not_lt.mpr (Int.natCast_nonneg n)
    rw [if_neg hnonneg]
    rfl
  | negSucc n =>
    rw [if_pos (Int.negSucc_lt_zero n)]
    simp [Int.repr]

/-- An integer is read back from its decimal notation. -/
theorem signedInt?_repr (number : Int) : signedInt? number.repr.toList = some number := by
  rw [toList_repr_int]
  by_cases hnegative : number < 0
  · rw [if_pos hnegative, signedInt?_minus_of_digits (repr_ne_nil _) fun _ ↦ isDigit_of_mem_repr,
      natOfDigits_repr]
    exact congrArg some (by omega)
  · rw [if_neg hnegative, signedInt?_of_digits (repr_ne_nil _) fun _ ↦ isDigit_of_mem_repr,
      natOfDigits_repr]
    exact congrArg some (by omega)

/-- An integer is written with digits and a minus sign. -/
theorem isDigit_or_minus_of_mem_repr {number : Int} {c : Char} (hmem : c ∈ number.repr.toList) :
    c.isDigit = true ∨ c = '-' := by
  rw [toList_repr_int] at hmem
  by_cases hnegative : number < 0
  · rw [if_pos hnegative, List.mem_cons] at hmem
    exact hmem.symm.imp isDigit_of_mem_repr id
  · rw [if_neg hnegative] at hmem
    exact .inl (isDigit_of_mem_repr hmem)

end Decimal

theorem int64OfText?_repr (number : Int64) :
    int64OfText? number.toInt.repr.toList = some number := by
  have hlow : Int64.minValue.toInt ≤ number.toInt := Int64.minValue_le_toInt number
  have hhigh : number.toInt ≤ Int64.maxValue.toInt := Int64.toInt_le number
  simp only [int64OfText?, Decimal.signedInt?_repr, hlow, hhigh, and_self, if_true,
    Int64.ofInt_toInt]

end DocTree
