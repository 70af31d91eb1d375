import DocTree.Decimal.Stepwise
import DocTree.Proofs.Decimal.Rounding
import DocTree.Proofs.Decimal.Shortest

/-!
# The shortest decimal number is read in steps

Reading a decimal number in steps rounds its coefficient, a power of ten and the product or the
quotient of both, so that it may give another float than the nearest one, or refuse a number that is
hardly too small to be infinite. An integer of 64 bits is rounded just once, to the nearest float
(`stepwise?_integer`). The shortest number of a finite float is never refused
(`exists_stepwise?_shortest`). Up to the third of the greatest floats the three errors are too small
to lead to infinity, and for the two greatest floats the steps are carried out.
-/

set_option autoImplicit false
set_option relaxedAutoImplicit false

namespace DocTree.Decimal

/-! ### Digits -/

theorem le_foldl_digits (digits : List Char) : ∀ significand : ℕ,
    significand ≤ digits.foldl (fun value digit ↦ 10 * value + digitValue digit) significand := by
  induction digits with
  | nil => exact fun _ ↦ le_rfl
  | cons digit digits ih =>
    intro significand
    have hlonger := ih (10 * significand + digitValue digit)
    rw [List.foldl_cons]
    omega

/-- Digits that 64 bits are enough for are all taken. -/
theorem absorb_eq {digits : List Char} : ∀ {significand : ℕ},
    digits.foldl (fun value digit ↦ 10 * value + digitValue digit) significand < UInt64.size →
      absorb significand digits =
        (digits.foldl (fun value digit ↦ 10 * value + digitValue digit) significand, []) := by
  induction digits with
  | nil => exact fun _ ↦ rfl
  | cons digit digits ih =>
    intro significand hfits
    rw [List.foldl_cons] at hfits ⊢
    have hlonger := (le_foldl_digits digits (10 * significand + digitValue digit)).trans_lt hfits
    rw [absorb, ← ih hfits]
    exact if_pos hlonger

/-- A number whose digits fit is made of all of them. -/
theorem ofLeadingDigits_eq {whole fraction : List Char} {exponent : ℤ}
    (hfits : (ofParts whole fraction exponent).coefficient < UInt64.size) :
    ofLeadingDigits whole fraction exponent = ofParts whole fraction exponent := by
  unfold ofParts natOfDigits at hfits
  rw [List.foldl_append] at hfits
  have hwhole := absorb_eq ((le_foldl_digits fraction _).trans_lt hfits)
  have hfraction := absorb_eq hfits
  unfold ofLeadingDigits ofParts natOfDigits
  simp only [hwhole, hfraction, List.foldl_append, List.length_nil, Nat.cast_zero, add_zero]

/-! ### Powers of ten -/

theorem powerOfTen_eq {exponent : ℕ} (hexponent : exponent ≤ maxPower) :
    powerOfTen exponent = roundToFloat (10 ^ exponent : ℕ) := by
  have hcount : digitCount 1 = 1 := rfl
  unfold maxPower at hexponent
  rw [← nearestFloat_one (Nat.pow_pos (by norm_num))]
  unfold powerOfTen toFloat
  simp only [hcount, Nat.pow_eq, one_mul, Int.toNat_natCast]
  rw [if_neg, if_neg (by omega)]
  · simp
  · simp only [Bool.or_eq_true, decide_eq_true_eq]
    omega

/-- The number one is exact. -/
theorem powerOfTen_zero : powerOfTen 0 = signedFloat .positive (2 ^ 52) (-52) :=
  eq_of_toNat_toBits (by decide +kernel)

/-! ### Steps -/

variable {decimal : Decimal} {number : Float} {coefficient : ℕ}

theorem toFloat_coefficient (hpos : 0 < coefficient) (hfits : coefficient < UInt64.size) :
    coefficient.toUInt64.toFloat = roundToFloat coefficient := by
  have hnat : coefficient.toUInt64.toNat = coefficient := by
    unfold UInt64.size at hfits
    simp only [Nat.toUInt64_eq, UInt64.toNat_ofNat']
    omega
  rw [toFloat_eq_roundToFloat (by omega), hnat]

/-- A number with a negative exponent is not refused. -/
theorem exists_stepwise?_of_neg (hexponent : decimal.exponent < 0) :
    ∃ result, decimal.stepwise? = some result := by
  unfold stepwise? scale?
  rw [if_pos hexponent]
  exact ⟨_, rfl⟩

theorem overflow_lt : overflow < 10 ^ 309 := by
  have hpowers : (2 : ℕ) ^ 1024 < 10 ^ 309 := by decide +kernel
  calc overflow ≤ 2 ^ 53 * 2 ^ (971 : ℤ) := by
        unfold overflow
        gcongr
        norm_num
    _ = (2 : ℚ) ^ (1024 : ℤ) := by
        rw [← zpow_natCast, ← zpow_add₀ two_ne_zero]
        norm_num
    _ < 10 ^ 309 := by exact_mod_cast hpowers

/-- A product that is small enough for the errors of its factors is finite. -/
theorem exists_toFloat_mul_powerOfTen {power : ℕ} (hpos : 0 < coefficient)
    (hfits : coefficient < UInt64.size) (hpower : power ≤ maxPower)
    (hbound : (coefficient * 10 ^ power : ℚ) * (1 + 1 / 2 ^ 53) ^ 2 < overflow) :
    ∃ m q, IsMagnitude m q ∧
      coefficient.toUInt64.toFloat * powerOfTen power = signedFloat .positive m q := by
  have hcoefficient : (1 : ℚ) ≤ coefficient := by exact_mod_cast hpos
  have hten : (1 : ℚ) ≤ (10 ^ power : ℕ) := by exact_mod_cast Nat.one_le_pow _ _ (by norm_num)
  have hproduct : (coefficient * (10 ^ power : ℕ) : ℚ) < overflow := by
    refine lt_of_le_of_lt ?_ hbound
    rw [Nat.cast_pow, Nat.cast_ofNat]
    exact le_mul_of_one_le_right (by positivity) (by norm_num)
  obtain ⟨m, q, hfirst, hm, hleft, hmvalue⟩ := exists_roundToFloat_of_one_le hcoefficient
    ((le_mul_of_one_le_right (by positivity) hten).trans_lt hproduct)
  obtain ⟨n, r, hsecond, hn, hright, hnvalue⟩ := exists_roundToFloat_of_one_le hten
    ((le_mul_of_one_le_left (by positivity) hcoefficient).trans_lt hproduct)
  have hhigh : (m * 2 ^ q * (n * 2 ^ r) : ℚ) < overflow := by
    refine lt_of_le_of_lt ?_ hbound
    calc (m * 2 ^ q * (n * 2 ^ r) : ℚ)
        ≤ coefficient * (1 + 1 / 2 ^ 53) * ((10 ^ power : ℕ) * (1 + 1 / 2 ^ 53)) := by gcongr
      _ = coefficient * 10 ^ power * (1 + 1 / 2 ^ 53) ^ 2 := by
          rw [Nat.cast_pow, Nat.cast_ofNat]
          ring
  obtain ⟨k, t, hresult, hrounded, -⟩ := exists_roundToFloat (by positivity) hhigh
  refine ⟨k, t, hresult, ?_⟩
  rw [toFloat_coefficient hpos hfits, powerOfTen_eq hpower, hleft, hright,
    signedFloat_mul hfirst hsecond hm hn, hrounded]

/-- A number that is an integer is not refused if it is small enough for the errors of two
roundings. -/
theorem exists_stepwise?_of_lt (hpos : 0 < decimal.coefficient)
    (hfits : decimal.coefficient < UInt64.size) (hexponent : 0 ≤ decimal.exponent)
    (hbound : decimal.value * (1 + 1 / 2 ^ 53) ^ 2 < overflow) :
    ∃ result, decimal.stepwise? = some result := by
  obtain ⟨power, hpower⟩ := Int.eq_ofNat_of_zero_le hexponent
  rw [value, hpower, zpow_natCast] at hbound
  have hmax : power ≤ maxPower := by
    have hcoefficient : (1 : ℚ) ≤ decimal.coefficient := by exact_mod_cast hpos
    have hvalue : (10 : ℚ) ^ power < 10 ^ 309 := by
      calc (10 : ℚ) ^ power ≤ decimal.coefficient * 10 ^ power :=
            le_mul_of_one_le_left (by positivity) hcoefficient
        _ ≤ decimal.coefficient * 10 ^ power * (1 + 1 / 2 ^ 53) ^ 2 :=
            le_mul_of_one_le_right (by positivity) (by norm_num)
        _ < 10 ^ 309 := hbound.trans overflow_lt
    have hexponents := (pow_lt_pow_iff_right₀ (by norm_num : (1 : ℚ) < 10)).mp hvalue
    unfold maxPower
    omega
  obtain ⟨m, q, hmagnitude, hproduct⟩ := exists_toFloat_mul_powerOfTen hpos hfits hmax hbound
  refine ⟨signedFloat .positive m q, ?_⟩
  unfold stepwise? scale?
  rw [if_neg (by omega), hpower, if_pos (by exact_mod_cast hmax)]
  simp only [Int.toNat_natCast, hproduct, isInf_signedFloat hmagnitude, Bool.false_eq_true,
    if_false]

/-- An integer of 64 bits is read as the nearest float. -/
theorem stepwise?_integer (hpos : 0 < coefficient) (hfits : coefficient < UInt64.size) :
    stepwise? ⟨coefficient, 0⟩ = some (nearestFloat coefficient 1) := by
  have hone : (1 : ℚ) ≤ coefficient := by exact_mod_cast hpos
  have hhigh : (coefficient : ℚ) < overflow := by
    calc (coefficient : ℚ) < UInt64.size := by exact_mod_cast hfits
      _ ≤ (2 ^ 53 - 1 / 2) * 2 ^ (12 : ℤ) := by norm_num [UInt64.size]
      _ ≤ overflow := by
          unfold overflow
          gcongr <;> norm_num
  obtain ⟨m, q, hmagnitude, hm, hfloat, -⟩ := exists_roundToFloat_of_one_le hone hhigh
  have hunit : IsMagnitude (2 ^ 52) (-52) := ⟨by norm_num, by norm_num, by norm_num, fun _ ↦ le_rfl⟩
  have hsame : (m * 2 ^ q * ((2 ^ 52 : ℕ) * 2 ^ (-52 : ℤ)) : ℚ) = m * 2 ^ q := by
    norm_num
  have hproduct : coefficient.toUInt64.toFloat * powerOfTen 0 = signedFloat .positive m q := by
    rw [toFloat_coefficient hpos hfits, hfloat, powerOfTen_zero,
      signedFloat_mul hmagnitude hunit hm (by norm_num), hsame,
      roundToFloat_magnitude hmagnitude hm]
  rw [nearestFloat_one hpos, hfloat, ← hproduct]
  unfold stepwise? scale?
  rw [if_neg (lt_irrefl _), if_pos (Int.natCast_nonneg maxPower)]
  simp only [Int.toNat_zero, hproduct, isInf_signedFloat hmagnitude, Bool.false_eq_true, if_false]

/-! ### The shortest number -/

theorem shortest_congr {other : Float} (hparts : floatParts number = floatParts other) :
    shortest number = shortest other := by
  unfold shortest Interval.ofFloat
  rw [hparts]

/-- The shortest numbers of the two greatest floats are read. -/
theorem exists_stepwise?_greatest (hfinite : number.isFinite = true)
    (hlast : (floatParts number).2 = 971) (hgreat : 2 ^ 53 < (floatParts number).1 + 3) :
    ∃ result, (shortest number).stepwise? = some result := by
  have hsteps : (shortest (Float.ofBits 0x7fefffffffffffff)).stepwise?.isSome = true ∧
      (shortest (Float.ofBits 0x7feffffffffffffe)).stepwise?.isSome = true := by decide +kernel
  have hgreatest : floatParts (Float.ofBits 0x7fefffffffffffff) = (2 ^ 53 - 1, 971) ∧
      floatParts (Float.ofBits 0x7feffffffffffffe) = (2 ^ 53 - 2, 971) := by decide +kernel
  have hlt := (isMagnitude_floatParts hfinite).lt
  rw [← Option.isSome_iff_exists]
  rcases (by omega : (floatParts number).1 = 2 ^ 53 - 1 ∨ (floatParts number).1 = 2 ^ 53 - 2) with
    hm | hm
  · rw [shortest_congr ((Prod.ext hm hlast).trans hgreatest.1.symm)]
    exact hsteps.1
  · rw [shortest_congr ((Prod.ext hm hlast).trans hgreatest.2.symm)]
    exact hsteps.2

/-- Up to the third of the greatest floats, all numbers that round to a float are small enough for
the errors of two roundings. -/
theorem lt_overflow_of_contains {x : ℚ} (hfinite : number.isFinite = true)
    (hpos : (floatParts number).1 ≠ 0)
    (hless : (floatParts number).2 = 971 → (floatParts number).1 + 3 ≤ 2 ^ 53)
    (hcontains : (Interval.ofFloat number).Contains x) :
    x * (1 + 1 / 2 ^ 53) ^ 2 < overflow := by
  rw [Interval.contains_ofFloat_iff hpos] at hcontains
  obtain ⟨-, hgreatest, hlt, -⟩ := isMagnitude_floatParts hfinite
  have hx : x ≤ (2 ^ 53 - 5 / 2) * 2 ^ (971 : ℤ) := by
    refine hcontains.ge.trans ?_
    by_cases hlast : (floatParts number).2 = 971
    · have hm : ((floatParts number).1 + 3 : ℚ) ≤ 2 ^ 53 := by exact_mod_cast hless hlast
      rw [hlast]
      gcongr
      linarith
    · have hm : ((floatParts number).1 + 1 : ℚ) ≤ 2 ^ 53 := by exact_mod_cast hlt
      calc (4 * (floatParts number).1 + 2) / 4 * (2 : ℚ) ^ (floatParts number).2
          ≤ (4 * (floatParts number).1 + 2) / 4 * 2 ^ (970 : ℤ) := by
            gcongr
            · exact one_le_two
            · omega
        _ ≤ (2 ^ 53 - 5 / 2) * 2 * 2 ^ (970 : ℤ) := by
            gcongr
            linarith
        _ = (2 ^ 53 - 5 / 2) * 2 ^ (971 : ℤ) := by
            rw [mul_assoc, ← zpow_one_add₀ two_ne_zero]
            norm_num
  calc x * (1 + 1 / 2 ^ 53) ^ 2
      ≤ (2 ^ 53 - 5 / 2) * 2 ^ (971 : ℤ) * (1 + 1 / 2 ^ 53) ^ 2 := by gcongr
    _ = (2 ^ 53 - 5 / 2) * (1 + 1 / 2 ^ 53) ^ 2 * 2 ^ (971 : ℤ) := by ring
    _ < overflow := by
        unfold overflow
        gcongr
        norm_num

/-- The shortest number of a finite float is read. -/
theorem exists_stepwise?_shortest (hfinite : number.isFinite = true)
    (hpos : (floatParts number).1 ≠ 0) : ∃ result, (shortest number).stepwise? = some result := by
  by_cases hneg : (shortest number).exponent < 0
  · exact exists_stepwise?_of_neg hneg
  by_cases hless : (floatParts number).2 = 971 → (floatParts number).1 + 3 ≤ 2 ^ 53
  · exact exists_stepwise?_of_lt (coefficient_shortest_pos hfinite hpos)
      (coefficient_shortest_lt hfinite hpos) (not_lt.mp hneg)
      (lt_overflow_of_contains hfinite hpos hless (contains_shortest hfinite hpos))
  · obtain ⟨hlast, hgreat⟩ := Classical.not_imp.mp hless
    exact exists_stepwise?_greatest hfinite hlast (not_le.mp hgreat)

end DocTree.Decimal
