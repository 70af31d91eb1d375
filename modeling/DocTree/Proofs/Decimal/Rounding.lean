import DocTree.Proofs.Decimal.Nearest

/-!
# Operations on floats round to the nearest float

An operation on floats makes a significand with more bits than a float has and shifts it to the
right. Two residual bits keep what rounding needs to know of the bits that are shifted out
(`Represents`), so that the significand is rounded to the nearest integer and the result is the
nearest float (`ofModel_roundWithAccuracy`). So the float of an integer is the nearest one
(`toFloat_eq_roundToFloat`), and the product of two floats is the float nearest to the product of
their values (`signedFloat_mul`).
-/

set_option autoImplicit false
set_option relaxedAutoImplicit false

namespace DocTree

open Float.Model (Format UnpackedFloat)
open Float.Model.UnpackedFloat

/-! ### Residual bits -/

/-- An extended significand says of a number what its integer part is, and where between it and the
next integer the number lies: at the lower one, below the middle, in the middle or above it. -/
def Represents (extended : ExtendedMantissa) (x : ℚ) : Prop :=
  match extended.roundBit, extended.stickyBit with
  | false, false => x = extended.mantissa
  | false, true => extended.mantissa < x ∧ x < extended.mantissa + 1 / 2
  | true, false => x = extended.mantissa + 1 / 2
  | true, true => extended.mantissa + 1 / 2 < x ∧ x < extended.mantissa + 1

variable {extended : ExtendedMantissa} {x : ℚ} {m k : ℕ} {e : ℤ}

theorem represents_exact (m : ℕ) :
    Represents (ExtendedMantissa.ofMantissaAndAccuracy m .exact) m := rfl

/-- A shift by one place halves the number. -/
theorem Represents.shiftRightOne (hrepresents : Represents extended x) :
    Represents extended.shiftRightOne (x / 2) := by
  obtain ⟨m, roundBit, stickyBit⟩ := extended
  have hhalf : (m : ℚ) = 2 * (m / 2 : ℕ) + (m % 2 : ℕ) := by
    exact_mod_cast (Nat.div_add_mod m 2).symm
  unfold ExtendedMantissa.shiftRightOne
  rcases Nat.mod_two_eq_zero_or_one m with heven | hodd
  · rw [heven, Nat.cast_zero, add_zero] at hhalf
    cases roundBit <;> cases stickyBit <;>
      simp only [Represents, heven, hhalf, bne_self_eq_false, Bool.or_false, Bool.or_true] at *
    · linarith
    · constructor <;> linarith [hrepresents.1, hrepresents.2]
    · constructor <;> linarith
    · constructor <;> linarith [hrepresents.1, hrepresents.2]
  · have hone : (1 != 0) = true := rfl
    rw [hodd, Nat.cast_one] at hhalf
    cases roundBit <;> cases stickyBit <;>
      simp only [Represents, hodd, hhalf, hone, Bool.or_false, Bool.or_true] at *
    · linarith
    · constructor <;> linarith [hrepresents.1, hrepresents.2]
    · constructor <;> linarith
    · constructor <;> linarith [hrepresents.1, hrepresents.2]

theorem Represents.shiftRight (hrepresents : Represents extended x) (places : ℕ) :
    Represents (extended >>> places) (x / 2 ^ places) := by
  show Represents (places.repeat ExtendedMantissa.shiftRightOne extended) _
  induction places with
  | zero => simpa [Nat.repeat] using hrepresents
  | succ places ih =>
    rw [Nat.repeat, pow_succ, ← div_div]
    exact ih.shiftRightOne

/-- An extended significand is rounded to the integer nearest to the number. -/
theorem Represents.roundsTo (hrepresents : Represents extended x) :
    RoundsTo x extended.roundedMantissa := by
  obtain ⟨m, roundBit, stickyBit⟩ := extended
  unfold RoundsTo Within ExtendedMantissa.roundedMantissa ExtendedMantissa.accuracy
  cases roundBit <;> cases stickyBit <;>
    simp only [Represents, Accuracy.roundToNearestEven] at hrepresents ⊢
  · exact ⟨.inl (by linarith), .inl (by linarith)⟩
  · exact ⟨.inl (by linarith), .inl (by linarith)⟩
  · rcases Nat.mod_two_eq_zero_or_one m with heven | hodd
    · rw [heven]
      exact ⟨.inl (by push_cast; linarith), .inr ⟨heven, by push_cast; linarith⟩⟩
    · rw [hodd]
      exact ⟨.inr ⟨by omega, by push_cast; linarith⟩, .inl (by push_cast; linarith)⟩
  · exact ⟨.inl (by push_cast; linarith), .inl (by push_cast; linarith)⟩

/-! ### The exponent of a float -/

/-- The exponent of the float nearest to a positive number. -/
def floatExponent (x : ℚ) : ℤ := max (Int.log 2 x - 52) (-1074)

theorem floatExponent_eq (hm : 0 < m) (e : ℤ) :
    floatExponent (m * 2 ^ e) = max (m.log2 + e - 52) (-1074) := by
  have hx : (0 : ℚ) < m * 2 ^ e := by positivity
  have hpower : (0 : ℚ) < 2 ^ e := by positivity
  have hiff {j : ℕ} : 2 ^ j ≤ m ↔ j + e ≤ Int.log 2 (m * 2 ^ e : ℚ) := by
    rw [← Int.zpow_le_iff_le_log Nat.one_lt_two hx, Nat.cast_two, zpow_add₀ two_ne_zero,
      mul_le_mul_iff_left₀ hpower]
    exact_mod_cast Iff.rfl
  have hlower := hiff.mp (Nat.log2_self_le hm.ne')
  have hupper := mt hiff.mpr (Nat.not_le.mpr (@Nat.lt_log2_self m))
  unfold floatExponent
  omega

theorem lt_of_floatExponent (x : ℚ) : x * 2 ^ (-floatExponent x) < 2 ^ 53 := by
  have hlog := Int.lt_zpow_succ_log_self Nat.one_lt_two x
  rw [zpow_neg, mul_inv_lt_iff₀ (by positivity), ← zpow_natCast, ← zpow_add₀ two_ne_zero]
  refine hlog.trans_le (zpow_le_zpow_right₀ one_le_two ?_)
  unfold floatExponent
  omega

theorem le_of_floatExponent (hpos : 0 < x) (hnormal : -1022 ≤ Int.log 2 x) :
    2 ^ 52 ≤ x * 2 ^ (-floatExponent x) := by
  have hlog := Int.zpow_log_le_self Nat.one_lt_two hpos
  rw [zpow_neg, le_mul_inv_iff₀ (by positivity), ← zpow_natCast, ← zpow_add₀ two_ne_zero]
  refine le_trans (zpow_le_zpow_right₀ one_le_two ?_) hlog
  unfold floatExponent
  omega

/-- A rounded significand has at most 53 bits, or is the next power of two. -/
theorem RoundsTo.le_two_pow (hrounds : RoundsTo (x * 2 ^ (-floatExponent x)) k) :
    k ≤ 2 ^ 53 := by
  have hbound : (k : ℚ) < (2 ^ 53 + 1 : ℕ) := by
    push_cast
    linarith [hrounds.le, lt_of_floatExponent x]
  have hnat := Nat.cast_lt.mp hbound
  omega

/-- The rounded significand of a number that is not subnormal has 53 bits. -/
theorem RoundsTo.two_pow_le (hpos : 0 < x) (hrounds : RoundsTo (x * 2 ^ (-floatExponent x)) k)
    (hnormal : -1022 ≤ Int.log 2 x) : 2 ^ 52 ≤ k := by
  have hbound : ((2 ^ 52 - 1 : ℕ) : ℚ) < k := by
    push_cast
    linarith [hrounds.ge, le_of_floatExponent hpos hnormal]
  exact_mod_cast hbound

/-! ### Rounding a significand -/

theorem targetExponent_eq (m : ℕ) (e : ℤ) :
    Format.targetExponent .binary64 (Float.Model.totalExponent m e) =
      max (m.log2 + e - 52) (-1074) := by
  unfold Format.targetExponent Float.Model.totalExponent Format.minExponent Format.mantissaBits
  simp only
  omega

/-- The first shift leaves the significand of the nearest float. -/
theorem roundsTo_shift (hm : 0 < m) (he : e ≤ floatExponent (m * 2 ^ e)) :
    (shiftToTargetExponent .binary64 m e .exact).2 = floatExponent (m * 2 ^ e) ∧
      RoundsTo (m * 2 ^ e * 2 ^ (-floatExponent (m * 2 ^ e)))
        (shiftToTargetExponent .binary64 m e .exact).1.roundedMantissa := by
  obtain ⟨target, htarget⟩ : ∃ target, target = floatExponent (m * 2 ^ e) := ⟨_, rfl⟩
  unfold shiftToTargetExponent shiftToExponent
  simp only [targetExponent_eq, ← floatExponent_eq hm, ← htarget] at he ⊢
  refine ⟨by omega, ?_⟩
  have hrounds := ((represents_exact m).shiftRight (target - e).toNat).roundsTo
  have hscaled : (m * 2 ^ e * 2 ^ (-target) : ℚ) = m / 2 ^ (target - e).toNat := by
    rw [mul_assoc, ← zpow_add₀ two_ne_zero, ← zpow_natCast, Int.toNat_of_nonneg (by omega),
      div_eq_mul_inv, ← zpow_neg]
    congr 2
    omega
  rwa [hscaled]

/-- The second shift changes nothing but a significand that was rounded up to a power of two. -/
theorem shift_small (hk : k < 2 ^ 53) (he : -1074 ≤ e) :
    shiftToTargetExponent .binary64 k e .exact =
      (ExtendedMantissa.ofMantissaAndAccuracy k .exact, e) := by
  have hlog : k.log2 ≤ 52 := by
    by_cases hzero : k = 0
    · simp [hzero]
    · have hlt := (Nat.log2_lt hzero).mpr hk
      omega
  have hshift : (max (k.log2 + e - 52) (-1074) - e).toNat = 0 := by omega
  unfold shiftToTargetExponent shiftToExponent
  simp only [targetExponent_eq, hshift, Nat.cast_zero, add_zero]
  rfl

theorem shift_carry (he : -1074 ≤ e) :
    (shiftToTargetExponent .binary64 (2 ^ 53) e .exact).1.mantissa = 2 ^ 52 ∧
      (shiftToTargetExponent .binary64 (2 ^ 53) e .exact).2 = e + 1 := by
  have hshift : (max ((2 ^ 53).log2 + e - 52) (-1074) - e).toNat = 1 := by
    rw [Nat.log2_two_pow]
    omega
  unfold shiftToTargetExponent shiftToExponent
  simp only [targetExponent_eq, hshift]
  exact ⟨rfl, by simp⟩

/-- An exact significand is shifted and rounded, and then shifted once more, since rounding may have
made it longer. -/
theorem roundWithAccuracy_exact (sign : Sign) (m : ℕ) (e : ℤ) :
    roundWithAccuracy .binary64 sign m e .exact =
      unpackedFloat sign
        (shiftToTargetExponent .binary64
          (shiftToTargetExponent .binary64 m e .exact).1.roundedMantissa
          (shiftToTargetExponent .binary64 m e .exact).2 .exact).1.mantissa
        (shiftToTargetExponent .binary64
          (shiftToTargetExponent .binary64 m e .exact).1.roundedMantissa
          (shiftToTargetExponent .binary64 m e .exact).2 .exact).2 := rfl

/-- A significand is rounded to the nearest integer, and one that becomes a power of two has the next
exponent. -/
theorem roundWithAccuracy_eq (hm : 0 < m) (he : e ≤ floatExponent (m * 2 ^ e))
    (hrounds : RoundsTo (m * 2 ^ e * 2 ^ (-floatExponent (m * 2 ^ e))) k) (sign : Sign) :
    roundWithAccuracy .binary64 sign m e .exact =
      if k < 2 ^ 53 then unpackedFloat sign k (floatExponent (m * 2 ^ e))
      else unpackedFloat sign (2 ^ 52) (floatExponent (m * 2 ^ e) + 1) := by
  obtain ⟨hexponent, hrounded⟩ := roundsTo_shift hm he
  have hleast : -1074 ≤ floatExponent (m * 2 ^ e) := le_max_right _ _
  have hle := hrounds.le_two_pow
  have hk := hrounded.unique hrounds
  rw [roundWithAccuracy_exact, hexponent, hk]
  by_cases hsmall : k < 2 ^ 53
  · rw [shift_small hsmall hleast, if_pos hsmall]
    rfl
  · obtain rfl : k = 2 ^ 53 := Nat.le_antisymm hle (not_lt.mp hsmall)
    obtain ⟨hmantissa, hcarry⟩ := shift_carry hleast
    rw [hmantissa, hcarry, if_neg hsmall]

/-! ### The nearest float -/

/-- The float nearest to a positive rational number. -/
def roundToFloat (x : ℚ) : Float := nearestFloat x.num.toNat x.den

variable {q : ℤ}

theorem magnitudeBits_carry (hleast : -1074 ≤ q) :
    magnitudeBits (2 ^ 52) (q + 1) = magnitudeBits (2 ^ 53) q := by
  unfold magnitudeBits
  omega

/-- A float that is too large for its bits becomes infinite. -/
theorem toNat_pack_min (hleast : -1074 ≤ q) (hlt : m < 2 ^ 53) (hnormal : -1074 < q → 2 ^ 52 ≤ m) :
    (pack Format.binary64 (unpackedFloat .positive m q)).toNat =
      min (magnitudeBits m q) infinityBits := by
  by_cases hgreatest : q ≤ 971
  · have hmagnitude : IsMagnitude m q := ⟨hleast, hgreatest, hlt, hnormal⟩
    rw [toNat_pack hmagnitude, Nat.min_eq_left hmagnitude.bits_lt.le]
    simp [Sign.toBitVec]
  · have hlarge := hnormal (by omega)
    have hbits : infinityBits ≤ magnitudeBits m q := by
      unfold infinityBits magnitudeBits
      omega
    rw [Nat.min_eq_right hbits, unpackedFloat, dif_neg (by omega), pack_finite, if_pos (by omega)]
    rfl

theorem toNat_toBits_ofBits_min (bits : ℕ) :
    (Float.ofBits (min bits infinityBits).toUInt64).toBits.toNat = min bits infinityBits := by
  rcases Nat.lt_or_ge bits infinityBits with hlt | hge
  · rw [Nat.min_eq_left hlt.le, toNat_toBits_ofBits hlt]
  · rw [Nat.min_eq_right hge]
    decide

/-- The bits of the nearest float are those of the rounded significand. -/
theorem nearestFloat_of_roundsTo {numerator denominator : ℕ} (hnumerator : 0 < numerator)
    (hdenominator : 0 < denominator) (hratio : (numerator / denominator : ℚ) = x)
    (hrounds : RoundsTo (x * 2 ^ (-floatExponent x)) k) :
    nearestFloat numerator denominator =
      Float.ofBits (min (magnitudeBits k (floatExponent x)) infinityBits).toUInt64 := by
  rw [nearestFloat, ratioBits_eq_magnitudeBits hnumerator hdenominator _ (by rwa [hratio])]
  rw [ratioLog2_eq_log hnumerator hdenominator, hratio, floatExponent]

theorem roundToFloat_of_roundsTo (hpos : 0 < x)
    (hrounds : RoundsTo (x * 2 ^ (-floatExponent x)) k) :
    roundToFloat x =
      Float.ofBits (min (magnitudeBits k (floatExponent x)) infinityBits).toUInt64 := by
  have hnumerator := Rat.num_pos.mpr hpos
  refine nearestFloat_of_roundsTo (by omega) x.den_pos ?_ hrounds
  have hcast : ((x.num.toNat : ℕ) : ℚ) = x.num := by
    exact_mod_cast Int.toNat_of_nonneg hnumerator.le
  rw [hcast, Rat.num_div_den]

theorem exists_roundsTo_floatExponent (hpos : 0 < x) :
    ∃ k, RoundsTo (x * 2 ^ (-floatExponent x)) k := exists_roundsTo (by positivity)

theorem nearestFloat_eq {numerator denominator : ℕ} (hnumerator : 0 < numerator)
    (hdenominator : 0 < denominator) :
    nearestFloat numerator denominator = roundToFloat (numerator / denominator) := by
  have hpos : (0 : ℚ) < numerator / denominator := by positivity
  obtain ⟨k, hrounds⟩ := exists_roundsTo_floatExponent hpos
  rw [nearestFloat_of_roundsTo hnumerator hdenominator rfl hrounds,
    roundToFloat_of_roundsTo hpos hrounds]

theorem nearestFloat_one (hm : 0 < m) : nearestFloat m 1 = roundToFloat m := by
  rw [nearestFloat_eq hm Nat.one_pos, Nat.cast_one, div_one]

/-- Rounding a significand gives the nearest float. -/
theorem ofModel_roundWithAccuracy (hm : 0 < m) (he : e ≤ floatExponent (m * 2 ^ e)) :
    Float.ofModel (Float.Model.pack (roundWithAccuracy .binary64 .positive m e .exact)) =
      roundToFloat (m * 2 ^ e) := by
  have hpos : (0 : ℚ) < m * 2 ^ e := by positivity
  obtain ⟨k, hrounds⟩ := exists_roundsTo_floatExponent hpos
  have hleast : -1074 ≤ floatExponent (m * 2 ^ e) := le_max_right _ _
  apply eq_of_toNat_toBits
  rw [roundToFloat_of_roundsTo hpos hrounds, toNat_toBits_ofBits_min]
  show (pack Format.binary64 (roundWithAccuracy .binary64 .positive m e .exact)).toNat = _
  rw [roundWithAccuracy_eq hm he hrounds]
  split_ifs with hsmall
  · refine toNat_pack_min hleast hsmall fun hnormal ↦ hrounds.two_pow_le hpos ?_
    unfold floatExponent at hnormal
    omega
  · obtain rfl : k = 2 ^ 53 := Nat.le_antisymm hrounds.le_two_pow (not_lt.mp hsmall)
    rw [toNat_pack_min (by omega) (by norm_num) (fun _ ↦ le_rfl), magnitudeBits_carry hleast]

/-! ### The distance to the nearest float -/

/-- The least number that is rounded to infinity. It lies in the middle between the greatest float and
the next power of two. -/
def overflow : ℚ := (2 ^ 53 - 1 / 2) * 2 ^ (971 : ℤ)

theorem log_lt_of_lt_overflow (hpos : 0 < x) (hhigh : x < overflow) : Int.log 2 x < 1024 := by
  rw [← Int.lt_zpow_iff_log_lt Nat.one_lt_two hpos]
  calc x < (2 ^ 53 - 1 / 2) * 2 ^ (971 : ℤ) := hhigh
    _ ≤ 2 ^ 53 * 2 ^ (971 : ℤ) := by
        gcongr
        norm_num
    _ = ((2 : ℕ) : ℚ) ^ (1024 : ℤ) := by
        rw [Nat.cast_two, ← zpow_natCast, ← zpow_add₀ two_ne_zero]
        norm_num

/-- A rounded significand is that of a finite float, unless the number is too large. -/
theorem RoundsTo.exists_isMagnitude (hpos : 0 < x)
    (hrounds : RoundsTo (x * 2 ^ (-floatExponent x)) k) (hhigh : x < overflow) :
    ∃ m q, IsMagnitude m q ∧ magnitudeBits m q = magnitudeBits k (floatExponent x) ∧
      (m * 2 ^ q : ℚ) = k * 2 ^ floatExponent x := by
  have hlog := log_lt_of_lt_overflow hpos hhigh
  have hleast : -1074 ≤ floatExponent x := le_max_right _ _
  have hgreatest : floatExponent x ≤ 971 := by
    unfold floatExponent
    omega
  by_cases hsmall : k < 2 ^ 53
  · refine ⟨k, floatExponent x, ⟨hleast, hgreatest, hsmall, fun hnormal ↦ ?_⟩, rfl, rfl⟩
    refine hrounds.two_pow_le hpos ?_
    unfold floatExponent at hnormal
    omega
  · obtain rfl : k = 2 ^ 53 := Nat.le_antisymm hrounds.le_two_pow (not_lt.mp hsmall)
    have hroom : floatExponent x ≠ 971 := by
      intro hlast
      have hlower := hrounds.le
      rw [hlast, zpow_neg, ← div_eq_mul_inv, le_div_iff₀ (by positivity), Nat.cast_pow,
        Nat.cast_two] at hlower
      exact absurd hhigh (not_lt.mpr hlower)
    refine ⟨2 ^ 52, floatExponent x + 1, ⟨by omega, by omega, by norm_num, fun _ ↦ le_rfl⟩,
      magnitudeBits_carry hleast, ?_⟩
    rw [zpow_add_one₀ two_ne_zero]
    push_cast
    ring

/-- The float nearest to a number that is not too large is finite and differs from the number by half
of the last bit of its significand at most. -/
theorem exists_roundToFloat (hpos : 0 < x) (hhigh : x < overflow) :
    ∃ m q, IsMagnitude m q ∧ roundToFloat x = signedFloat .positive m q ∧
      |(m * 2 ^ q : ℚ) - x| ≤ 2 ^ floatExponent x / 2 := by
  have hpower : (0 : ℚ) < 2 ^ floatExponent x := by positivity
  obtain ⟨k, hrounds⟩ := exists_roundsTo_floatExponent hpos
  obtain ⟨m, q, hmagnitude, hbits, hvalue⟩ := hrounds.exists_isMagnitude hpos hhigh
  have hlow := hrounds.le
  have hhigh := hrounds.ge
  rw [zpow_neg, ← div_eq_mul_inv] at hlow hhigh
  rw [le_div_iff₀ hpower] at hlow
  rw [div_le_iff₀ hpower] at hhigh
  refine ⟨m, q, hmagnitude, ?_, ?_⟩
  · rw [roundToFloat_of_roundsTo hpos hrounds, ← hbits, Nat.min_eq_left hmagnitude.bits_lt.le,
      ofBits_magnitudeBits hmagnitude]
  · rw [hvalue, abs_le]
    constructor <;> linarith

/-- The float nearest to a number from one on exceeds it by half of the last of its 53 bits at most. -/
theorem exists_roundToFloat_of_one_le (hone : 1 ≤ x) (hhigh : x < overflow) :
    ∃ m q, IsMagnitude m q ∧ 0 < m ∧ roundToFloat x = signedFloat .positive m q ∧
      (m * 2 ^ q : ℚ) ≤ x * (1 + 1 / 2 ^ 53) := by
  have hpos : 0 < x := lt_of_lt_of_le one_pos hone
  have hlog : -1022 ≤ Int.log 2 x := by
    rw [Int.log_of_one_le_right _ hone]
    omega
  have hscaled := le_of_floatExponent hpos hlog
  rw [zpow_neg, ← div_eq_mul_inv, le_div_iff₀ (by positivity)] at hscaled
  obtain ⟨m, q, hmagnitude, hnearest, hdistance⟩ := exists_roundToFloat hpos hhigh
  rw [abs_le] at hdistance
  refine ⟨m, q, hmagnitude, ?_, hnearest, by linarith⟩
  rw [Nat.pos_iff_ne_zero]
  rintro rfl
  rw [Nat.cast_zero, zero_mul] at hdistance
  linarith

/-- A float is the nearest one to its own value. -/
theorem roundToFloat_magnitude (hmagnitude : IsMagnitude m q) (hm : 0 < m) :
    roundToFloat (m * 2 ^ q) = signedFloat .positive m q := by
  have hexponent : floatExponent (m * 2 ^ q) = q := by
    obtain ⟨hleast, -, hlt, hnormal⟩ := hmagnitude
    have hupper := (Nat.log2_lt hm.ne').mpr hlt
    have hlower := @Nat.le_log2 m 52 hm.ne'
    rw [floatExponent_eq hm]
    omega
  have hrounds : RoundsTo (m * 2 ^ q * 2 ^ (-floatExponent (m * 2 ^ q))) m := by
    rw [hexponent, mul_assoc, ← zpow_add₀ two_ne_zero, add_neg_cancel, zpow_zero, mul_one]
    exact ⟨.inl (by linarith), .inl (by linarith)⟩
  rw [roundToFloat_of_roundsTo (by positivity) hrounds, hexponent,
    Nat.min_eq_left hmagnitude.bits_lt.le, ofBits_magnitudeBits hmagnitude]

/-! ### Operations -/

/-- The float of an integer is the nearest one. -/
theorem toFloat_eq_roundToFloat {number : UInt64} (hpos : 0 < number.toNat) :
    number.toFloat = roundToFloat number.toNat := by
  obtain ⟨shift, hshift⟩ :
      ∃ shift, shift = (0 - max (number.toNat.log2 + 0 - 52 : ℤ) (-1074)).toNat := ⟨_, rfl⟩
  have hpower := Nat.mul_pos hpos (Nat.two_pow_pos shift)
  have hnumber : UnpackedFloat.ofUInt64 .binary64 number =
      roundWithAccuracy .binary64 .positive (number.toNat * 2 ^ shift) (0 - shift) .exact := by
    have hcompare : compare (number.toNat : ℤ) 0 = .gt := by
      rw [compare_gt_iff_gt]
      exact_mod_cast hpos
    simp only [UnpackedFloat.ofUInt64, UnpackedFloat.ofNat, UnpackedFloat.ofInt,
      UnpackedFloat.normalize, hcompare, UnpackedFloat.round, Int.toNat_natCast, decreaseExponent,
      targetExponent_eq, ← hshift, Nat.shiftLeft_eq]
  have hexponent : (0 - shift : ℤ) ≤
      floatExponent ((number.toNat * 2 ^ shift : ℕ) * 2 ^ (0 - shift : ℤ)) := by
    have hlog : (number.toNat * 2 ^ shift).log2 = number.toNat.log2 + shift := by
      rw [Nat.log2_eq_iff hpower.ne', pow_add, add_right_comm, pow_add]
      exact ⟨Nat.mul_le_mul_right _ (Nat.log2_self_le hpos.ne'),
        Nat.mul_lt_mul_of_pos_right Nat.lt_log2_self (Nat.two_pow_pos shift)⟩
    rw [floatExponent_eq hpower, hlog]
    omega
  have hvalue : ((number.toNat * 2 ^ shift : ℕ) * 2 ^ (0 - shift : ℤ) : ℚ) = number.toNat := by
    push_cast
    rw [mul_assoc, ← zpow_natCast, ← zpow_add₀ two_ne_zero]
    simp
  rw [← hvalue, ← ofModel_roundWithAccuracy hpower hexponent, ← hnumber]
  rfl

/-- The product of two floats is the float nearest to the product of their values. -/
theorem signedFloat_mul {n : ℕ} {r : ℤ} (hfirst : IsMagnitude m q) (hsecond : IsMagnitude n r)
    (hm : 0 < m) (hn : 0 < n) :
    signedFloat .positive m q * signedFloat .positive n r =
      roundToFloat (m * 2 ^ q * (n * 2 ^ r)) := by
  have hproduct : (m * 2 ^ q * (n * 2 ^ r) : ℚ) = (m * n : ℕ) * 2 ^ (q + r) := by
    rw [zpow_add₀ two_ne_zero]
    push_cast
    ring
  have hexponent : q + r ≤ floatExponent ((m * n : ℕ) * 2 ^ (q + r)) := by
    rw [floatExponent_eq (Nat.mul_pos hm hn)]
    by_cases hlarge : 2 ^ 52 ≤ m * n
    · have hlog := (Nat.le_log2 (Nat.mul_pos hm hn).ne').mpr hlarge
      omega
    · -- Neither significand has 53 bits, so both floats are subnormal.
      have hleft := Nat.le_mul_of_pos_right m hn
      have hright := Nat.le_mul_of_pos_left n hm
      have hfirstNormal := hfirst.normal
      have hsecondNormal := hsecond.normal
      omega
  rw [hproduct, ← ofModel_roundWithAccuracy (Nat.mul_pos hm hn) hexponent]
  show Float.ofModel (Float.Model.pack (UnpackedFloat.mul .binary64
    (signedFloat .positive m q).toModel.unpack (signedFloat .positive n r).toModel.unpack)) = _
  rw [unpack_signedFloat hfirst, unpack_signedFloat hsecond, unpackedFloat, dif_neg hm.ne',
    unpackedFloat, dif_neg hn.ne']
  rfl

end DocTree
