import DocTree.Proofs.Decimal.Nearest
import Mathlib.Algebra.Order.Floor.Semifield

/-!
# The shortest decimal number rounds to its float

The number that `Decimal.shortest` finds lies in the interval of its float (`contains_shortest`),
and so the float is the nearest one to it. The search ends because a grid with seventeen digits has a
number in every interval: its numbers are at most `10 ^ (-16)` of the float apart, and half of that
is less than the distance to the ends (`isSome_pick?`). No more than seventeen digits are tried, so
the coefficient fits into 64 bits (`coefficient_shortest_lt`).
-/

set_option autoImplicit false
set_option relaxedAutoImplicit false

namespace DocTree.Decimal

/-! ### The leading digit -/

theorem leadingExponent_eq_log {numerator denominator : ℕ} (hnumerator : 0 < numerator)
    (hdenominator : 0 < denominator) :
    leadingExponent numerator denominator = Int.log 10 (numerator / denominator : ℚ) := by
  have hnumerator' : (0 : ℚ) < numerator := by exact_mod_cast hnumerator
  have hdenominator' : (0 : ℚ) < denominator := by exact_mod_cast hdenominator
  unfold leadingExponent
  by_cases hle : denominator ≤ numerator
  · have hone : (1 : ℚ) ≤ numerator / denominator := by
      rw [one_le_div hdenominator']
      exact_mod_cast hle
    rw [if_pos hle, Int.log_of_one_le_right _ hone, Nat.floor_div_eq_div,
      digitCount_eq_log (Nat.div_pos hle hdenominator).ne']
    omega
  · have hlog {k : ℕ} : -(k : ℤ) ≤ Int.log 10 (numerator / denominator : ℚ) ↔
        denominator ≤ 10 ^ k * numerator := by
      rw [← Int.zpow_le_iff_le_log (by norm_num) (by positivity), zpow_neg, zpow_natCast,
        le_div_iff₀ hdenominator', inv_mul_le_iff₀ (by positivity)]
      exact_mod_cast Iff.rfl
    have hcount {k : ℕ} (hk : 0 < k) :
        digitCount ((denominator + numerator - 1) / numerator - 1) ≤ k ↔
          -(k : ℤ) ≤ Int.log 10 (numerator / denominator : ℚ) := by
      have hone : 1 ≤ (denominator + numerator - 1) / numerator :=
        (Nat.one_le_div_iff hnumerator).mpr (by omega)
      have hdiv : (denominator + numerator - 1) / numerator < 10 ^ k + 1 ↔
          denominator ≤ 10 ^ k * numerator := by
        rw [Nat.div_lt_iff_lt_mul hnumerator, Nat.add_mul]
        omega
      rw [digitCount_le_iff hk, hlog, ← hdiv]
      omega
    have hnegative : ¬(0 : ℤ) ≤ Int.log 10 (numerator / denominator : ℚ) := by
      have hzero := @hlog 0
      rw [Nat.cast_zero, neg_zero] at hzero
      rw [hzero]
      omega
    have hupper := (hcount (digitCount_pos _)).mp le_rfl
    obtain ⟨k, hk⟩ := Int.exists_eq_neg_ofNat (not_le.mp hnegative).le
    have hlower := (@hcount k (by omega)).mpr hk.ge
    rw [if_neg hle]
    omega

/-! ### The numbers of an interval -/

namespace Interval

variable {interval : Interval} {exponent : ℤ} {d : ℕ}

theorem unit_pos (interval : Interval) (exponent : ℤ) : 0 < interval.unit exponent := by
  unfold unit
  simp only [Nat.pow_eq]
  positivity

/-- How many steps of the grid of `10 ^ exponent` make a quarter of `2 ^ q`. -/
theorem scale_div_unit (interval : Interval) (exponent : ℤ) :
    (interval.scale exponent / interval.unit exponent : ℚ) =
      2 ^ interval.q / 4 / 10 ^ exponent := by
  rw [zpow_eq_div 2, zpow_eq_div 10]
  unfold scale unit
  simp only [Nat.pow_eq]
  push_cast
  field_simp

theorem fits_iff : interval.fits exponent d = true ↔ interval.Contains (d * 10 ^ exponent) := by
  have hunit : (0 : ℚ) < interval.unit exponent := by exact_mod_cast unit_pos interval exponent
  have hfactor : (0 : ℚ) < interval.unit exponent / 10 ^ exponent := by positivity
  have hquarters (quarters : ℕ) :
      (quarters / 4 * 2 ^ interval.q * (interval.unit exponent / 10 ^ exponent) : ℚ) =
        (quarters * interval.scale exponent : ℕ) := by
    have hscale := scale_div_unit interval exponent
    rw [div_eq_iff hunit.ne'] at hscale
    push_cast
    rw [hscale]
    ring
  have hnumber : (d * 10 ^ exponent * (interval.unit exponent / 10 ^ exponent) : ℚ) =
      (d * interval.unit exponent : ℕ) := by
    push_cast
    field_simp
  rw [Contains, ← within_mul_iff hfactor, hquarters, hquarters, hnumber, Within, fits]
  simp only [Bool.and_eq_true, Bool.or_eq_true, decide_eq_true_eq, Nat.cast_lt, Nat.cast_inj]

/-- A number that is picked lies in the interval. -/
theorem contains_of_pick? (hpick : interval.pick? exponent = some d) :
    interval.Contains (d * 10 ^ exponent) := by
  rw [← fits_iff]
  unfold pick? at hpick
  simp only at hpick
  split_ifs at hpick with hnearer hchoice hfarther hfarther
  · rw [Option.some_inj] at hpick
    exact hpick ▸ hnearer
  · rw [Option.some_inj] at hpick
    exact hpick ▸ hfarther
  · rw [Option.some_inj] at hpick
    exact hpick ▸ hfarther

/-! ### The search -/

/-- The search finds the number that is picked on the first grid that has one, if the last grid has
one. -/
theorem exists_pick_search (leading : ℤ) (tries : ℕ) : ∀ digits : ℕ,
    (interval.pick? (leading - (digits + tries : ℕ) + 1)).isSome →
      ∃ exponent d, leading - (digits + tries : ℕ) + 1 ≤ exponent ∧
        interval.pick? exponent = some d ∧
          (interval.search leading (tries + 1) digits).value = d * 10 ^ exponent ∧
            (interval.search leading (tries + 1) digits).coefficient ≤ d := by
  have hfound {digits d : ℕ} {exponent : ℤ} {found : Decimal}
      (heq : found = if d = Nat.pow 10 digits then ⟨1, exponent + digits⟩ else ⟨d, exponent⟩) :
      found.value = d * 10 ^ exponent ∧ found.coefficient ≤ d := by
    subst heq
    split_ifs with hpower
    · rw [hpower, Nat.pow_eq]
      refine ⟨?_, Nat.one_le_pow _ _ (by norm_num)⟩
      push_cast
      rw [Decimal.value, Nat.cast_one, one_mul, ← zpow_natCast, ← zpow_add₀ (by norm_num), add_comm]
    · exact ⟨rfl, le_rfl⟩
  induction tries with
  | zero =>
    intro digits hlast
    obtain ⟨d, hpick⟩ := Option.isSome_iff_exists.mp hlast
    rw [Nat.add_zero] at hpick ⊢
    rw [search]
    simp only [hpick]
    exact ⟨_, d, le_rfl, hpick, hfound rfl⟩
  | succ tries ih =>
    intro digits hlast
    rw [search]
    cases hpick : interval.pick? (leading - digits + 1) with
    | some d => exact ⟨_, d, by omega, hpick, hfound rfl⟩
    | none =>
      rw [Nat.add_left_comm, Nat.add_comm] at hlast
      obtain ⟨exponent, d, hle, hsome, hvalue⟩ := ih (digits + 1) hlast
      exact ⟨exponent, d, by omega, hsome, hvalue⟩

end Interval

variable {number : Float}

/-- The value of a positive finite float. -/
def magnitude (number : Float) : ℚ := (floatParts number).1 * 2 ^ (floatParts number).2

theorem magnitude_pos (hpos : (floatParts number).1 ≠ 0) : 0 < magnitude number := by
  have hm : (0 : ℚ) < (floatParts number).1 := by exact_mod_cast Nat.pos_of_ne_zero hpos
  unfold magnitude
  positivity

/-- Half of the sixteenth digit of a float is less than the distance to the ends of its interval. -/
theorem two_mul_significand_lt (hfinite : number.isFinite = true) :
    (2 * (floatParts number).1 : ℚ) <
      lowerGap (floatParts number).1 (floatParts number).2 * 10 ^ 16 := by
  have hlt := (isMagnitude_floatParts hfinite).lt
  have hnat : 2 * (floatParts number).1 <
      lowerGap (floatParts number).1 (floatParts number).2 * 10 ^ 16 := by
    unfold lowerGap
    split_ifs <;> omega
  exact_mod_cast hnat

/-- A grid with seventeen digits has a number in the interval of every float. -/
theorem isSome_pick? (hfinite : number.isFinite = true) (hpos : (floatParts number).1 ≠ 0)
    {exponent : ℤ} (hexponent : (10 : ℚ) ^ exponent * 10 ^ 16 ≤ magnitude number) :
    ((Interval.ofFloat number).pick? exponent).isSome := by
  have hunit := Interval.unit_pos (Interval.ofFloat number) exponent
  have hstep : (0 : ℚ) < 10 ^ exponent := by positivity
  have hpower : (0 : ℚ) < 2 ^ (floatParts number).2 := by positivity
  obtain ⟨nearer, hnearer⟩ : ∃ nearer, nearer = nearestNat
      ((Interval.ofFloat number).value * (Interval.ofFloat number).scale exponent)
      ((Interval.ofFloat number).unit exponent) := ⟨_, rfl⟩
  have hrounds := hnearer ▸ roundsTo_nearestNat hunit
  have hratio : (((Interval.ofFloat number).value * (Interval.ofFloat number).scale exponent : ℕ) /
      (Interval.ofFloat number).unit exponent : ℚ) = magnitude number / 10 ^ exponent := by
    push_cast
    rw [mul_div_assoc, Interval.scale_div_unit, Interval.value_ofFloat, Interval.q_ofFloat,
      magnitude]
    push_cast
    ring
  rw [hratio] at hrounds
  have hlow := hrounds.le
  have hhigh := hrounds.ge
  rw [le_div_iff₀ hstep] at hlow
  rw [div_le_iff₀ hstep] at hhigh
  have hfits : (Interval.ofFloat number).fits exponent nearer = true := by
    have hend := mul_lt_mul_of_pos_right (two_mul_significand_lt hfinite) hpower
    have hgap := mul_le_mul_of_nonneg_right
      (lowerGap_le (floatParts number).1 (floatParts number).2) hpower.le
    rw [Interval.fits_iff, Interval.contains_ofFloat_iff hpos]
    unfold magnitude at hlow hhigh hexponent
    exact ⟨.inl (by linarith), .inl (by linarith)⟩
  simp only [Interval.pick?, ← hnearer, hfits, if_true, Option.isSome_some]

/-- The shortest number is picked on a grid with at most seventeen digits. -/
theorem exists_pick_shortest (hfinite : number.isFinite = true) (hpos : (floatParts number).1 ≠ 0) :
    ∃ exponent d, Int.log 10 (magnitude number) - 16 ≤ exponent ∧
      (Interval.ofFloat number).pick? exponent = some d ∧
        (shortest number).value = d * 10 ^ exponent ∧ (shortest number).coefficient ≤ d := by
  have hratio : (((Interval.ofFloat number).value * 2 ^ (Interval.ofFloat number).q.toNat : ℕ) /
      (4 * 2 ^ (-(Interval.ofFloat number).q).toNat : ℕ) : ℚ) = magnitude number := by
    rw [magnitude, zpow_eq_div, Interval.value_ofFloat, Interval.q_ofFloat]
    push_cast
    field_simp
  have hvalue : 0 < (Interval.ofFloat number).value := by
    rw [Interval.value_ofFloat]
    omega
  have hleading := leadingExponent_eq_log
    (Nat.mul_pos hvalue (Nat.two_pow_pos (Interval.ofFloat number).q.toNat))
    (Nat.mul_pos four_pos (Nat.two_pow_pos (-(Interval.ofFloat number).q).toNat))
  rw [hratio] at hleading
  have hlast : Int.log 10 (magnitude number) - (1 + 16 : ℕ) + 1 + (16 : ℕ) =
      Int.log 10 (magnitude number) := by omega
  have hlog := Int.zpow_log_le_self (by norm_num : 1 < 10) (magnitude_pos hpos)
  unfold shortest
  simp only [Nat.pow_eq, hleading]
  have hfinest : ((Interval.ofFloat number).pick?
      (Int.log 10 (magnitude number) - (1 + 16 : ℕ) + 1)).isSome := by
    refine isSome_pick? hfinite hpos ?_
    rw [← zpow_natCast, ← zpow_add₀ (by norm_num), hlast]
    exact_mod_cast hlog
  obtain ⟨exponent, d, hle, hfound⟩ := Interval.exists_pick_search _ 16 1 hfinest
  exact ⟨exponent, d, by omega, hfound⟩

/-- The shortest number lies in the interval of its float. -/
theorem contains_shortest (hfinite : number.isFinite = true) (hpos : (floatParts number).1 ≠ 0) :
    (Interval.ofFloat number).Contains (shortest number).value := by
  obtain ⟨exponent, d, -, hpick, hvalue, -⟩ := exists_pick_shortest hfinite hpos
  rw [hvalue]
  exact Interval.contains_of_pick? hpick

/-- The coefficient of the shortest number fits into 64 bits. -/
theorem coefficient_shortest_lt (hfinite : number.isFinite = true)
    (hpos : (floatParts number).1 ≠ 0) : (shortest number).coefficient < UInt64.size := by
  obtain ⟨exponent, d, hexponent, hpick, -, hle⟩ := exists_pick_shortest hfinite hpos
  have hcontains := Interval.contains_of_pick? hpick
  rw [Interval.contains_ofFloat_iff hpos] at hcontains
  have hone : (1 : ℚ) ≤ (floatParts number).1 := by exact_mod_cast Nat.pos_of_ne_zero hpos
  have hstep : (0 : ℚ) < 10 ^ exponent := by positivity
  have hd : (d * 10 ^ exponent : ℚ) < 2 * 10 ^ 17 * 10 ^ exponent := by
    calc (d * 10 ^ exponent : ℚ)
        ≤ (4 * (floatParts number).1 + 2) / 4 * 2 ^ (floatParts number).2 := hcontains.ge
      _ ≤ 2 * (floatParts number).1 * 2 ^ (floatParts number).2 := by
          gcongr
          linarith
      _ = 2 * magnitude number := by rw [magnitude, mul_assoc]
      _ < 2 * 10 ^ (Int.log 10 (magnitude number) + 1) := by
          have hlog := Int.lt_zpow_succ_log_self (by norm_num : 1 < 10) (magnitude number)
          gcongr
          exact_mod_cast hlog
      _ ≤ 2 * 10 ^ (17 + exponent) :=
          mul_le_mul_of_nonneg_left (zpow_le_zpow_right₀ (by norm_num) (by omega)) two_pos.le
      _ = 2 * 10 ^ 17 * 10 ^ exponent := by
          rw [zpow_add₀ (by norm_num), mul_assoc]
          norm_num
  have hbound : (d : ℚ) < (2 * 10 ^ 17 : ℕ) := by
    rw [Nat.cast_mul, Nat.cast_pow, Nat.cast_two, Nat.cast_ofNat]
    exact lt_of_mul_lt_mul_right hd hstep.le
  have hnat := Nat.cast_lt.mp hbound
  unfold UInt64.size
  omega

theorem coefficient_shortest_pos (hfinite : number.isFinite = true)
    (hpos : (floatParts number).1 ≠ 0) : 0 < (shortest number).coefficient :=
  coefficient_pos_of_contains hfinite hpos (contains_shortest hfinite hpos)

end DocTree.Decimal
