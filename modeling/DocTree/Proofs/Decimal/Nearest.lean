import DocTree.Proofs.Decimal.Bits
import Mathlib.Algebra.Order.Field.Power
import Mathlib.Data.Int.Log
import Mathlib.Data.Rat.Floor
import Mathlib.Tactic.FieldSimp
import Mathlib.Tactic.Linarith
import Mathlib.Tactic.Positivity

/-!
# Rounding to the nearest float

Around every positive finite float lie the numbers that round to it: those between the midpoints to
its two neighbours, and the midpoints when its significand is even (`Interval.Contains`).
`ratioBits_eq_of_within` shows that the exact rounding of a ratio in that interval gives the bits of
the float, and `toFloat_eq_of_contains` that every decimal number in it is read as the float. Below
a power of two the neighbour has a smaller exponent, and the rounded significand carries into it.
-/

set_option autoImplicit false
set_option relaxedAutoImplicit false

namespace DocTree

/-! ### Numbers between two bounds -/

section Within

variable {closed wider : Prop} {low high lower higher x factor : ℚ}

/-- `x` lies between `low` and `high`, or is one of them when these count. -/
def Within (closed : Prop) (low high x : ℚ) : Prop :=
  (low < x ∨ closed ∧ low = x) ∧ (x < high ∨ closed ∧ x = high)

theorem Within.le (hwithin : Within closed low high x) : low ≤ x :=
  hwithin.1.elim le_of_lt fun heq ↦ heq.2.le

theorem Within.ge (hwithin : Within closed low high x) : x ≤ high :=
  hwithin.2.elim le_of_lt fun heq ↦ heq.2.le

theorem Within.mono (hwithin : Within closed low high x) (hclosed : closed → wider)
    (hlow : lower ≤ low) (hhigh : high ≤ higher) : Within wider lower higher x := by
  constructor
  · rcases hwithin.1 with hlt | ⟨hends, heq⟩
    · exact .inl (hlow.trans_lt hlt)
    · exact (heq ▸ hlow).lt_or_eq.imp_right fun hend ↦ ⟨hclosed hends, hend⟩
  · rcases hwithin.2 with hlt | ⟨hends, heq⟩
    · exact .inl (hlt.trans_le hhigh)
    · exact (heq ▸ hhigh).lt_or_eq.imp_right fun hend ↦ ⟨hclosed hends, hend⟩

theorem within_mul_iff (hfactor : 0 < factor) :
    Within closed (low * factor) (high * factor) (x * factor) ↔ Within closed low high x := by
  simp only [Within, mul_lt_mul_iff_left₀ hfactor, mul_left_inj' hfactor.ne']

end Within

/-- A power is a ratio of two powers with natural exponents, one of which is one. -/
theorem zpow_eq_div (base : ℚ) (exponent : ℤ) :
    base ^ exponent = base ^ exponent.toNat / base ^ (-exponent).toNat := by
  rcases le_total 0 exponent with hnonneg | hneg
  · obtain ⟨n, rfl⟩ := Int.eq_ofNat_of_zero_le hnonneg
    simp
  · obtain ⟨n, rfl⟩ := Int.exists_eq_neg_ofNat hneg
    simp

/-! ### The integer nearest to a ratio -/

/-- `k` is the integer nearest to `x`, and the even one of two that are as near. -/
def RoundsTo (x : ℚ) (k : ℕ) : Prop := Within (k % 2 = 0) (k - 1 / 2) (k + 1 / 2) x

variable {numerator denominator : ℕ}

theorem RoundsTo.unique {x : ℚ} {k other : ℕ} (hk : RoundsTo x k) (hother : RoundsTo x other) :
    k = other := by
  wlog hlt : k < other
  · rcases Nat.lt_or_eq_of_le (not_lt.mp hlt) with hgt | heq
    · exact (this hother hk hgt).symm
    · exact heq.symm
  -- A number that rounds to both lies halfway between them, and both would be even.
  have hle : other ≤ k + 1 := by
    have hbound : (other : ℚ) ≤ (k + 1 : ℕ) := by
      push_cast
      linarith [hk.ge, hother.le]
    exact_mod_cast hbound
  obtain rfl : other = k + 1 := by omega
  have hlow := hother.le
  push_cast at hlow
  have heven := (hk.2.resolve_left (by linarith)).1
  have hodd := (hother.1.resolve_left (by push_cast; linarith [hk.ge])).1
  omega

/-- `nearestNat` rounds a ratio. -/
theorem roundsTo_nearestNat (hpos : 0 < denominator) :
    RoundsTo (numerator / denominator) (nearestNat numerator denominator) := by
  have hpos' : (0 : ℚ) < denominator := by exact_mod_cast hpos
  obtain ⟨quotient, hquotient⟩ : ∃ quotient, quotient = numerator / denominator := ⟨_, rfl⟩
  obtain ⟨rest, hrest⟩ : ∃ rest, rest = numerator % denominator := ⟨_, rfl⟩
  have hratio : (numerator : ℚ) / denominator = quotient + (rest : ℚ) / denominator := by
    have hsplit : (numerator : ℚ) = denominator * quotient + rest := by
      rw [hquotient, hrest]
      exact_mod_cast (Nat.div_add_mod numerator denominator).symm
    rw [hsplit, add_div, mul_div_cancel_left₀ _ hpos'.ne']
  have hlt : (rest : ℚ) / denominator < 1 := by
    rw [div_lt_one hpos', hrest]
    exact_mod_cast Nat.mod_lt numerator hpos
  have hnonneg : 0 ≤ (rest : ℚ) / denominator := by positivity
  have hbelow : 2 * rest < denominator ↔ (rest : ℚ) / denominator < 1 / 2 := by
    rw [div_lt_div_iff₀ hpos' (by norm_num), mul_comm, one_mul]
    norm_cast
  have habove : denominator < 2 * rest ↔ 1 / 2 < (rest : ℚ) / denominator := by
    rw [div_lt_div_iff₀ (by norm_num) hpos', mul_comm (rest : ℚ), one_mul]
    norm_cast
  unfold nearestNat
  simp only [← hquotient, ← hrest, hbelow, habove]
  rw [hratio]
  rcases lt_trichotomy ((rest : ℚ) / denominator) (1 / 2) with hhalf | hhalf | hhalf
  · rw [if_pos hhalf]
    exact ⟨.inl (by linarith), .inl (by linarith)⟩
  · rw [if_neg hhalf.not_lt, if_neg hhalf.not_gt]
    -- Halfway between two integers the quotient is taken when it is even.
    rcases Nat.mod_two_eq_zero_or_one quotient with heven | hodd
    · rw [heven]
      exact ⟨.inl (by push_cast; linarith), .inr ⟨heven, by push_cast; linarith⟩⟩
    · rw [hodd]
      exact ⟨.inr ⟨by omega, by push_cast; linarith⟩, .inl (by push_cast; linarith)⟩
  · rw [if_neg hhalf.not_gt, if_pos hhalf]
    exact ⟨.inl (by push_cast; linarith), .inl (by push_cast; linarith)⟩

theorem exists_roundsTo {x : ℚ} (hnonneg : 0 ≤ x) : ∃ k, RoundsTo x k := by
  have hrounds := @roundsTo_nearestNat x.num.toNat x.den x.den_pos
  have hnumerator : ((x.num.toNat : ℕ) : ℚ) = x.num := by
    exact_mod_cast Int.toNat_of_nonneg (Rat.num_nonneg.mpr hnonneg)
  rw [hnumerator, Rat.num_div_den] at hrounds
  exact ⟨_, hrounds⟩

/-! ### The exponent of a ratio -/

theorem ratioLog2_eq_log (hnumerator : 0 < numerator) (hdenominator : 0 < denominator) :
    ratioLog2 numerator denominator = Int.log 2 (numerator / denominator : ℚ) := by
  obtain ⟨guess, hguess⟩ : ∃ guess : ℤ, guess = (numerator.log2 : ℤ) - denominator.log2 := ⟨_, rfl⟩
  have hpos : (0 : ℚ) < denominator := by exact_mod_cast hdenominator
  have hratio : (0 : ℚ) < numerator / denominator := by positivity
  -- Between the logarithms of the two parts, the guess is right or one too large.
  have hlow : (2 : ℚ) ^ (guess - 1) ≤ numerator / denominator := by
    rw [le_div_iff₀ hpos]
    calc (2 : ℚ) ^ (guess - 1) * denominator
        ≤ 2 ^ (guess - 1) * 2 ^ (denominator.log2 + 1 : ℤ) := by
          have hbound : (denominator : ℚ) ≤ 2 ^ (denominator.log2 + 1 : ℤ) := by
            exact_mod_cast (@Nat.lt_log2_self denominator).le
          gcongr
      _ = 2 ^ (numerator.log2 : ℤ) := by
          rw [← zpow_add₀ (by norm_num)]
          congr 1
          omega
      _ ≤ numerator := by exact_mod_cast Nat.log2_self_le hnumerator.ne'
  have hhigh : (numerator / denominator : ℚ) < 2 ^ (guess + 1) := by
    rw [div_lt_iff₀ hpos]
    calc (numerator : ℚ)
        < 2 ^ (numerator.log2 + 1 : ℤ) := by exact_mod_cast @Nat.lt_log2_self numerator
      _ = 2 ^ (guess + 1) * 2 ^ (denominator.log2 : ℤ) := by
          rw [← zpow_add₀ (by norm_num)]
          congr 1
          omega
      _ ≤ 2 ^ (guess + 1) * denominator := by
          have hbound : (2 : ℚ) ^ (denominator.log2 : ℤ) ≤ denominator := by
            exact_mod_cast Nat.log2_self_le hdenominator.ne'
          gcongr
  have htest : denominator <<< guess.toNat ≤ numerator <<< (-guess).toNat ↔
      (2 : ℚ) ^ guess ≤ numerator / denominator := by
    rw [zpow_eq_div, div_le_div_iff₀ (by positivity) hpos, Nat.shiftLeft_eq, Nat.shiftLeft_eq,
      mul_comm denominator]
    exact_mod_cast Iff.rfl
  have hlog {exponent : ℤ} : (2 : ℚ) ^ exponent ≤ numerator / denominator ↔
      exponent ≤ Int.log 2 (numerator / denominator : ℚ) := by
    exact_mod_cast Int.zpow_le_iff_le_log Nat.one_lt_two hratio
  have hlog' := mt hlog.mpr hhigh.not_ge
  rw [hlog] at hlow htest
  unfold ratioLog2
  simp only [← hguess, htest]
  split_ifs <;> omega

/-- How many powers of two fit into `y * 2 ^ q`. -/
theorem add_le_ratioLog2_iff (hnumerator : 0 < numerator) (hdenominator : 0 < denominator)
    {y : ℚ} {q : ℤ} (hratio : (numerator / denominator : ℚ) = y * 2 ^ q) (exponent : ℕ) :
    q + exponent ≤ ratioLog2 numerator denominator ↔ 2 ^ exponent ≤ y := by
  have hpos : (0 : ℚ) < numerator / denominator := by positivity
  have hfactor : (0 : ℚ) < 2 ^ q := by positivity
  have hlog : (2 : ℚ) ^ (q + exponent) ≤ numerator / denominator ↔
      q + exponent ≤ Int.log 2 (numerator / denominator : ℚ) := by
    exact_mod_cast Int.zpow_le_iff_le_log Nat.one_lt_two hpos
  rw [ratioLog2_eq_log hnumerator hdenominator, ← hlog, hratio, add_comm,
    zpow_add₀ (by norm_num), zpow_natCast, mul_le_mul_iff_left₀ hfactor]

/-! ### The bits of a ratio -/

theorem ratioBits_eq_magnitudeBits (hnumerator : 0 < numerator) (hdenominator : 0 < denominator)
    {exponent : ℤ} (hexponent : max (ratioLog2 numerator denominator - 52) (-1074) = exponent)
    {k : ℕ} (hrounds : RoundsTo (numerator / denominator * 2 ^ (-exponent)) k) :
    ratioBits numerator denominator = magnitudeBits k exponent := by
  have hscaled : (numerator / denominator * 2 ^ (-exponent) : ℚ) =
      (numerator * 2 ^ (-exponent).toNat : ℕ) / (denominator * 2 ^ exponent.toNat : ℕ) := by
    rw [zpow_eq_div, neg_neg, div_mul_div_comm]
    push_cast
    rfl
  rw [hscaled] at hrounds
  unfold ratioBits magnitudeBits
  rw [if_neg hnumerator.ne']
  simp only [hexponent, Nat.shiftLeft_eq]
  rw [hrounds.unique (roundsTo_nearestNat (by positivity))]

variable {m : ℕ} {q : ℤ}

/-- The distance from `m * 2 ^ q` to the lower end of its interval, in quarters of `2 ^ q`. -/
def lowerGap (m : ℕ) (q : ℤ) : ℕ := if m = 2 ^ 52 ∧ -1074 < q then 1 else 2

theorem lowerGap_le (m : ℕ) (q : ℤ) : (lowerGap m q : ℚ) ≤ 2 := by
  unfold lowerGap
  split_ifs <;> norm_num

/-- A ratio in the interval of a float has the bits of the float. -/
theorem ratioBits_eq_of_within (hnumerator : 0 < numerator) (hdenominator : 0 < denominator)
    (hmagnitude : IsMagnitude m q)
    (hwithin : Within (m % 2 = 0) ((4 * m - lowerGap m q) / 4 * 2 ^ q) ((4 * m + 2) / 4 * 2 ^ q)
      (numerator / denominator)) :
    ratioBits numerator denominator = magnitudeBits m q := by
  obtain ⟨hleast, -, hlt, hnormal⟩ := hmagnitude
  have hfactor : (0 : ℚ) < 2 ^ q := by positivity
  obtain ⟨y, hy⟩ : ∃ y : ℚ, y = numerator / denominator * 2 ^ (-q) := ⟨_, rfl⟩
  have hratio : (numerator / denominator : ℚ) = y * 2 ^ q := by
    rw [hy, mul_assoc, ← zpow_add₀ (by norm_num), neg_add_cancel, zpow_zero, mul_one]
  have hlog := add_le_ratioLog2_iff hnumerator hdenominator hratio
  rw [hratio, within_mul_iff hfactor] at hwithin
  have hgap := lowerGap_le m q
  have hrounds : RoundsTo y m := hwithin.mono id (by linarith) (by linarith)
  have hlt' : (m : ℚ) + 1 ≤ 2 ^ 53 := by exact_mod_cast hlt
  have hhigh : ¬(2 : ℚ) ^ 53 ≤ y := by linarith [hwithin.ge]
  by_cases hnear : 2 ^ 52 ≤ y ∨ q = -1074
  · -- The ratio has the exponent of the float.
    have hexponent : max (ratioLog2 numerator denominator - 52) (-1074) = q := by
      have hupper := mt (hlog 53).mp hhigh
      rcases hnear with hlow | hsubnormal
      · have hlower := (hlog 52).mpr hlow
        omega
      · omega
    exact ratioBits_eq_magnitudeBits hnumerator hdenominator hexponent (hy ▸ hrounds)
  · -- The ratio lies below a power of two, and has the next smaller exponent.
    rw [not_or] at hnear
    obtain ⟨hlow, hsubnormal⟩ := hnear
    have hm : m = 2 ^ 52 := by
      have hupper : (m : ℚ) < (2 ^ 52 + 1 : ℕ) := by
        push_cast
        linarith [hrounds.le]
      have hlower := hnormal (by omega)
      rw [Nat.cast_lt] at hupper
      omega
    have hquarter : lowerGap m q = 1 := if_pos ⟨hm, by omega⟩
    rw [hquarter, hm] at hwithin
    push_cast at hwithin
    have hexponent : max (ratioLog2 numerator denominator - 52) (-1074) = q - 1 := by
      have hupper := mt (hlog 52).mp hlow
      have hlower := (hlog 51).mpr (by linarith [hwithin.le])
      omega
    have hdouble : (numerator / denominator : ℚ) * 2 ^ (-(q - 1)) = y * 2 := by
      rw [hratio, mul_assoc, ← zpow_add₀ (by norm_num)]
      norm_num
    have hcarry : RoundsTo (numerator / denominator * 2 ^ (-(q - 1))) (2 ^ 53) := by
      have hscaled := (within_mul_iff (by norm_num : (0 : ℚ) < 2)).mpr hwithin
      rw [hdouble]
      refine ⟨(hscaled.mono (fun _ ↦ rfl) ?_ le_rfl).1, .inl ?_⟩
      · norm_num
      · push_cast
        linarith
    rw [ratioBits_eq_magnitudeBits hnumerator hdenominator hexponent hcarry, hm]
    unfold magnitudeBits
    omega

/-! ### Decimal numbers -/

namespace Decimal

/-- The rational number that a decimal number stands for. -/
def value (decimal : Decimal) : ℚ := decimal.coefficient * 10 ^ decimal.exponent

theorem digitCount_le_iff {number k : ℕ} (hk : 0 < k) :
    digitCount number ≤ k ↔ number < 10 ^ k := Nat.length_toDigits_le_iff (by norm_num) hk

theorem digitCount_pos (number : ℕ) : 0 < digitCount number := Nat.length_toDigits_pos

theorem digitCount_eq_log {number : ℕ} (hne : number ≠ 0) :
    digitCount number = Nat.log 10 number + 1 := by
  have hcount {k : ℕ} (hk : 0 < k) : digitCount number ≤ k ↔ Nat.log 10 number < k := by
    rw [digitCount_le_iff hk, Nat.log_lt_iff_lt_pow (by norm_num) hne]
  have hupper := (hcount (Nat.log 10 number).succ_pos).mpr (Nat.lt_succ_self _)
  have hlower := (hcount (digitCount_pos number)).mp le_rfl
  omega

/-- The exponent of the leading digit of a decimal number. -/
theorem log_value {decimal : Decimal} (hpos : 0 < decimal.coefficient) :
    Int.log 10 decimal.value = decimal.exponent + Nat.log 10 decimal.coefficient := by
  have hfactor : (0 : ℚ) < 10 ^ decimal.exponent := by positivity
  have hvalue : 0 < decimal.value := by
    unfold value
    positivity
  have hlog {exponent : ℕ} : exponent ≤ Nat.log 10 decimal.coefficient ↔
      decimal.exponent + exponent ≤ Int.log 10 decimal.value := by
    rw [← Int.zpow_le_iff_le_log (by norm_num) hvalue, value, Nat.cast_ofNat, add_comm,
      zpow_add₀ (by norm_num), zpow_natCast, mul_le_mul_iff_left₀ hfactor,
      Nat.le_log_iff_pow_le (by norm_num) hpos.ne']
    exact_mod_cast Iff.rfl
  have hlower := hlog.mp le_rfl
  have hupper := mt hlog.mpr (Nat.not_succ_le_self _)
  omega

/-- The numbers of an interval, which round to the float it lies around. -/
def Interval.Contains (interval : Interval) (x : ℚ) : Prop :=
  Within (interval.closed = true) (interval.low / 4 * 2 ^ interval.q)
    (interval.high / 4 * 2 ^ interval.q) x

variable {number : Float}

@[simp]
theorem Interval.value_ofFloat (number : Float) :
    (ofFloat number).value = 4 * (floatParts number).1 := rfl

@[simp]
theorem Interval.q_ofFloat (number : Float) : (ofFloat number).q = (floatParts number).2 := rfl

@[simp]
theorem Interval.low_ofFloat (number : Float) :
    (ofFloat number).low =
      4 * (floatParts number).1 - lowerGap (floatParts number).1 (floatParts number).2 := by
  simp [ofFloat, lowerGap]

@[simp]
theorem Interval.high_ofFloat (number : Float) :
    (ofFloat number).high = 4 * (floatParts number).1 + 2 := rfl

@[simp]
theorem Interval.closed_ofFloat_iff (number : Float) :
    (ofFloat number).closed = true ↔ (floatParts number).1 % 2 = 0 := by
  simp [ofFloat]

theorem Interval.contains_ofFloat_iff (hpos : (floatParts number).1 ≠ 0) {x : ℚ} :
    (Interval.ofFloat number).Contains x ↔
      Within ((floatParts number).1 % 2 = 0)
        ((4 * (floatParts number).1 - lowerGap (floatParts number).1 (floatParts number).2) / 4 *
          2 ^ (floatParts number).2)
        ((4 * (floatParts number).1 + 2) / 4 * 2 ^ (floatParts number).2) x := by
  have hle : lowerGap (floatParts number).1 (floatParts number).2 ≤ 4 * (floatParts number).1 := by
    unfold lowerGap
    split_ifs <;> omega
  unfold Contains
  rw [low_ofFloat, high_ofFloat, q_ofFloat, closed_ofFloat_iff, Nat.cast_sub hle]
  push_cast
  rfl

theorem two_pow_le_ten_pow : (2 : ℚ) ^ (1075 : ℤ) ≤ 10 ^ (400 : ℤ) := by
  calc (2 : ℚ) ^ (1075 : ℤ) = (2 ^ 43) ^ 25 := by
        rw [← pow_mul]
        rfl
    _ ≤ (10 ^ 16) ^ 25 := by
        gcongr
        norm_num
    _ = 10 ^ (400 : ℤ) := by
        rw [← pow_mul]
        rfl

/-- Numbers in the interval of a float are far from overflow and underflow. -/
theorem Interval.Contains.bounds (hfinite : number.isFinite = true)
    (hpos : (floatParts number).1 ≠ 0) {x : ℚ} (hcontains : (Interval.ofFloat number).Contains x) :
    (10 : ℚ) ^ (-400 : ℤ) ≤ x ∧ x < 10 ^ (400 : ℤ) := by
  rw [contains_ofFloat_iff hpos] at hcontains
  obtain ⟨hleast, hgreatest, hlt, -⟩ := isMagnitude_floatParts hfinite
  obtain ⟨m, hm⟩ : ∃ m : ℚ, m = (floatParts number).1 := ⟨_, rfl⟩
  have hone : 1 ≤ m := by
    rw [hm]
    exact_mod_cast Nat.pos_of_ne_zero hpos
  have hmax : m + 1 ≤ 2 ^ (53 : ℤ) := by
    rw [hm]
    exact_mod_cast hlt
  have hgap : (lowerGap (floatParts number).1 (floatParts number).2 : ℚ) ≤ 2 := lowerGap_le _ _
  have hlow := hcontains.le
  have hhigh := hcontains.ge
  rw [← hm] at hlow hhigh
  constructor
  · have hhalf : 1 / 2 ≤ (4 * m - lowerGap (floatParts number).1 (floatParts number).2) / 4 := by
      linarith
    calc (10 : ℚ) ^ (-400 : ℤ) ≤ 2 ^ (-1075 : ℤ) := by
          rw [zpow_neg, zpow_neg]
          exact inv_anti₀ (by positivity) two_pow_le_ten_pow
      _ ≤ 2 ^ (-1 + (floatParts number).2) := zpow_le_zpow_right₀ one_le_two (by omega)
      _ = 1 / 2 * 2 ^ (floatParts number).2 := by
          rw [zpow_add₀ (by norm_num), zpow_neg_one, one_div]
      _ ≤ (4 * m - lowerGap (floatParts number).1 (floatParts number).2) / 4 *
          2 ^ (floatParts number).2 := by gcongr
      _ ≤ x := hlow
  · have hbound : (4 * m + 2) / 4 ≤ 2 ^ (53 : ℤ) := by linarith
    calc x ≤ (4 * m + 2) / 4 * 2 ^ (floatParts number).2 := hhigh
      _ ≤ 2 ^ (53 : ℤ) * 2 ^ (floatParts number).2 := by gcongr
      _ = 2 ^ (53 + (floatParts number).2) := (zpow_add₀ two_ne_zero _ _).symm
      _ < 2 ^ (1075 : ℤ) := zpow_lt_zpow_right₀ one_lt_two (by omega)
      _ ≤ 10 ^ (400 : ℤ) := two_pow_le_ten_pow

theorem coefficient_pos_of_contains (hfinite : number.isFinite = true)
    (hpos : (floatParts number).1 ≠ 0) {decimal : Decimal}
    (hcontains : (Interval.ofFloat number).Contains decimal.value) : 0 < decimal.coefficient := by
  have hvalue : 0 < decimal.value :=
    lt_of_lt_of_le (by positivity) (hcontains.bounds hfinite hpos).1
  rw [Nat.pos_iff_ne_zero]
  intro hzero
  simp [value, hzero] at hvalue

/-- Every decimal number in the interval of a float is read as the float. -/
theorem toFloat_eq_of_contains (hfinite : number.isFinite = true)
    (hpos : (floatParts number).1 ≠ 0) {decimal : Decimal}
    (hcontains : (Interval.ofFloat number).Contains decimal.value) :
    decimal.toFloat = signedFloat .positive (floatParts number).1 (floatParts number).2 := by
  have hmagnitude := isMagnitude_floatParts hfinite
  have hcoefficient := coefficient_pos_of_contains hfinite hpos hcontains
  obtain ⟨hlow, hhigh⟩ := hcontains.bounds hfinite hpos
  have hvalue : 0 < decimal.value := lt_of_lt_of_le (by positivity) hlow
  have hlog := log_value hcoefficient
  have hcount := digitCount_eq_log hcoefficient.ne'
  rw [Interval.contains_ofFloat_iff hpos] at hcontains
  have hratio : decimal.value =
      (decimal.coefficient * 10 ^ decimal.exponent.toNat : ℕ) /
        (10 ^ (-decimal.exponent).toNat : ℕ) := by
    rw [value, zpow_eq_div]
    push_cast
    rw [mul_div_assoc]
  rw [hratio] at hcontains
  have hbits := ratioBits_eq_of_within (by positivity) (by positivity) hmagnitude hcontains
  have hlower : -400 ≤ Int.log 10 decimal.value := by
    rw [← Int.zpow_le_iff_le_log (by norm_num) hvalue]
    exact_mod_cast hlow
  have hupper : Int.log 10 decimal.value < 400 := by
    rw [← Int.lt_zpow_iff_log_lt (by norm_num) hvalue]
    exact_mod_cast hhigh
  have hsmall : (decimal.coefficient = 0 ||
      decimal.exponent + digitCount decimal.coefficient < -400) = false := by
    simp only [Bool.or_eq_false_iff, decide_eq_false_iff_not]
    omega
  unfold toFloat nearestFloat
  simp only [hsmall, Nat.pow_eq, hbits, Nat.min_eq_left hmagnitude.bits_lt.le]
  rw [if_neg (by simp), if_neg (by omega), ofBits_magnitudeBits hmagnitude]

theorem toFloat_of_value_eq_zero {decimal : Decimal} (hvalue : decimal.value = 0) :
    decimal.toFloat = signedFloat .positive 0 (-1074) := by
  have hcoefficient : decimal.coefficient = 0 := by
    have hpower : (10 : ℚ) ^ decimal.exponent ≠ 0 := by positivity
    exact_mod_cast (mul_eq_zero.mp hvalue).resolve_right hpower
  have hmagnitude : IsMagnitude 0 (-1074) := by
    constructor <;> omega
  rw [← ofBits_magnitudeBits hmagnitude, toFloat]
  simp [hcoefficient, magnitudeBits]

end Decimal

end DocTree
