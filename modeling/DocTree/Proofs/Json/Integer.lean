import DocTree.Format.Reader
import DocTree.Proofs.Json.Values
import DocTree.Proofs.Position.Below

/-!
# Integers of 64 bits, with and without a sign

A JSON document may hold integers from `-2 ^ 63` to `2 ^ 64 - 1`. Those below `2 ^ 63` are read as
they are. The others are read as floats, of which there is one for every 2048 of them: each becomes
the multiple of 2048 nearest to it (`Decimal.stepwise?_large`). So two different integers are read
as the same value exactly when they are both that large and have the same nearest multiple
(`parseJson_integer_eq_iff`), and some are (`parseJson_integer_coincide`).
-/

set_option autoImplicit false
set_option relaxedAutoImplicit false

namespace DocTree

/-! ### Large integers as floats -/

variable {n : ℕ}

/-- The bits of the float nearest to an integer with 64 binary digits: its significand is the
multiple of 2048 nearest to the integer, divided by 2048. -/
def largeBits (n : ℕ) : ℕ := 1085 * 2 ^ 52 + nearestNat n 2048

theorem nearestNat_le (hhigh : n < 2 ^ 64) : nearestNat n 2048 ≤ 2 ^ 53 := by
  unfold nearestNat
  simp only
  split_ifs <;> omega

theorem largeBits_lt (hhigh : n < 2 ^ 64) : largeBits n < infinityBits := by
  have hnearest := nearestNat_le hhigh
  unfold largeBits infinityBits
  omega

theorem ratioBits_eq_largeBits (hlow : 2 ^ 63 ≤ n) (hhigh : n < 2 ^ 64) :
    ratioBits n 1 = largeBits n := by
  have hlog : n.log2 = 63 := by
    rw [Nat.log2_eq_iff (by omega)]
    exact ⟨hlow, hhigh⟩
  have hexponent : ratioLog2 n 1 = 63 := by
    have hone : Nat.log2 1 = 0 := rfl
    unfold ratioLog2
    rw [hlog, hone]
    exact if_pos (by simpa [Nat.shiftLeft_eq] using hlow)
  unfold ratioBits
  rw [if_neg (by omega), hexponent]
  rfl

/-- An integer with 64 binary digits is read as the float of the nearest multiple of 2048. -/
theorem Decimal.stepwise?_large (hlow : 2 ^ 63 ≤ n) (hhigh : n < 2 ^ 64) :
    stepwise? ⟨n, 0⟩ = some (Float.ofBits (largeBits n).toUInt64) := by
  rw [stepwise?_integer (by omega) hhigh, nearestFloat, ratioBits_eq_largeBits hlow hhigh,
    min_eq_left (largeBits_lt hhigh).le]

theorem ofBits_largeBits_inj {other : ℕ} (hn : n < 2 ^ 64) (hother : other < 2 ^ 64) :
    Float.ofBits (largeBits n).toUInt64 = Float.ofBits (largeBits other).toUInt64 ↔
      nearestNat n 2048 = nearestNat other 2048 := by
  constructor
  · intro hfloat
    have hbits := congrArg (fun float ↦ float.toBits.toNat) hfloat
    simp only [toNat_toBits_ofBits (largeBits_lt hn), toNat_toBits_ofBits (largeBits_lt hother)]
      at hbits
    exact Nat.add_left_cancel hbits
  · intro hnearest
    rw [largeBits, hnearest, largeBits]

/-! ### What integers are read as -/

namespace Json

/-- Whether an integer has 64 bits, with or without a sign. -/
structure Wide (number : ℤ) : Prop where
  low : -2 ^ 63 ≤ number
  high : number < 2 ^ 64

/-- What stands in a document where its text has an integer. -/
def integerValue (number : ℤ) : Value :=
  if number < 2 ^ 63 then .int (Int64.ofInt number)
  else .float (Float.ofBits (largeBits number.toNat).toUInt64)

variable {number first second : ℤ}

theorem Wide.toInt_ofInt (hnumber : Wide number) (hsmall : number < 2 ^ 63) :
    (Int64.ofInt number).toInt = number := by
  have hlow := hnumber.low
  exact Int64.toInt_ofInt_of_le (by omega) (by omega)

/-- Whether two integers are too large for 64 bits with a sign and have the same nearest multiple of
2048. Of two multiples that are as near, the even one counts. -/
structure Coincide (first second : ℤ) : Prop where
  large : 2 ^ 63 ≤ first ∧ 2 ^ 63 ≤ second
  nearest : ∃ multiple, RoundsTo (first / 2048) multiple ∧ RoundsTo (second / 2048) multiple

theorem coincide_iff (hfirst : 2 ^ 63 ≤ first) (hsecond : 2 ^ 63 ≤ second) :
    Coincide first second ↔ nearestNat first.toNat 2048 = nearestNat second.toNat 2048 := by
  have hrounds : ∀ {number : ℤ}, 2 ^ 63 ≤ number →
      RoundsTo (number / 2048) (nearestNat number.toNat 2048) := by
    intro number hlarge
    obtain ⟨n, rfl⟩ := Int.eq_ofNat_of_zero_le (by omega : 0 ≤ number)
    simpa using @roundsTo_nearestNat n 2048 (by omega)
  constructor
  · rintro ⟨-, multiple, hmultiple, hother⟩
    rw [(hrounds hfirst).unique hmultiple, (hrounds hsecond).unique hother]
  · intro hnearest
    exact ⟨⟨hfirst, hsecond⟩, _, hrounds hfirst, hnearest ▸ hrounds hsecond⟩

/-- Integers are read as different values, unless they coincide. -/
theorem integerValue_inj (hfirst : Wide first) (hsecond : Wide second) :
    integerValue first = integerValue second ↔ first = second ∨ Coincide first second := by
  have hhigh := hfirst.high
  have hother := hsecond.high
  unfold integerValue
  by_cases hsmall : first < 2 ^ 63
  · have happart : ¬Coincide first second := fun hcoincide ↦ by
      have hlarge := hcoincide.large.1
      omega
    rw [if_pos hsmall, or_iff_left happart]
    by_cases hless : second < 2 ^ 63
    · rw [if_pos hless, Value.int.injEq]
      refine ⟨fun hints ↦ ?_, fun heq ↦ heq ▸ rfl⟩
      rw [← hfirst.toInt_ofInt hsmall, hints, hsecond.toInt_ofInt hless]
    · rw [if_neg hless]
      exact iff_of_false (fun hvalue ↦ nomatch hvalue) (by omega)
  · by_cases hless : second < 2 ^ 63
    · rw [if_neg hsmall, if_pos hless]
      refine iff_of_false (fun hvalue ↦ nomatch hvalue) ?_
      rintro (rfl | hcoincide)
      · exact hsmall hless
      · have hlarge := hcoincide.large.2
        omega
    · rw [if_neg hsmall, if_neg hless, Value.float.injEq,
        ofBits_largeBits_inj (by omega) (by omega), coincide_iff (by omega) (by omega)]
      refine ⟨.inr, ?_⟩
      rintro (rfl | hnearest)
      · rfl
      · exact hnearest

theorem Numeral.value?_large {whole : List Char} (hlow : 2 ^ 63 ≤ Decimal.natOfDigits whole)
    (hhigh : Decimal.natOfDigits whole < 2 ^ 64) :
    Numeral.value? Numeral.float? ⟨false, whole, none, none⟩ =
      some (.float (Float.ofBits (largeBits (Decimal.natOfDigits whole)).toUInt64)) := by
  have hmagnitude : Numeral.magnitude ⟨false, whole, none, none⟩ =
      ⟨Decimal.natOfDigits whole, 0⟩ := by
    show Decimal.ofParts whole [] 0 = _
    rw [Decimal.ofParts, List.append_nil]
    rfl
  have hfloat := @Numeral.float?_eq ⟨false, whole, none, none⟩ (hmagnitude ▸ hhigh)
  rw [hmagnitude, Decimal.stepwise?_large hlow hhigh] at hfloat
  have hrange : ¬(Decimal.natOfDigits whole : ℤ) ≤ Int64.maxValue.toInt := by
    rw [Int64.toInt_maxValue]
    omega
  simp [Numeral.value?, hfloat, hrange]

/-- The text of an integer is read as a number with that value. -/
theorem exists_denotes_wide (hnumber : Wide number) :
    ∃ numeral, Denotes number.repr.toList numeral ∧
      numeral.value? Numeral.float? = some (integerValue number) := by
  unfold integerValue
  by_cases hsmall : number < 2 ^ 63
  · have hread := @exists_denotes_repr Numeral.float? (Int64.ofInt number)
    rw [hnumber.toInt_ofInt hsmall] at hread
    rwa [if_pos hsmall]
  · obtain ⟨n, rfl⟩ := Int.eq_ofNat_of_zero_le (by omega : 0 ≤ number)
    have hhigh := hnumber.high
    refine ⟨⟨false, n.repr.toList, none, none⟩, denotes_natRepr n, ?_⟩
    rw [if_neg hsmall, Numeral.value?_large] <;> rw [Decimal.natOfDigits_repr]
    · rfl
    · omega
    · omega

theorem parseJson_repr (hnumber : Wide number) :
    parseJson number.repr = .ok (integerValue number) := by
  obtain ⟨numeral, hdenotes, hvalue⟩ := exists_denotes_wide hnumber
  rw [parseJson, hdenotes.parse?_eq hvalue]

/-- A JSON text that is an integer of 64 bits, with or without a sign, is read, and two are read as
the same value only if they are the same integer or coincide. Then documents with these values at
one place, and the same otherwise, are also the same. -/
theorem parseJson_integer_eq_iff (hfirst : Wide first) (hsecond : Wide second) :
    ∃ value other, parseJson first.repr = .ok value ∧ parseJson second.repr = .ok other ∧
      (value = other ↔ first = second ∨ Coincide first second) ∧
        ∀ (root : Value) (path : Path), (root.slot? path).isSome →
          (root.fill path value = root.fill path other ↔
            first = second ∨ Coincide first second) := by
  have hvalues := integerValue_inj hfirst hsecond
  refine ⟨_, _, parseJson_repr hfirst, parseJson_repr hsecond, hvalues, fun root path hslot ↦ ?_⟩
  rw [← hvalues]
  refine ⟨fun hroots ↦ ?_, fun heq ↦ heq ▸ rfl⟩
  have hread := congrArg (Value.get? · path) hroots
  simpa [Value.get?_fill hslot] using hread

/-- An integer halfway between two multiples of 2048 is read as the even one. -/
theorem parseJson_integer_eq_iff_halfway :
    Wide 9223372036854776832 ∧ Wide 9223372036854775808 ∧
      parseJson (9223372036854776832 : ℤ).repr = parseJson (9223372036854775808 : ℤ).repr := by
  have hhalfway : Wide 9223372036854776832 := ⟨by norm_num, by norm_num⟩
  have heven : Wide 9223372036854775808 := ⟨by norm_num, by norm_num⟩
  have hcoincide : Coincide 9223372036854776832 9223372036854775808 := by
    refine ⟨⟨by norm_num, by norm_num⟩, 2 ^ 52, ⟨.inl ?_, .inr ⟨rfl, ?_⟩⟩, ⟨.inl ?_, .inl ?_⟩⟩ <;>
      norm_num
  obtain ⟨value, other, hvalue, hother, hsame, -⟩ := parseJson_integer_eq_iff hhalfway heven
  exact ⟨hhalfway, heven, by rw [hvalue, hother, hsame.mpr (.inr hcoincide)]⟩

/-- Not all integers of 64 bits are kept apart. -/
theorem parseJson_integer_coincide :
    ¬ ∀ first second : ℤ, Wide first → Wide second → first ≠ second →
      parseJson first.repr ≠ parseJson second.repr := by
  intro hapart
  have hfirst : Wide 9223372036854775808 := ⟨by norm_num, by norm_num⟩
  have hsecond : Wide 9223372036854775809 := ⟨by norm_num, by norm_num⟩
  have hcoincide : Coincide 9223372036854775808 9223372036854775809 := by
    rw [coincide_iff (by norm_num) (by norm_num)]
    decide
  refine hapart _ _ hfirst hsecond (by norm_num) ?_
  rw [parseJson_repr hfirst, parseJson_repr hsecond,
    (integerValue_inj hfirst hsecond).mpr (.inr hcoincide)]

end Json

end DocTree
