import DocTree.Decimal.Shortest
import Mathlib.Tactic.Ring

/-!
# The bits of a finite float

A finite float is `± m * 2 ^ q` with `m` and `q` from `floatParts`, which satisfy `IsMagnitude`. The
sign, `m` and `q` determine the float: `signedFloat` builds it, and `eq_signedFloat` shows that
every finite float is built in this way. `ofBits_magnitudeBits` and `neg_signedFloat` say what bits
and negation do in these terms, so that nothing else needs to look at bits.
-/

set_option autoImplicit false
set_option relaxedAutoImplicit false

namespace DocTree

open Float.Model (Format UnpackedFloat)
open Float.Model.UnpackedFloat

/-- `m * 2 ^ q` is the magnitude of a finite float, with `m` as large as it can be. -/
structure IsMagnitude (m : Nat) (q : Int) : Prop where
  least : -1074 ≤ q
  greatest : q ≤ 971
  lt : m < 2 ^ 53
  normal : -1074 < q → 2 ^ 52 ≤ m

/-- The bits of the positive float `m * 2 ^ q`. -/
def magnitudeBits (m : Nat) (q : Int) : Nat := (q + 1074).toNat * 2 ^ 52 + m

/-- The number `± m * 2 ^ q` before it is packed into bits. -/
def unpackedFloat (sign : Sign) (m : Nat) (q : Int) : UnpackedFloat :=
  if hzero : m = 0 then .zero sign else .finite sign m q (Nat.pos_of_ne_zero hzero)

/-- The float `± m * 2 ^ q`. -/
def signedFloat (sign : Sign) (m : Nat) (q : Int) : Float :=
  .ofModel (Float.Model.pack (unpackedFloat sign m q))

/-! ### Three fields of 64 bits -/

theorem toNat_unpackMantissa (bits : BitVec 64) :
    (@unpackMantissa Format.binary64 bits).toNat = bits.toNat % 2 ^ 52 := by
  simp [unpackMantissa]

theorem toNat_unpackExponent (bits : BitVec 64) :
    (@unpackExponent Format.binary64 bits).toNat = bits.toNat / 2 ^ 52 % 2 ^ 11 := by
  simp [unpackExponent, Nat.shiftRight_eq_div_pow]

theorem toNat_unpackSign (bits : BitVec 64) :
    (@unpackSign Format.binary64 bits).toNat = bits.toNat / 2 ^ 63 := by
  have hlt := bits.isLt
  unfold unpackSign
  simp only [BitVec.toNat_cast, BitVec.extractLsb_toNat, Nat.shiftRight_eq_div_pow]
  omega

theorem ofBitVec_unpackSign {bits : BitVec 64} {sign : Sign}
    (hbits : bits.toNat / 2 ^ 63 = sign.toBitVec.toNat) :
    Sign.ofBitVec (@unpackSign Format.binary64 bits) = sign := by
  have hsign : @unpackSign Format.binary64 bits = sign.toBitVec := by
    rw [← BitVec.toNat_inj, toNat_unpackSign, hbits]
  rw [hsign]
  cases sign <;> rfl

theorem toNat_packComponents (sign : Sign) (exponent : BitVec 11) (mantissa : BitVec 52) :
    (packComponents Format.binary64 sign exponent mantissa).toNat =
      sign.toBitVec.toNat * 2 ^ 63 + exponent.toNat * 2 ^ 52 + mantissa.toNat := by
  have hfront : (sign.toBitVec ++ exponent).toNat =
      sign.toBitVec.toNat * 2 ^ 11 + exponent.toNat := by
    rw [BitVec.toNat_append, ← Nat.shiftLeft_add_eq_or_of_lt exponent.isLt, Nat.shiftLeft_eq]
  calc (packComponents Format.binary64 sign exponent mantissa).toNat
      = (sign.toBitVec ++ exponent).toNat * 2 ^ 52 + mantissa.toNat := by
        rw [packComponents, BitVec.toNat_append, ← Nat.shiftLeft_add_eq_or_of_lt mantissa.isLt,
          Nat.shiftLeft_eq]
    _ = sign.toBitVec.toNat * 2 ^ 63 + exponent.toNat * 2 ^ 52 + mantissa.toNat := by
        rw [hfront]
        ring

/-! ### Packing and unpacking -/

variable {m : Nat} {q : Int}

theorem IsMagnitude.bits_lt (hmagnitude : IsMagnitude m q) : magnitudeBits m q < infinityBits := by
  obtain ⟨hleast, hgreatest, hlt, hnormal⟩ := hmagnitude
  unfold magnitudeBits infinityBits
  omega

theorem biasedExponent_eq (q : Int) :
    (q + (Format.exponentBias Format.binary64 : Int) + (52 : Nat)).toNat = (q + 1075).toNat := by
  simp only [Format.exponentBias]
  omega

/-- A number whose exponent is too large is packed as infinity. The significand of another one has
all its 53 bits exactly when the number is normal, and its first bit is then left out. -/
theorem pack_finite (sign : Sign) (hpos : 0 < m) :
    pack Format.binary64 (.finite sign m q hpos) =
      if 2 ^ 11 ≤ (q + 1075).toNat + 1 then packedInfinity Format.binary64 sign
      else if m.log2 + 1 = 53 then
        packComponents Format.binary64 sign (BitVec.ofNat 11 (q + 1075).toNat) (BitVec.ofNat 52 m)
      else packComponents Format.binary64 sign 0#11 (BitVec.ofNat 52 m) := by
  rw [← biasedExponent_eq]
  rfl

theorem toNat_pack (hmagnitude : IsMagnitude m q) (sign : Sign) :
    (pack Format.binary64 (unpackedFloat sign m q)).toNat =
      sign.toBitVec.toNat * 2 ^ 63 + magnitudeBits m q := by
  obtain ⟨hleast, hgreatest, hlt, hnormal⟩ := hmagnitude
  unfold unpackedFloat magnitudeBits
  by_cases hzero : m = 0
  · have hq : q = -1074 := by omega
    have hpack : pack Format.binary64 (.zero sign) =
        packComponents Format.binary64 sign 0#11 0#52 := rfl
    rw [dif_pos hzero, hpack, toNat_packComponents, hzero, hq]
    simp
  · rw [dif_neg hzero, pack_finite, if_neg (by omega)]
    by_cases hlarge : 2 ^ 52 ≤ m
    · have hlog : m.log2 = 52 := by
        rw [Nat.log2_eq_iff hzero]
        omega
      rw [if_pos (by omega), toNat_packComponents]
      simp only [BitVec.toNat_ofNat]
      omega
    · have hlog : m.log2 < 52 := by
        rw [Nat.log2_lt hzero]
        omega
      rw [if_neg (by omega), toNat_packComponents]
      simp only [BitVec.toNat_ofNat]
      omega

theorem unpack_eq (hmagnitude : IsMagnitude m q) {bits : BitVec 64} {sign : Sign}
    (hbits : bits.toNat = sign.toBitVec.toNat * 2 ^ 63 + magnitudeBits m q) :
    unpack Format.binary64 bits = unpackedFloat sign m q := by
  have hbound := hmagnitude.bits_lt
  obtain ⟨hleast, hgreatest, hlt, hnormal⟩ := hmagnitude
  unfold infinityBits at hbound
  have hsign : Sign.ofBitVec (@unpackSign Format.binary64 bits) = sign :=
    ofBitVec_unpackSign (by omega)
  have hmantissa := toNat_unpackMantissa bits
  have hexponent := toNat_unpackExponent bits
  unfold magnitudeBits at hbits hbound
  have hones : (-1#11).toNat = 2 ^ 11 - 1 := by decide
  subst hsign
  unfold unpack unpackedFloat
  dsimp only
  rw [if_neg (by rw [← BitVec.toNat_inj, hexponent, hones]; omega)]
  by_cases hlarge : 2 ^ 52 ≤ m
  · have hone : (1#1 ++ @unpackMantissa Format.binary64 bits).toNat = m := by
      rw [BitVec.toNat_append, ← Nat.shiftLeft_add_eq_or_of_lt (BitVec.isLt _), Nat.shiftLeft_eq,
        hmantissa]
      simp only [BitVec.toNat_ofNat]
      omega
    rw [if_neg (by rw [← BitVec.toNat_inj, hexponent]; simp only [BitVec.toNat_ofNat]; omega),
      dif_neg (by omega)]
    rw [UnpackedFloat.finite.injEq]
    refine ⟨rfl, hone, ?_⟩
    simp only [Format.exponentBias]
    omega
  · have hzero : @unpackMantissa Format.binary64 bits = 0#_ ↔ m = 0 := by
      rw [← BitVec.toNat_inj, hmantissa]
      simp only [BitVec.toNat_ofNat]
      omega
    rw [if_pos (by rw [← BitVec.toNat_inj, hexponent]; simp only [BitVec.toNat_ofNat]; omega)]
    by_cases hm : m = 0
    · rw [dif_pos (hzero.mpr hm), dif_pos hm]
    · rw [dif_neg (mt hzero.mp hm), dif_neg hm]
      rw [UnpackedFloat.finite.injEq]
      refine ⟨rfl, by omega, ?_⟩
      simp only [Format.exponentBias]
      omega

/-! ### Floats from their parts -/

theorem eq_of_toNat_toBits {number other : Float}
    (hbits : number.toBits.toNat = other.toBits.toNat) : number = other := by
  obtain ⟨⟨bits, hvalid⟩⟩ := number
  obtain ⟨⟨others, hothers⟩⟩ := other
  have heq : bits = others := UInt64.toNat_inj.mp hbits
  subst heq
  rfl

theorem toNat_toBits_signedFloat (hmagnitude : IsMagnitude m q) (sign : Sign) :
    (signedFloat sign m q).toBits.toNat = sign.toBitVec.toNat * 2 ^ 63 + magnitudeBits m q :=
  toNat_pack hmagnitude sign

theorem unpack_signedFloat (hmagnitude : IsMagnitude m q) (sign : Sign) :
    (signedFloat sign m q).toModel.unpack = unpackedFloat sign m q :=
  unpack_eq hmagnitude (toNat_pack hmagnitude sign)

theorem neg_signedFloat (hmagnitude : IsMagnitude m q) (sign : Sign) :
    -signedFloat sign m q = signedFloat (-sign) m q := by
  have hneg : (unpackedFloat sign m q).neg = unpackedFloat (-sign) m q := by
    unfold unpackedFloat
    by_cases hzero : m = 0
    · rw [dif_pos hzero, dif_pos hzero]
      rfl
    · rw [dif_neg hzero, dif_neg hzero]
      rfl
  show Float.ofModel (Float.Model.pack (signedFloat sign m q).toModel.unpack.neg) = _
  rw [unpack_signedFloat hmagnitude, hneg]
  rfl

theorem isInf_signedFloat (hmagnitude : IsMagnitude m q) (sign : Sign) :
    (signedFloat sign m q).isInf = false := by
  show (signedFloat sign m q).toModel.unpack.isInf = false
  rw [unpack_signedFloat hmagnitude]
  unfold unpackedFloat
  by_cases hzero : m = 0
  · rw [dif_pos hzero]
    rfl
  · rw [dif_neg hzero]
    rfl

theorem ofBits_magnitudeBits (hmagnitude : IsMagnitude m q) :
    Float.ofBits (magnitudeBits m q).toUInt64 = signedFloat .positive m q := by
  have hbound := hmagnitude.bits_lt
  unfold infinityBits at hbound
  have hbits : (magnitudeBits m q).toUInt64.toBitVec.toNat =
      Sign.positive.toBitVec.toNat * 2 ^ 63 + magnitudeBits m q := by
    show (magnitudeBits m q).toUInt64.toNat = 0 * 2 ^ 63 + magnitudeBits m q
    simp only [Nat.toUInt64_eq, UInt64.toNat_ofNat']
    omega
  show Float.ofModel (Float.Model.pack (unpack Format.binary64 _)) = _
  rw [unpack_eq hmagnitude hbits]
  rfl

/-- All bits below those of infinity are the bits of a finite float. -/
theorem exists_isMagnitude {bits : Nat} (hbits : bits < infinityBits) :
    ∃ m q, IsMagnitude m q ∧ magnitudeBits m q = bits := by
  unfold infinityBits at hbits
  by_cases hsubnormal : bits < 2 ^ 52
  · refine ⟨bits, -1074, ⟨le_rfl, by omega, by omega, by omega⟩, ?_⟩
    simp [magnitudeBits]
  · refine ⟨2 ^ 52 + bits % 2 ^ 52, (bits / 2 ^ 52 : Nat) - 1075, ⟨?_, ?_, ?_, ?_⟩, ?_⟩
    · omega
    · omega
    · omega
    · omega
    · unfold magnitudeBits
      omega

theorem toNat_toBits_ofBits {bits : Nat} (hbits : bits < infinityBits) :
    (Float.ofBits bits.toUInt64).toBits.toNat = bits := by
  obtain ⟨m, q, hmagnitude, rfl⟩ := exists_isMagnitude hbits
  rw [ofBits_magnitudeBits hmagnitude, toNat_toBits_signedFloat hmagnitude]
  simp [Sign.toBitVec]

/-! ### The parts of a finite float -/

variable {number : Float}

theorem exponentField_ne (hfinite : number.isFinite = true) :
    number.toBits.toNat / 2 ^ 52 % 2 ^ 11 ≠ 2 ^ 11 - 1 := by
  intro hfield
  have hones : @unpackExponent Format.binary64 number.toBits.toBitVec = -1#11 := by
    rw [← BitVec.toNat_inj, toNat_unpackExponent]
    exact hfield
  have hunpacked : (unpack Format.binary64 number.toBits.toBitVec).isFinite = true := hfinite
  unfold unpack at hunpacked
  rw [if_pos hones] at hunpacked
  split at hunpacked <;> cases hunpacked

theorem isMagnitude_floatParts (hfinite : number.isFinite = true) :
    IsMagnitude (floatParts number).1 (floatParts number).2 := by
  have hfield := exponentField_ne hfinite
  unfold floatParts
  simp only [Nat.pow_eq]
  by_cases hzero : number.toBits.toNat / 2 ^ 52 % 2 ^ 11 = 0
  · rw [if_pos hzero]
    constructor <;> simp only <;> omega
  · rw [if_neg hzero]
    constructor <;> simp only <;> omega

theorem magnitudeBits_floatParts (number : Float) :
    magnitudeBits (floatParts number).1 (floatParts number).2 = number.toBits.toNat % 2 ^ 63 := by
  unfold floatParts magnitudeBits
  simp only [Nat.pow_eq]
  by_cases hzero : number.toBits.toNat / 2 ^ 52 % 2 ^ 11 = 0
  · rw [if_pos hzero]
    simp only
    omega
  · rw [if_neg hzero]
    simp only
    omega

theorem floatIsNegative_iff : floatIsNegative number = true ↔ 2 ^ 63 ≤ number.toBits.toNat := by
  have hlt := number.toBits.toNat_lt
  have hshift : (number.toBits >>> 63).toNat = number.toBits.toNat / 2 ^ 63 := by
    simp [Nat.shiftRight_eq_div_pow]
  rw [floatIsNegative, decide_eq_true_iff, ← UInt64.toNat_inj, hshift]
  simp only [UInt64.toNat_one]
  omega

/-- A finite float is determined by its sign and its parts. -/
theorem eq_signedFloat (hfinite : number.isFinite = true) :
    number = signedFloat (if floatIsNegative number then .negative else .positive)
      (floatParts number).1 (floatParts number).2 := by
  have hlt := number.toBits.toNat_lt
  apply eq_of_toNat_toBits
  rw [toNat_toBits_signedFloat (isMagnitude_floatParts hfinite), magnitudeBits_floatParts]
  by_cases hnegative : floatIsNegative number = true
  · have hlow := floatIsNegative_iff.mp hnegative
    rw [if_pos hnegative]
    simp only [Sign.toBitVec, BitVec.toNat_ofNat]
    omega
  · have hhigh := mt floatIsNegative_iff.mpr hnegative
    rw [if_neg hnegative]
    simp only [Sign.toBitVec, BitVec.toNat_ofNat]
    omega

/-- A finite float is its magnitude, negated when its sign bit is set. -/
theorem eq_of_magnitude (hfinite : number.isFinite = true) :
    (if floatIsNegative number then
        -signedFloat .positive (floatParts number).1 (floatParts number).2
      else signedFloat .positive (floatParts number).1 (floatParts number).2) = number := by
  have hnumber := eq_signedFloat hfinite
  by_cases hnegative : floatIsNegative number = true
  · rw [if_pos hnegative] at hnumber ⊢
    rw [neg_signedFloat (isMagnitude_floatParts hfinite)]
    exact hnumber.symm
  · rw [if_neg hnegative] at hnumber ⊢
    exact hnumber.symm

end DocTree
