import DocTree.Gzip.Member
import Mathlib.Tactic.Ring

/-!
# Compressed files are read back

The bits of a number give the number back (`natOfBits_bitsOfNat`), and the bits of bytes the bytes
(`bytesOfBits_bitsOfBytes`). A stored block is read to its end whatever follows it
(`blocks?_storedBlock`), a sequence of them is read block by block (`blocks?_storedBlocks`), and so a
file is decompressed to the data that it was made of (`decompress?_compress`).
-/

set_option autoImplicit false
set_option relaxedAutoImplicit false

namespace DocTree.Gzip

/-! ### Numbers as bits -/

@[simp] theorem length_bitsOfNat (width number : Nat) :
    (bitsOfNat width number).length = width := by
  induction width generalizing number with
  | zero => rfl
  | succ width ih => rw [bitsOfNat, List.length_cons, ih]

theorem natOfBits_bitsOfNat (width number : Nat) :
    natOfBits (bitsOfNat width number) = number % 2 ^ width := by
  induction width generalizing number with
  | zero => rw [Nat.pow_zero, Nat.mod_one, bitsOfNat, natOfBits]
  | succ width ih =>
    have hbit : (decide (number % 2 = 1)).toNat = number % 2 := by
      rcases Nat.mod_two_eq_zero_or_one number with hzero | hone
      · simp [hzero]
      · simp [hone]
    rw [bitsOfNat, natOfBits, ih, hbit, Nat.pow_succ', Nat.mod_mul]

theorem natOfBits_append (bits more : Bits) :
    natOfBits (bits ++ more) = natOfBits bits + 2 ^ bits.length * natOfBits more := by
  induction bits with
  | nil => simp [natOfBits]
  | cons bit bits ih =>
    rw [List.cons_append, natOfBits, natOfBits, ih, List.length_cons]
    ring

theorem number?_append {bits : Bits} {width : Nat} (hwidth : bits.length = width) (rest : Bits) :
    Bits.number? width (bits ++ rest) = some (natOfBits bits, rest) := by
  subst hwidth
  simp [Bits.number?]

/-! ### Bytes as bits -/

theorem bitsOfBytes_cons (byte : UInt8) (bytes : List UInt8) :
    bitsOfBytes (byte :: bytes) = bitsOfNat 8 byte.toNat ++ bitsOfBytes bytes := List.flatMap_cons

theorem bitsOfBytes_append (bytes more : List UInt8) :
    bitsOfBytes (bytes ++ more) = bitsOfBytes bytes ++ bitsOfBytes more := List.flatMap_append

@[simp] theorem length_bitsOfBytes (bytes : List UInt8) :
    (bitsOfBytes bytes).length = 8 * bytes.length := by
  induction bytes with
  | nil => rfl
  | cons byte bytes ih =>
    rw [bitsOfBytes_cons, List.length_append, length_bitsOfNat, ih, List.length_cons]
    omega

theorem bytesOfBits_append {bits : Bits} (hbyte : bits.length = 8) (rest : Bits) :
    bytesOfBits (bits ++ rest) = (natOfBits bits).toUInt8 :: bytesOfBits rest := by
  match bits, hbyte with
  | [a, b, c, d, e, f, g, h], _ => rfl

theorem bytesOfBits_bitsOfBytes (bytes : List UInt8) : bytesOfBits (bitsOfBytes bytes) = bytes := by
  induction bytes with
  | nil => rfl
  | cons byte bytes ih =>
    have hbyte : (natOfBits (bitsOfNat 8 byte.toNat)).toUInt8 = byte := by
      rw [natOfBits_bitsOfNat, Nat.mod_eq_of_lt byte.toNat_lt]
      exact UInt8.ofNat_toNat
    rw [bitsOfBytes_cons, bytesOfBits_append (length_bitsOfNat 8 _), hbyte, ih]

theorem align_bitsOfBytes (bytes : List UInt8) : (bitsOfBytes bytes).align = bitsOfBytes bytes := by
  simp [Bits.align]

theorem bytes?_bitsOfBytes (bytes rest : List UInt8) :
    (bitsOfBytes (bytes ++ rest)).bytes? bytes.length = some (bytes, bitsOfBytes rest) := by
  have hlength := length_bitsOfBytes bytes
  simp only [Bits.bytes?, bitsOfBytes_append, ← hlength, List.take_left, List.drop_left,
    bytesOfBits_bitsOfBytes, Nat.lt_irrefl, if_false]

/-- A number of two bytes is read back. -/
theorem number?_pairOfNat {number : Nat} (hnumber : number ≤ maxStored) (rest : List UInt8) :
    Bits.number? 16 (bitsOfBytes (pairOfNat number ++ rest)) = some (number, bitsOfBytes rest) := by
  have hpair : (bitsOfBytes (pairOfNat number)).length = 16 := by
    rw [length_bitsOfBytes]
    rfl
  have hvalue : natOfBits (bitsOfBytes (pairOfNat number)) = number := by
    have hlow : (number.toUInt8).toNat = number % 256 := rfl
    have hhigh : ((number / 256).toUInt8).toNat = number / 256 % 256 := rfl
    have hsmall : number < 65536 := Nat.lt_succ_of_le hnumber
    simp only [pairOfNat, bitsOfBytes_cons, natOfBits_append, length_bitsOfNat,
      natOfBits_bitsOfNat, hlow, hhigh]
    simp [bitsOfBytes, natOfBits]
    omega
  rw [bitsOfBytes_append, number?_append hpair, hvalue]

/-! ### Stored blocks -/

variable {data : List UInt8} {output : Array UInt8}

/-- A stored block is read to its end: the bits up to the next full byte, the length, its complement
and the bytes. -/
theorem stored?_bitsOfBytes (hdata : data.length ≤ maxStored) (rest : List UInt8) {idle : Bits}
    (hidle : idle.length < 8) :
    stored? (idle ++ bitsOfBytes
        (pairOfNat data.length ++ (pairOfNat (maxStored - data.length) ++ (data ++ rest)))) output =
      some (output ++ data, bitsOfBytes rest) := by
  have halign : ∀ bytes, (idle ++ bitsOfBytes bytes).align = bitsOfBytes bytes := by
    intro bytes
    have hcount : (idle ++ bitsOfBytes bytes).length % 8 = idle.length := by
      rw [List.length_append, length_bitsOfBytes]
      omega
    rw [Bits.align, hcount, List.drop_left]
  have hcomplement : data.length + (maxStored - data.length) = 0xffff := Nat.add_sub_cancel' hdata
  unfold stored?
  rw [halign, number?_pairOfNat hdata]
  simp only [Option.bind_eq_bind, Option.bind_some, number?_pairOfNat (Nat.sub_le _ _), hcomplement,
    bytes?_bitsOfBytes]
  rfl

/-- A stored block is read, and what follows it unless it is marked as the last. -/
theorem blocks?_storedBlock (last : Bool) (hdata : data.length ≤ maxStored) (rest : List UInt8)
    (fuel : Nat) :
    blocks? (fuel + 1) (bitsOfBytes (storedBlock last data ++ rest)) output =
      if last then some (output ++ data, bitsOfBytes rest)
      else blocks? fuel (bitsOfBytes rest) (output ++ data) := by
  have hfirst : bitsOfNat 8 (if last then (1 : UInt8) else 0).toNat =
      last :: ([false, false] ++ List.replicate 5 false) := by
    cases last <;> rfl
  have hbits : bitsOfBytes (storedBlock last data ++ rest) = last :: ([false, false] ++
      (List.replicate 5 false ++ bitsOfBytes
        (pairOfNat data.length ++ (pairOfNat (maxStored - data.length) ++ (data ++ rest))))) := by
    simp only [storedBlock, List.cons_append, List.append_assoc, bitsOfBytes_cons, hfirst]
  have hkind : ∀ bits, Bits.number? 2 ([false, false] ++ bits) = some (0, bits) :=
    number?_append rfl
  have hstored := @stored?_bitsOfBytes data output hdata rest (List.replicate 5 false) (by simp)
  have hblock : ∀ bits, block? ([false, false] ++ bits) output = stored? bits output := by
    intro bits
    unfold block?
    rw [hkind]
    rfl
  rw [hbits, blocks?, Bits.bit?, Option.bind_eq_bind, Option.bind_some]
  dsimp only
  rw [hblock, hstored]
  rfl

/-- Stored blocks are read one after another. Every block takes at least a byte, so the length of
the text is fuel enough. -/
theorem blocks?_storedBlocks (rest : List UInt8) (count : Nat) (data : List UInt8)
    (output : Array UInt8) (fuel : Nat) (hdata : data.length ≤ (count + 1) * maxStored)
    (hfuel : (storedBlocks count data).length ≤ fuel) :
    ∃ final, blocks? fuel (bitsOfBytes (storedBlocks count data ++ rest)) output =
      some (final, bitsOfBytes rest) ∧ final.toList = output.toList ++ data := by
  have hpos : ∀ last (data : List UInt8), 0 < (storedBlock last data).length := by
    simp [storedBlock]
  induction count generalizing data output fuel with
  | zero =>
    have hblock := hpos true data
    obtain ⟨fuel, rfl⟩ : ∃ less, fuel = less + 1 := Nat.exists_eq_add_one.mpr (by
      rw [storedBlocks] at hfuel
      omega)
    rw [storedBlocks, blocks?_storedBlock true (by simpa using hdata)]
    exact ⟨output ++ data, rfl, by simp⟩
  | succ count ih =>
    rw [storedBlocks] at hfuel ⊢
    by_cases hshort : data.length ≤ maxStored
    · rw [if_pos hshort] at hfuel ⊢
      have hblock := hpos true data
      obtain ⟨fuel, rfl⟩ : ∃ less, fuel = less + 1 := Nat.exists_eq_add_one.mpr (by omega)
      rw [blocks?_storedBlock true hshort]
      exact ⟨output ++ data, rfl, by simp⟩
    · rw [if_neg hshort] at hfuel ⊢
      have hblock := hpos false (data.take maxStored)
      have hdrop : (data.drop maxStored).length ≤ (count + 1) * maxStored := by
        rw [Nat.succ_mul] at hdata
        rw [List.length_drop]
        omega
      rw [List.length_append] at hfuel
      obtain ⟨fuel, rfl⟩ : ∃ less, fuel = less + 1 := Nat.exists_eq_add_one.mpr (by omega)
      obtain ⟨final, hfinal, hlist⟩ :=
        ih (data.drop maxStored) (output ++ data.take maxStored) fuel hdrop (by omega)
      rw [List.append_assoc, blocks?_storedBlock false (List.length_take_le _ _)]
      refine ⟨final, hfinal, hlist.trans ?_⟩
      simp [List.append_assoc, List.take_append_drop]

theorem inflate?_deflate (data rest : List UInt8) :
    inflate? (deflate data ++ rest) = some (data, rest) := by
  have hpos : 0 < maxStored := by decide
  have hcount : data.length ≤ (data.length / maxStored + 1) * maxStored := by
    rw [Nat.mul_comm]
    exact Nat.le_of_lt (Nat.lt_mul_div_succ data.length hpos)
  obtain ⟨final, hfinal, hlist⟩ := blocks?_storedBlocks rest (data.length / maxStored) data #[]
    ((bitsOfBytes (deflate data ++ rest)).length + 1) hcount (by
      rw [length_bitsOfBytes, List.length_append, deflate]
      omega)
  unfold inflate?
  dsimp only
  rw [deflate] at hfinal ⊢
  rw [hfinal]
  simp [hlist, align_bitsOfBytes, bytesOfBits_bitsOfBytes]

/-! ### Files -/

theorem skipHeader?_header (rest : List UInt8) : skipHeader? (header ++ rest) = some rest := by
  have hlong : ¬ (header ++ rest).length < 10 := by
    rw [List.length_append]
    exact Nat.not_lt.mpr (Nat.le_add_right _ _)
  have hmagic : hasMagic (header ++ rest) = true := rfl
  unfold skipHeader?
  rw [hmagic]
  simp only [hlong, Bool.not_true, decide_false, Bool.or_false, Bool.false_eq_true, if_false]
  rfl

/-- A compressed file is decompressed to the data that it was made of. -/
theorem decompress?_compress (data : List UInt8) : decompress? (compress data) = some data := by
  unfold decompress? compress
  rw [List.append_assoc, skipHeader?_header, Option.bind_eq_bind, Option.bind_some,
    inflate?_deflate]
  simp

end DocTree.Gzip
