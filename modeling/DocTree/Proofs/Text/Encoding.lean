import DocTree.Format.Reader
import DocTree.Proofs.Outcome
import Mathlib.Tactic.SplitIfs

/-!
# Texts as bytes

The bytes of a text are read as that text again (`textOfBytes?_bytesOfText`). They are never taken
for a gzip file: no text has the bytes with which gzip files start (`hasMagic_bytesOfText`).
-/

set_option autoImplicit false
set_option relaxedAutoImplicit false

namespace DocTree

theorem byteArray_toList_loop (bytes : ByteArray) (start : Nat) (done : List UInt8) :
    ByteArray.toList.loop bytes start done = done.reverse ++ bytes.data.toList.drop start := by
  fun_induction ByteArray.toList.loop bytes start done with
  | case1 start done hstart ih =>
    have hlt : start < bytes.data.toList.length := by simpa using hstart
    have hbyte : bytes.get! start = bytes.data.toList[start] := by
      simp [ByteArray.get!, getElem!_pos bytes.data start (by simpa using hstart)]
    rw [ih, List.drop_eq_getElem_cons hlt, List.reverse_cons, List.append_assoc, hbyte,
      List.singleton_append]
  | case2 start done hend =>
    have hle : bytes.data.toList.length ≤ start := by simpa using hend
    rw [List.drop_eq_nil_of_le hle, List.append_nil]

theorem byteArray_toList_eq (bytes : ByteArray) : bytes.toList = bytes.data.toList :=
  byteArray_toList_loop bytes 0 []

/-- A text is read from its bytes. -/
theorem textOfBytes?_bytesOfText (text : String) : textOfBytes? (bytesOfText text) = some text := by
  have hbytes : (⟨(bytesOfText text).toArray⟩ : ByteArray) = text.toByteArray := by
    rw [bytesOfText, byteArray_toList_eq, Array.toArray_toList]
    rfl
  rw [textOfBytes?, hbytes, String.fromUTF8?, dif_pos text.isValidUTF8, Option.some_inj,
    ← String.toByteArray_inj]
  rfl

/-- The bytes of a text are those of its characters, one after another. -/
theorem bytesOfText_eq_flatMap (text : String) :
    bytesOfText text = text.toList.flatMap String.utf8EncodeChar := by
  have hbytes : text.toUTF8 = text.toList.utf8Encode := String.utf8Encode_toList.symm
  rw [bytesOfText, hbytes, byteArray_toList_eq, List.utf8Encode, List.data_toByteArray]

section FirstByte

variable {c : Char} {chars : List Char} {first : UInt8} {more : List UInt8}

/-- No character starts with a byte that continues one. -/
theorem isUTF8FirstByte_of_utf8EncodeChar (hbytes : String.utf8EncodeChar c = first :: more) :
    first.IsUTF8FirstByte := by
  have hfirst := @UInt8.isUTF8FirstByte_getElem_zero_utf8EncodeChar c
  simpa only [hbytes, List.getElem_cons_zero] using hfirst

/-- A byte below 128 is a character by itself. -/
theorem eq_nil_of_utf8EncodeChar (hbytes : String.utf8EncodeChar c = first :: more)
    (hfirst : first.toNat < 128) : more = [] := by
  unfold String.utf8EncodeChar at hbytes
  simp only at hbytes
  split_ifs at hbytes
  · exact (List.cons.inj hbytes).2.symm
  -- With two or more bytes the first one is 192 or more.
  all_goals
    rw [← (List.cons.inj hbytes).1, UInt8.toNat_ofNat'] at hfirst
    omega

/-- The first byte of a text is the first one of its first character. -/
theorem exists_cons_of_flatMap_utf8EncodeChar
    (hbytes : chars.flatMap String.utf8EncodeChar = first :: more) :
    ∃ c rest tail, chars = c :: rest ∧ String.utf8EncodeChar c = first :: tail ∧
      more = tail ++ rest.flatMap String.utf8EncodeChar := by
  cases chars with
  | nil => cases hbytes
  | cons c rest =>
    obtain ⟨byte, tail, hchar⟩ := List.exists_cons_of_ne_nil (@String.utf8EncodeChar_ne_nil c)
    rw [List.flatMap_cons, hchar, List.cons_append, List.cons.injEq] at hbytes
    obtain ⟨rfl, rfl⟩ := hbytes
    exact ⟨c, rest, tail, rfl, hchar, rfl⟩

end FirstByte

/-- No text starts like a gzip file: the first byte would be a character by itself, and the second
one continues a character. -/
theorem hasMagic_bytesOfText (text : String) : Gzip.hasMagic (bytesOfText text) = false := by
  rw [bytesOfText_eq_flatMap, ← Bool.not_eq_true]
  intro hmagic
  obtain ⟨rest, hrest⟩ := List.isPrefixOf_iff_prefix.mp hmagic
  obtain ⟨_, _, tail, -, hfirst, hmore⟩ := exists_cons_of_flatMap_utf8EncodeChar hrest.symm
  rw [eq_nil_of_utf8EncodeChar hfirst (by decide), List.nil_append] at hmore
  obtain ⟨_, _, _, -, hsecond, -⟩ := exists_cons_of_flatMap_utf8EncodeChar hmore.symm
  exact absurd (isUTF8FirstByte_of_utf8EncodeChar hsecond) (by decide)

/-- The bytes of a text are read as this text, and not as a gzip file. -/
theorem textOfInput_bytesOfText (text : String) : textOfInput (bytesOfText text) = .ok text := by
  simp [textOfInput, hasMagic_bytesOfText, textOfBytes?_bytesOfText]

/-- The document of a text is the document of its bytes. -/
theorem Value.ofBytes_bytesOfText {text : String} {value : Value}
    (htext : Value.ofText? text = some value) : Value.ofBytes (bytesOfText text) = .ok value := by
  refine Except.bind_eq_ok_iff.mpr ⟨text, textOfInput_bytesOfText text, ?_⟩
  rw [htext]
  rfl

end DocTree
