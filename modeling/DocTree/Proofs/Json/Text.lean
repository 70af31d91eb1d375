import DocTree.Json.Printer
import DocTree.Json.Parser
import Mathlib.Tactic.SplitIfs

/-!
# Strings are read back from JSON

Every character is written so that it is read back, whatever follows (`stringChar?_writeChar`), and
only a quote that is not escaped closes a string. So a string is read back up to its closing quote
(`string?_writeString`).
-/

set_option autoImplicit false
set_option relaxedAutoImplicit false

namespace DocTree.Json

variable {rest : List Char}

/-- A code below 32 is read back from its two hexadecimal digits. -/
theorem hexNumber?_code {code : Nat} (hcode : code < 32) :
    Text.hexNumber? 4 ('0' :: '0' :: hexDigitChar (code / 16) :: hexDigitChar (code % 16) :: rest) =
      some (code, rest) := by
  have hdigit : ∀ digit < 16, Text.hexDigit? (hexDigitChar digit) = some digit := by decide
  have hhigh := hdigit (code / 16) (by omega)
  have hlow := hdigit (code % 16) (by omega)
  have hzero : Text.hexDigit? '0' = some 0 := rfl
  simp [Text.hexNumber?, Text.hexNumberFrom?, hhigh, hlow, hzero]
  omega

theorem unicodeEscape?_code {code : Nat} (hcode : code < 32) :
    unicodeEscape? ('0' :: '0' :: hexDigitChar (code / 16) :: hexDigitChar (code % 16) :: rest) =
      some (Char.ofNat code, rest) := by
  have hsmall : code < 0xd800 := by omega
  simp [unicodeEscape?, hexNumber?_code hcode, hsmall]

/-- A character is read back, whatever follows it. -/
theorem stringChar?_writeChar (c : Char) : stringChar? (writeChar c ++ rest) = some (c, rest) := by
  unfold writeChar
  split_ifs with hquote hbackslash hbackspace hfeed hline hreturn htab hcontrol
  · rw [hquote]
    rfl
  · rw [hbackslash]
    rfl
  · rw [hbackspace]
    rfl
  · rw [hfeed]
    rfl
  · rw [hline]
    rfl
  · rw [hreturn]
    rfl
  · rw [htab]
    rfl
  · have hcode : c.toNat < 32 := hcontrol
    have hescape := @unicodeEscape?_code rest _ hcode
    rw [Char.ofNat_toNat] at hescape
    exact hescape
  · rw [List.singleton_append, stringChar?]
    · rw [if_neg hcontrol]
    · exact hbackslash

/-- What is written for a character does not start with the quote that closes a string. -/
theorem writeChar_ne_quote (c : Char) :
    ∃ first more, writeChar c = first :: more ∧ first ≠ '"' := by
  unfold writeChar
  split_ifs with hquote
  all_goals first | exact ⟨_, _, rfl, by decide⟩ | exact ⟨_, _, rfl, hquote⟩

theorem writeChar_ne_nil (c : Char) : writeChar c ≠ [] := by
  obtain ⟨first, more, hwrite, -⟩ := writeChar_ne_quote c
  rw [hwrite]
  exact List.cons_ne_nil first more

theorem stringBody?_quote {room : List Char} (hroom : room ≠ []) :
    stringBody? room ('"' :: rest) = some ([], rest) := by
  cases room with
  | nil => exact absurd rfl hroom
  | cons c room => rfl

/-- The characters of a string are read back up to the closing quote. -/
theorem stringBody?_writeChars (chars : List Char) : ∀ room : List Char,
    chars.length < room.length →
    stringBody? room (chars.flatMap writeChar ++ '"' :: rest) = some (chars, rest) := by
  induction chars with
  | nil => exact fun room hroom ↦ stringBody?_quote (List.ne_nil_of_length_pos hroom)
  | cons c chars ih =>
    intro room hroom
    cases room with
    | nil => simp at hroom
    | cons other room =>
      obtain ⟨first, more, hwrite, hfirst⟩ := writeChar_ne_quote c
      have hread := @stringChar?_writeChar (chars.flatMap writeChar ++ '"' :: rest) c
      rw [hwrite, List.cons_append] at hread
      rw [List.flatMap_cons, hwrite, List.append_assoc, List.cons_append, stringBody?]
      · rw [hread]
        simp only
        rw [ih room (by simpa using hroom)]
        rfl
      · exact fun tail heq ↦ hfirst (List.cons.inj heq).1

theorem length_le_length_flatMap {α : Type} {put : α → List Char} (hput : ∀ item, put item ≠ [])
    (items : List α) : items.length ≤ (items.flatMap put).length := by
  induction items with
  | nil => exact Nat.le_refl 0
  | cons item items ih =>
    have hpos := List.length_pos_iff.mpr (hput item)
    rw [List.flatMap_cons, List.length_append, List.length_cons]
    omega

/-- A string is read back. -/
theorem string?_writeString (text : String) :
    string? (writeString text ++ rest) = some (text, rest) := by
  have hbody := @stringBody?_writeChars rest text.toList
    (text.toList.flatMap writeChar ++ '"' :: rest) (by
      have hlength := length_le_length_flatMap writeChar_ne_nil text.toList
      rw [List.length_append, List.length_cons]
      omega)
  rw [writeString, List.cons_append, List.cons_append, List.append_assoc, List.singleton_append,
    string?, hbody]
  simp

end DocTree.Json
