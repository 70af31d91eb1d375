import DocTree.Text.Blank
import Mathlib.Data.List.DropRight
import Mathlib.Data.List.TakeWhile

/-!
# Trimming

A text is trimmed when it neither begins nor ends with white space; `Trimmed` says so without
`trim`, which leaves exactly those texts as they are (`trim_eq_self_iff`) and takes the white space
around one away (`trim_pad`). Characters that are not blank keep what lies between them from being
cut (`trimmed_between`).
-/

set_option autoImplicit false
set_option relaxedAutoImplicit false

namespace DocTree.Text

/-- Whether a text has no white space at either end. -/
def Trimmed (text : List Char) : Prop :=
  (∀ c ∈ text.head?, isBlank c = false) ∧ ∀ c ∈ text.getLast?, isBlank c = false

theorem trimEnd_cons (c : Char) (rest : List Char) :
    trimEnd (c :: rest) =
      if trimEnd rest = [] then if isBlank c then [] else [c] else c :: trimEnd rest := by
  rw [trimEnd]
  cases trimEnd rest <;> simp

theorem trimEnd_append_of_ne_nil {last : List Char} (hlast : trimEnd last ≠ [])
    (front : List Char) : trimEnd (front ++ last) = front ++ trimEnd last := by
  induction front with
  | nil => rfl
  | cons c front ih =>
    have hne : front ++ trimEnd last ≠ [] := by simp [hlast]
    rw [List.cons_append, trimEnd_cons, ih, if_neg hne, List.cons_append]

theorem trimEnd_eq_rdropWhile (text : List Char) : trimEnd text = text.rdropWhile isBlank := by
  induction text using List.reverseRecOn with
  | nil => rfl
  | append_singleton front c ih =>
    cases hblank : isBlank c with
    | true =>
      have hdrop : ∀ text : List Char, trimEnd (text ++ [c]) = trimEnd text := by
        intro text
        induction text with
        | nil => simp [trimEnd, hblank]
        | cons first rest ih => rw [List.cons_append, trimEnd_cons, trimEnd_cons, ih]
      rw [hdrop, ih, List.rdropWhile_concat_pos isBlank front c hblank]
    | false =>
      have hlast : trimEnd [c] = [c] := by simp [trimEnd, hblank]
      rw [trimEnd_append_of_ne_nil (by simp [hlast]), hlast,
        List.rdropWhile_concat_neg isBlank front c (by simp [hblank])]

theorem trimStart_cons_of_not_blank {c : Char} (hc : isBlank c = false) (rest : List Char) :
    trimStart (c :: rest) = c :: rest := by
  simp [trimStart, hc]

theorem trimEnd_cons_of_not_blank {c : Char} (hc : isBlank c = false) (rest : List Char) :
    trimEnd (c :: rest) = c :: trimEnd rest := by
  rw [trimEnd_cons]
  split <;> simp_all

theorem trim_cons_of_not_blank {c : Char} (hc : isBlank c = false) (rest : List Char) :
    trim (c :: rest) = c :: trimEnd rest := by
  rw [trim, trimStart_cons_of_not_blank hc, trimEnd_cons_of_not_blank hc]

theorem trim_cons_of_blank {c : Char} (hc : isBlank c = true) (rest : List Char) :
    trim (c :: rest) = trim rest := by
  simp [trim, trimStart, hc]

/-- Trimming leaves exactly the trimmed texts as they are. -/
theorem trim_eq_self_iff {text : List Char} : trim text = text ↔ Trimmed text := by
  have hstart : trimStart text = text ↔ ∀ c ∈ text.head?, isBlank c = false := by
    cases text with
    | nil => simp [trimStart]
    | cons c rest =>
      rw [trimStart, List.dropWhile_eq_self_iff]
      simp
  have hend : trimEnd text = text ↔ ∀ c ∈ text.getLast?, isBlank c = false := by
    rw [trimEnd_eq_rdropWhile, List.rdropWhile_eq_self_iff]
    cases text with
    | nil => simp
    | cons c rest => simp [List.getLast?_eq_some_getLast]
  rw [Trimmed, ← hstart, ← hend]
  constructor
  · intro htrim
    have hsuffix : trimStart text <:+ text := List.dropWhile_suffix isBlank
    have hprefix : trimEnd (trimStart text) <+: trimStart text := by
      rw [trimEnd_eq_rdropWhile]
      exact List.rdropWhile_prefix isBlank (trimStart text)
    have hlength : text.length ≤ (trimStart text).length := by
      conv_lhs => rw [← htrim]
      exact hprefix.length_le
    have hkept : trimStart text = text := hsuffix.eq_of_length_le hlength
    rw [trim, hkept] at htrim
    exact ⟨hkept, htrim⟩
  · rintro ⟨hfirst, hlast⟩
    rw [trim, hfirst, hlast]

theorem mem_of_mem_trim {text : List Char} {c : Char} (hmem : c ∈ trim text) : c ∈ text := by
  rw [trim, trimEnd_eq_rdropWhile] at hmem
  exact (List.dropWhile_suffix isBlank).subset ((List.rdropWhile_prefix isBlank _).subset hmem)

/-- Trimming leaves no white space at either end. -/
theorem trimmed_trim (text : List Char) : Trimmed (trim text) := by
  rw [trim, trimEnd_eq_rdropWhile]
  constructor
  · intro c hc
    obtain ⟨cut, hcut⟩ := List.rdropWhile_prefix isBlank (trimStart text)
    have hstart : (trimStart text).head? = some c := by
      rw [← hcut, List.head?_append, Option.mem_def.mp hc, Option.some_or]
    have hfirst := List.head?_dropWhile_not isBlank text
    rw [← trimStart, hstart] at hfirst
    exact hfirst
  · intro c hc
    obtain ⟨hne, rfl⟩ := List.mem_getLast?_eq_getLast hc
    simpa using List.rdropWhile_last_not isBlank (trimStart text) hne

theorem trim_trim (text : List Char) : trim (trim text) = trim text :=
  trim_eq_self_iff.mpr (trimmed_trim text)

/-! ### White space around a text -/

theorem trimStart_append_of_blank {blanks : List Char} (hblanks : ∀ c ∈ blanks, isBlank c = true)
    (text : List Char) : trimStart (blanks ++ text) = trimStart text :=
  List.dropWhile_append_of_pos hblanks

theorem trimEnd_append_of_blank {blanks : List Char} (hblanks : ∀ c ∈ blanks, isBlank c = true)
    (text : List Char) : trimEnd (text ++ blanks) = trimEnd text := by
  have hreverse : ∀ c ∈ blanks.reverse, isBlank c = true := fun c hc ↦
    hblanks c (List.mem_reverse.mp hc)
  rw [trimEnd_eq_rdropWhile, trimEnd_eq_rdropWhile, List.rdropWhile, List.reverse_append,
    List.dropWhile_append_of_pos hreverse, List.rdropWhile]

theorem trim_eq_nil_of_blank {text : List Char} (htext : ∀ c ∈ text, isBlank c = true) :
    trim text = [] := by
  have hstart := trimStart_append_of_blank htext []
  rw [List.append_nil] at hstart
  rw [trim, hstart]
  rfl

/-- Trimming leaves nothing of white space, and something of any other text. -/
theorem trim_eq_nil_iff {text : List Char} : trim text = [] ↔ ∀ c ∈ text, isBlank c = true := by
  refine ⟨fun htrim c hc ↦ ?_, trim_eq_nil_of_blank⟩
  rw [trim, trimEnd_eq_rdropWhile, List.rdropWhile_eq_nil_iff, trimStart] at htrim
  rw [← List.takeWhile_append_dropWhile (p := isBlank) (l := text), List.mem_append] at hc
  exact hc.elim List.mem_takeWhile_imp (htrim c)

/-- Trimming takes exactly the white space around a trimmed text. -/
theorem trim_pad {front text back : List Char} (hfront : ∀ c ∈ front, isBlank c = true)
    (hback : ∀ c ∈ back, isBlank c = true) (htext : Trimmed text) :
    trim (front ++ text ++ back) = text := by
  cases text with
  | nil =>
    refine trim_eq_nil_of_blank fun c hc ↦ ?_
    rw [List.append_nil] at hc
    exact (List.mem_append.mp hc).elim (hfront c) (hback c)
  | cons c rest =>
    have hc : isBlank c = false := htext.1 c rfl
    have hself := trim_eq_self_iff.mpr htext
    rw [trim, trimStart_cons_of_not_blank hc] at hself
    rw [List.append_assoc, trim, trimStart_append_of_blank hfront, List.cons_append,
      trimStart_cons_of_not_blank hc, ← List.cons_append, trimEnd_append_of_blank hback, hself]

/-! ### Texts that are trimmed -/

/-- Between two characters that are not blank nothing is cut. -/
theorem trimmed_between {first last : Char} (hfirst : isBlank first = false)
    (hlast : isBlank last = false) (middle : List Char) :
    Trimmed (first :: (middle ++ [last])) := by
  constructor
  · simpa using hfirst
  · rw [← List.cons_append, List.getLast?_concat]
    simpa using hlast

theorem trimmed_of_forall {text : List Char} (htext : ∀ c ∈ text, isBlank c = false) :
    Trimmed text :=
  ⟨fun c hc ↦ htext c (List.mem_of_mem_head? hc), fun c hc ↦ htext c (List.mem_of_getLast? hc)⟩

theorem isBlank_of_isDigit {c : Char} (hdigit : c.isDigit = true) : isBlank c = false := by
  have hbounds : 48 ≤ c.toNat ∧ c.toNat ≤ 57 := by
    simpa [Char.isDigit, UInt32.le_iff_toNat_le] using hdigit
  simp [isBlank, Char.ext_iff, ← UInt32.toNat_inj, Char.le_def, UInt32.le_iff_toNat_le]
  omega

theorem trim_of_digits {text : List Char} (hdigits : ∀ c ∈ text, c.isDigit = true) :
    trim text = text :=
  trim_eq_self_iff.mpr (trimmed_of_forall fun c hc ↦ isBlank_of_isDigit (hdigits c hc))

end DocTree.Text
