import DocTree.Json.Printer
import DocTree.Json.Parser
import DocTree.Proofs.Decimal
import DocTree.Proofs.Decimal.Stepwise
import Mathlib.Tactic.IntervalCases

/-!
# Numbers are read from their JSON texts

An integer is written without a point and an exponent, and is read as that integer
(`exists_denotes_repr`). A finite float is written with a point or an exponent, in one of four
layouts (`readsAs_render`). The float is the nearest one to the number that is written, and the
number is read as some float, though not always as that one (`exists_denotes_renderFloat`). All this
holds before every text that does not go on with the number (`Denotes`).
-/

set_option autoImplicit false
set_option relaxedAutoImplicit false

namespace DocTree

/-! ### Runs of digits -/

namespace Decimal

theorem spanDigits_append {digits rest : List Char} (hdigits : ∀ c ∈ digits, c.isDigit = true)
    (hrest : ∀ c ∈ rest.head?, c.isDigit = false) :
    spanDigits (digits ++ rest) = (digits, rest) := by
  unfold spanDigits
  rw [List.takeWhile_append_of_pos hdigits, List.dropWhile_append_of_pos hdigits]
  cases rest with
  | nil => simp
  | cons c rest =>
    have hc : c.isDigit = false := hrest c rfl
    simp [hc]

theorem natOfDigits_append (digits more : List Char) :
    natOfDigits (digits ++ more) = 10 ^ more.length * natOfDigits digits + natOfDigits more := by
  rw [natOfDigits_eq, natOfDigits_eq, natOfDigits_eq, Nat.ofDigitChars_append,
    Nat.ofDigitChars_eq_ofDigitChars_zero]

theorem natOfDigits_replicate_zero (count : ℕ) : natOfDigits (List.replicate count '0') = 0 := by
  rw [natOfDigits_eq, Nat.ofDigitChars_replicate_zero, Nat.mul_zero]

theorem natOfDigits_toDigits (number : ℕ) : natOfDigits (Nat.toDigits 10 number) = number := by
  rw [natOfDigits_eq, Nat.ofDigitChars_ten_toDigits]

theorem isDigit_of_mem_toDigits {number : ℕ} {c : Char} (hmem : c ∈ Nat.toDigits 10 number) :
    c.isDigit = true := Nat.isDigit_of_mem_toDigits (by omega) (by omega) hmem

/-- A positive number is written without a zero in front. -/
theorem head?_toDigits_ne {number : ℕ} (hpos : 0 < number) :
    (Nat.toDigits 10 number).head? ≠ some '0' := by
  induction number using Nat.strongRecOn with
  | ind number ih =>
    by_cases hsmall : number < 10
    · rw [Nat.toDigits_of_lt_base hsmall]
      interval_cases number <;> decide
    · rw [Nat.toDigits_of_base_le (by omega) (by omega), List.head?_append_of_ne_nil]
      · exact ih (number / 10) (by omega) (by omega)
      · exact Nat.toDigits_ne_nil

end Decimal

namespace Json

/-! ### The parts of a number -/

/-- A text before which a number ends. -/
def EndsNumber (rest : List Char) : Prop :=
  ∀ c ∈ rest.head?, c.isDigit = false ∧ c ≠ '.' ∧ c ≠ 'e' ∧ c ≠ 'E'

/-- A text is a number with these parts, whatever ends it. -/
def Denotes (text : List Char) (numeral : Numeral) : Prop :=
  ∀ rest, EndsNumber rest → numeral? (text ++ rest) = some (numeral, rest)

/-- Digits that may stand before the point: a single zero, or digits that start with none. -/
def IsWhole (digits : List Char) : Prop :=
  digits = ['0'] ∨
    digits ≠ [] ∧ digits.head? ≠ some '0' ∧ ∀ c ∈ digits, c.isDigit = true

theorem forall_mem_head?_cons {p : Char → Prop} {c : Char} {rest : List Char} (hc : p c) :
    ∀ other ∈ (c :: rest).head?, p other := by
  intro other hother
  rw [List.head?_cons, Option.mem_some_iff] at hother
  exact hother ▸ hc

theorem isWhole_toDigits (number : ℕ) : IsWhole (Nat.toDigits 10 number) := by
  rcases Nat.eq_zero_or_pos number with rfl | hpos
  · exact .inl rfl
  · exact .inr ⟨Nat.toDigits_ne_nil, Decimal.head?_toDigits_ne hpos,
      fun _ ↦ Decimal.isDigit_of_mem_toDigits⟩

theorem whole?_append {digits rest : List Char} (hwhole : IsWhole digits)
    (hrest : ∀ c ∈ rest.head?, c.isDigit = false) :
    whole? (digits ++ rest) = some (digits, rest) := by
  rcases hwhole with rfl | ⟨hne, hhead, hdigits⟩
  · rfl
  · have hspan := Decimal.spanDigits_append hdigits hrest
    cases digits with
    | nil => exact absurd rfl hne
    | cons c digits =>
      have hc : c ≠ '0' := by
        rintro rfl
        exact hhead rfl
      rw [List.cons_append] at hspan ⊢
      unfold whole?
      split
      · rename_i heq
        exact absurd (List.cons.inj heq).1 hc
      · rw [hspan]

theorem fraction?_point {digits rest : List Char} (hne : digits ≠ [])
    (hdigits : ∀ c ∈ digits, c.isDigit = true) (hrest : ∀ c ∈ rest.head?, c.isDigit = false) :
    fraction? ('.' :: digits ++ rest) = some (some digits, rest) := by
  rw [List.cons_append, fraction?, Decimal.spanDigits_append hdigits hrest]
  cases digits with
  | nil => exact absurd rfl hne
  | cons c digits => rfl

theorem fraction?_none {rest : List Char} (hrest : ∀ c ∈ rest.head?, c ≠ '.') :
    fraction? rest = some (none, rest) := by
  unfold fraction?
  split
  · exact absurd rfl (hrest '.' rfl)
  · rfl

theorem exponent?_none {rest : List Char} (hrest : EndsNumber rest) :
    exponent? rest = some (none, rest) := by
  unfold exponent?
  split
  · exact absurd rfl (hrest 'e' rfl).2.2.1
  · exact absurd rfl (hrest 'E' rfl).2.2.2
  · rfl

theorem exponentValue?_append (negative : Bool) {digits rest : List Char} (hne : digits ≠ [])
    (hdigits : ∀ c ∈ digits, c.isDigit = true) (hrest : ∀ c ∈ rest.head?, c.isDigit = false) :
    exponentValue? ((if negative then '-' else '+') :: digits ++ rest) =
      some (if negative then -(Decimal.natOfDigits digits : ℤ) else Decimal.natOfDigits digits,
        rest) := by
  have hspan := Decimal.spanDigits_append hdigits hrest
  cases digits with
  | nil => exact absurd rfl hne
  | cons c digits =>
    rw [List.cons_append] at hspan ⊢
    cases negative with
    | false => simp [exponentValue?, hspan]
    | true => simp [exponentValue?, hspan]

/-- An exponent as it is written, with its sign. -/
def exponentText (value : ℤ) : List Char :=
  'e' :: (if value < 0 then '-' else '+') :: value.natAbs.repr.toList

/-- An exponent is read back. -/
theorem exponent?_exponentText (value : ℤ) {rest : List Char}
    (hrest : ∀ c ∈ rest.head?, c.isDigit = false) :
    exponent? (exponentText value ++ rest) = some (some value, rest) := by
  have hvalue := exponentValue?_append (decide (value < 0)) (Decimal.repr_ne_nil value.natAbs)
    (fun _ ↦ Decimal.isDigit_of_mem_repr) hrest
  have hsigned : (if value < 0 then -(value.natAbs : ℤ) else value.natAbs) = value := by omega
  simp only [decide_eq_true_eq, Decimal.natOfDigits_repr, hsigned] at hvalue
  unfold exponentText
  show (exponentValue? (_ :: _ ++ rest)).map _ = _
  rw [hvalue]
  rfl

/-- A number is read part by part. -/
theorem numeral?_append {whole tail middle rest : List Char} {fraction : Option (List Char)}
    {exponent : Option ℤ} (hwhole : IsWhole whole) (htail : ∀ c ∈ tail.head?, c.isDigit = false)
    (hfraction : fraction? tail = some (fraction, middle))
    (hexponent : exponent? middle = some (exponent, rest)) :
    numeral? (whole ++ tail) = some (⟨false, whole, fraction, exponent⟩, rest) := by
  have hminus : ∀ text, whole ++ tail ≠ '-' :: text := by
    intro text heq
    rcases hwhole with rfl | ⟨hne, -, hdigits⟩
    · exact absurd (List.cons.inj heq).1 (by decide)
    · obtain ⟨c, digits, rfl⟩ := List.exists_cons_of_ne_nil hne
      obtain rfl := (List.cons.inj heq).1
      exact absurd (hdigits '-' List.mem_cons_self) (by decide)
  unfold numeral?
  split
  rename_i negative text hsplit
  split at hsplit
  · rename_i heq
    exact absurd heq (hminus _)
  · obtain ⟨rfl, rfl⟩ := Prod.mk.inj hsplit
    simp [whole?_append hwhole htail, hfraction, hexponent]

/-- A minus sign in front of a number only sets its sign. -/
theorem numeral?_minus {text rest : List Char} {numeral : Numeral}
    (hpositive : numeral.negative = false) (hnumeral : numeral? text = some (numeral, rest)) :
    numeral? ('-' :: text) = some ({ numeral with negative := true }, rest) := by
  unfold numeral? at hnumeral
  split at hnumeral
  rename_i negative digits hsplit
  simp only [Option.bind_eq_bind, Option.bind_eq_some_iff, Option.pure_def, Option.some_inj,
    Prod.mk.injEq] at hnumeral
  obtain ⟨⟨whole, tail⟩, hwhole, ⟨fraction, middle⟩, hfraction, ⟨exponent, _⟩, hexponent, rfl,
    rfl⟩ := hnumeral
  split at hsplit
  · obtain ⟨rfl, -⟩ := Prod.mk.inj hsplit
    cases hpositive
  · obtain ⟨rfl, rfl⟩ := Prod.mk.inj hsplit
    simp [numeral?, hwhole, hfraction, hexponent]

theorem Denotes.minus {text : List Char} {numeral : Numeral} (hdenotes : Denotes text numeral)
    (hpositive : numeral.negative = false) :
    Denotes ('-' :: text) { numeral with negative := true } :=
  fun rest hrest ↦ numeral?_minus hpositive (hdenotes rest hrest)

/-! ### Integers -/

variable {float? : FloatReader}

theorem denotes_natRepr (n : ℕ) : Denotes n.repr.toList ⟨false, n.repr.toList, none, none⟩ := by
  intro rest hrest
  have hwhole : IsWhole n.repr.toList := by
    rw [Nat.toList_repr]
    exact isWhole_toDigits n
  exact numeral?_append hwhole (fun c hc ↦ (hrest c hc).1)
    (fraction?_none fun c hc ↦ (hrest c hc).2.1) (exponent?_none hrest)

theorem Numeral.value?_integer {negative : Bool} {whole : List Char} {number : Int64}
    (hzero : negative = true → Decimal.natOfDigits whole ≠ 0)
    (hnumber : (if negative then -(Decimal.natOfDigits whole : ℤ) else Decimal.natOfDigits whole) =
      number.toInt) :
    Numeral.value? float? ⟨negative, whole, none, none⟩ = some (.int number) := by
  have hlow : Int64.minValue.toInt ≤ number.toInt := Int64.minValue_le_toInt number
  have hhigh : number.toInt ≤ Int64.maxValue.toInt := Int64.toInt_le number
  have hplain : ¬(negative = true ∧ (Decimal.natOfDigits whole : ℤ) = 0) := by
    rintro ⟨hnegative, hmagnitude⟩
    exact hzero hnegative (Int.natCast_eq_zero.mp hmagnitude)
  simp only [Numeral.value?, hnumber, Bool.and_eq_true, decide_eq_true_eq, hplain, hlow, hhigh,
    Option.isSome_none, Bool.or_self, Bool.false_eq_true, if_false, and_self, if_true,
    Int64.ofInt_toInt]

/-- An integer is read back as an integer, however floats are read. -/
theorem exists_denotes_repr (number : Int64) :
    ∃ numeral, Denotes number.toInt.repr.toList numeral ∧
      numeral.value? float? = some (.int number) := by
  have hnatural := denotes_natRepr number.toInt.natAbs
  rw [Decimal.toList_repr_int]
  by_cases hnegative : number.toInt < 0
  · refine ⟨⟨true, number.toInt.natAbs.repr.toList, none, none⟩, ?_, Numeral.value?_integer ?_ ?_⟩
    · rw [if_pos hnegative]
      exact hnatural.minus rfl
    · rw [Decimal.natOfDigits_repr]
      exact fun _ ↦ by omega
    · rw [Decimal.natOfDigits_repr, if_pos rfl]
      omega
  · refine ⟨⟨false, number.toInt.natAbs.repr.toList, none, none⟩, ?_, Numeral.value?_integer ?_ ?_⟩
    · rw [if_neg hnegative]
      exact hnatural
    · exact fun hminus ↦ absurd hminus Bool.false_ne_true
    · rw [Decimal.natOfDigits_repr, if_neg Bool.false_ne_true]
      omega

/-! ### Floats -/

/-- The decimal number that the digits and the exponent of a number stand for. -/
def Numeral.magnitude (numeral : Numeral) : Decimal :=
  Decimal.ofParts numeral.whole (numeral.fraction.getD []) (numeral.exponent.getD 0)

/-- A text is a number without a sign, with a point or an exponent, and stands for a decimal
number. -/
def ReadsAs (text : List Char) (decimal : Decimal) : Prop :=
  ∃ numeral, Denotes text numeral ∧ numeral.negative = false ∧
    (numeral.fraction.isSome || numeral.exponent.isSome) = true ∧ numeral.magnitude = decimal

variable {decimal : Decimal}

theorem readsAs_point {whole fraction : List Char} (hwhole : IsWhole whole) (hne : fraction ≠ [])
    (hdigits : ∀ c ∈ fraction, c.isDigit = true)
    (hdecimal : Decimal.ofParts whole fraction 0 = decimal) :
    ReadsAs (whole ++ '.' :: fraction) decimal := by
  refine ⟨⟨false, whole, some fraction, none⟩, fun rest hrest ↦ ?_, rfl, rfl, hdecimal⟩
  rw [List.append_assoc]
  exact numeral?_append hwhole (forall_mem_head?_cons (by decide))
    (fraction?_point hne hdigits fun c hc ↦ (hrest c hc).1) (exponent?_none hrest)

theorem readsAs_exponent {first : List Char} {value : ℤ} (hfirst : IsWhole first)
    (hdecimal : Decimal.ofParts first [] value = decimal) :
    ReadsAs (first ++ exponentText value) decimal := by
  refine ⟨⟨false, first, none, some value⟩, fun rest hrest ↦ ?_, rfl, rfl, hdecimal⟩
  rw [List.append_assoc]
  exact numeral?_append hfirst (forall_mem_head?_cons (by decide))
    (fraction?_none (forall_mem_head?_cons (by decide)))
    (exponent?_exponentText value fun c hc ↦ (hrest c hc).1)

theorem readsAs_point_exponent {first more : List Char} {value : ℤ} (hfirst : IsWhole first)
    (hne : more ≠ []) (hdigits : ∀ c ∈ more, c.isDigit = true)
    (hdecimal : Decimal.ofParts first more value = decimal) :
    ReadsAs (first ++ '.' :: more ++ exponentText value) decimal := by
  refine ⟨⟨false, first, some more, some value⟩, fun rest hrest ↦ ?_, rfl, rfl, hdecimal⟩
  rw [List.append_assoc, List.append_assoc]
  exact numeral?_append hfirst (forall_mem_head?_cons (by decide))
    (fraction?_point hne hdigits (forall_mem_head?_cons (by decide)))
    (exponent?_exponentText value fun c hc ↦ (hrest c hc).1)

/-- A decimal number is determined by its digits and the place of its point. -/
theorem ofParts_eq {whole fraction : List Char} {exponent : ℤ}
    (hdigits : Decimal.natOfDigits (whole ++ fraction) = decimal.coefficient)
    (hexponent : exponent - fraction.length = decimal.exponent) :
    Decimal.ofParts whole fraction exponent = decimal := by
  rw [Decimal.ofParts, hdigits, hexponent]

/-- Zeros after the digits of an integer make it larger, and a zero after the point does not. -/
theorem ofParts_zeros (digits : List Char) (count : ℕ) :
    Decimal.ofParts (digits ++ List.replicate count '0') ['0'] 0 =
      ⟨Decimal.natOfDigits digits * 10 ^ (count + 1), -1⟩ := by
  have hzero : ['0'] = List.replicate 1 '0' := rfl
  rw [Decimal.ofParts, List.append_assoc, hzero, List.replicate_append_replicate,
    Decimal.natOfDigits_append, Decimal.natOfDigits_replicate_zero, List.length_replicate,
    List.length_replicate, Nat.add_zero, Nat.mul_comm]
  rfl

/-! ### The four layouts of a decimal number -/

/-- The digits of a decimal number. -/
def digitsOf (decimal : Decimal) : List Char := Nat.toDigits 10 decimal.coefficient

/-- How many digits stand before the point, if it stands among the digits. -/
def pointOf (decimal : Decimal) : ℤ := decimal.exponent + (digitsOf decimal).length

theorem natOfDigits_digitsOf (decimal : Decimal) :
    Decimal.natOfDigits (digitsOf decimal) = decimal.coefficient :=
  Decimal.natOfDigits_toDigits _

theorem digitsOf_ne_nil (decimal : Decimal) : digitsOf decimal ≠ [] := Nat.toDigits_ne_nil

theorem isDigit_of_mem_digitsOf {c : Char} (hmem : c ∈ digitsOf decimal) : c.isDigit = true :=
  Decimal.isDigit_of_mem_toDigits hmem

theorem isDigit_of_mem_zeros {count : ℕ} {c : Char} (hmem : c ∈ List.replicate count '0') :
    c.isDigit = true := by
  rw [List.eq_of_mem_replicate hmem]
  rfl

/-- The first digits of a positive number may stand before the point, with any digits after them. -/
theorem isWhole_append (hpos : 0 < decimal.coefficient) {front more : List Char} (hne : front ≠ [])
    (hstart : front <+: digitsOf decimal) (hmore : ∀ c ∈ more, c.isDigit = true) :
    IsWhole (front ++ more) := by
  obtain ⟨others, hdigits⟩ := hstart
  have hhead : (digitsOf decimal).head? ≠ some '0' := Decimal.head?_toDigits_ne hpos
  rw [← hdigits, List.head?_append_of_ne_nil _ hne] at hhead
  refine .inr ⟨List.append_ne_nil_of_left_ne_nil hne more, ?_, ?_⟩
  · rwa [List.head?_append_of_ne_nil _ hne]
  · intro c hc
    rcases List.mem_append.mp hc with hfront | hc
    · exact isDigit_of_mem_digitsOf (hdigits ▸ List.mem_append_left others hfront)
    · exact hmore c hc

theorem isWhole_front (hpos : 0 < decimal.coefficient) {front : List Char} (hne : front ≠ [])
    (hstart : front <+: digitsOf decimal) : IsWhole front := by
  have hwhole := isWhole_append hpos hne hstart (List.forall_mem_nil _)
  rwa [List.append_nil] at hwhole

/-- Digits may be split at any place among them. -/
theorem isWhole_take (hpos : 0 < decimal.coefficient) {count : ℕ} (hfirst : 0 < count)
    (hlast : count < (digitsOf decimal).length) :
    IsWhole ((digitsOf decimal).take count) ∧ (digitsOf decimal).drop count ≠ [] ∧
      ∀ c ∈ (digitsOf decimal).drop count, c.isDigit = true := by
  have htake : (digitsOf decimal).take count ≠ [] := by
    rw [Ne, List.take_eq_nil_iff, not_or]
    exact ⟨hfirst.ne', digitsOf_ne_nil decimal⟩
  have hdrop : (digitsOf decimal).drop count ≠ [] := by
    rw [Ne, List.drop_eq_nil_iff]
    omega
  exact ⟨isWhole_front hpos htake (List.take_prefix _ _), hdrop,
    fun c hc ↦ isDigit_of_mem_digitsOf (List.mem_of_mem_drop hc)⟩

/-- Zeros fill up the digits of an integer, and a point and a zero follow. -/
theorem readsAs_integer (hpos : 0 < decimal.coefficient) (count : ℕ) :
    ReadsAs (digitsOf decimal ++ List.replicate count '0' ++ ['.', '0'])
      ⟨decimal.coefficient * 10 ^ (count + 1), -1⟩ := by
  refine readsAs_point
    (isWhole_append hpos (digitsOf_ne_nil decimal) List.prefix_rfl fun _ ↦ isDigit_of_mem_zeros)
    (by simp) (by simp) ?_
  rw [ofParts_zeros, natOfDigits_digitsOf]

/-- The point stands among the digits. -/
theorem readsAs_among (hpos : 0 < decimal.coefficient) (hexponent : decimal.exponent < 0)
    (hpoint : 0 < pointOf decimal) :
    ReadsAs ((digitsOf decimal).take (pointOf decimal).toNat ++
      '.' :: (digitsOf decimal).drop (pointOf decimal).toNat) decimal := by
  have hlength : pointOf decimal = decimal.exponent + (digitsOf decimal).length := rfl
  obtain ⟨hwhole, hne, hdigits⟩ := isWhole_take hpos
    (by omega : 0 < (pointOf decimal).toNat) (by omega)
  have hvalue : Decimal.ofParts ((digitsOf decimal).take (pointOf decimal).toNat)
      ((digitsOf decimal).drop (pointOf decimal).toNat) 0 = decimal :=
    ofParts_eq (by rw [List.take_append_drop, natOfDigits_digitsOf])
      (by rw [List.length_drop]; omega)
  exact readsAs_point hwhole hne hdigits hvalue

/-- The point stands before the digits, with zeros between them. -/
theorem readsAs_before (hpoint : pointOf decimal ≤ 0) :
    ReadsAs ('0' :: '.' :: List.replicate (-pointOf decimal).toNat '0' ++ digitsOf decimal)
      decimal := by
  have hlength : pointOf decimal = decimal.exponent + (digitsOf decimal).length := rfl
  have hzeros : ['0'] ++ List.replicate (-pointOf decimal).toNat '0' =
      List.replicate ((-pointOf decimal).toNat + 1) '0' := rfl
  have hdigits : Decimal.natOfDigits
      (['0'] ++ (List.replicate (-pointOf decimal).toNat '0' ++ digitsOf decimal)) =
        decimal.coefficient := by
    rw [← List.append_assoc, hzeros, Decimal.natOfDigits_append,
      Decimal.natOfDigits_replicate_zero, natOfDigits_digitsOf, Nat.mul_zero, Nat.zero_add]
  have hvalue : Decimal.ofParts ['0']
      (List.replicate (-pointOf decimal).toNat '0' ++ digitsOf decimal) 0 = decimal :=
    ofParts_eq hdigits (by rw [List.length_append, List.length_replicate]; omega)
  exact readsAs_point (.inl rfl) (List.append_ne_nil_of_right_ne_nil _ (digitsOf_ne_nil decimal))
    (List.forall_mem_append.mpr
      ⟨fun _ ↦ isDigit_of_mem_zeros, fun _ ↦ isDigit_of_mem_digitsOf⟩) hvalue

/-- One digit stands before the point, if there is one, and an exponent follows. -/
theorem readsAs_scientific (hpos : 0 < decimal.coefficient) :
    ReadsAs ((if (digitsOf decimal).length = 1 then digitsOf decimal
      else (digitsOf decimal).take 1 ++ '.' :: (digitsOf decimal).drop 1) ++
        exponentText (pointOf decimal - 1)) decimal := by
  have hlength : pointOf decimal = decimal.exponent + (digitsOf decimal).length := rfl
  have hne := digitsOf_ne_nil decimal
  have hlong := List.length_pos_iff.mpr hne
  by_cases hsingle : (digitsOf decimal).length = 1
  · have hvalue : Decimal.ofParts (digitsOf decimal) [] (pointOf decimal - 1) = decimal :=
      ofParts_eq (by rw [List.append_nil, natOfDigits_digitsOf])
        (by rw [List.length_nil]; omega)
    rw [if_pos hsingle]
    exact readsAs_exponent (isWhole_front hpos hne List.prefix_rfl) hvalue
  · obtain ⟨hwhole, hmore, hdigits⟩ := isWhole_take hpos Nat.one_pos (by omega)
    have hvalue : Decimal.ofParts ((digitsOf decimal).take 1) ((digitsOf decimal).drop 1)
        (pointOf decimal - 1) = decimal :=
      ofParts_eq (by rw [List.take_append_drop, natOfDigits_digitsOf])
        (by rw [List.length_drop]; omega)
    rw [if_neg hsingle]
    exact readsAs_point_exponent hwhole hmore hdigits hvalue

theorem toList_exponent (point : ℤ) :
    ((if 0 < point then "e" ++ "+" else "e") ++ (point - 1).repr).toList =
      exponentText (point - 1) := by
  rw [exponentText, String.toList_append, Decimal.toList_repr_int]
  by_cases hpoint : 0 < point
  · rw [if_pos hpoint, if_neg (by omega), if_neg (by omega)]
    rfl
  · rw [if_neg hpoint, if_pos (by omega), if_pos (by omega)]
    rfl

/-- A positive decimal number is read as itself, or as the same number with zeros after its digits if
it is written as an integer. -/
theorem readsAs_render (hpos : 0 < decimal.coefficient) :
    ∃ shown, ReadsAs (decimal.render "+").toList shown ∧ shown.value = decimal.value ∧
      (shown = decimal ∨ shown.exponent < 0 ∧ shown.coefficient < UInt64.size) := by
  have hdigits : Nat.toDigits 10 decimal.coefficient = digitsOf decimal := rfl
  have hpoint : decimal.exponent + (digitsOf decimal).length = pointOf decimal := rfl
  unfold Decimal.render
  simp only [hdigits, hpoint, Bool.and_eq_true, decide_eq_true_eq]
  by_cases hinteger : 0 ≤ decimal.exponent ∧ pointOf decimal ≤ 16
  · obtain ⟨count, hcount⟩ := Int.eq_ofNat_of_zero_le hinteger.1
    rw [if_pos hinteger, String.toList_ofList, hcount]
    refine ⟨_, readsAs_integer hpos count, ?_, .inr ⟨by norm_num, ?_⟩⟩
    · rw [Decimal.value, Decimal.value, hcount, zpow_natCast, zpow_neg_one, pow_succ]
      push_cast
      field_simp
    · have hsmall :=
        (Decimal.digitCount_le_iff (Decimal.digitCount_pos decimal.coefficient)).mp le_rfl
      have hlength : pointOf decimal = decimal.exponent + Decimal.digitCount decimal.coefficient :=
        rfl
      calc decimal.coefficient * 10 ^ (count + 1)
          < 10 ^ Decimal.digitCount decimal.coefficient * 10 ^ (count + 1) :=
            Nat.mul_lt_mul_of_pos_right hsmall (Nat.pow_pos (by norm_num))
        _ = 10 ^ (Decimal.digitCount decimal.coefficient + (count + 1)) := (pow_add _ _ _).symm
        _ ≤ 10 ^ 17 := Nat.pow_le_pow_right (by norm_num) (by omega)
        _ < UInt64.size := by decide
  rw [if_neg hinteger]
  by_cases hamong : 0 < pointOf decimal ∧ pointOf decimal ≤ 16
  · rw [if_pos hamong, String.toList_ofList]
    exact ⟨decimal, readsAs_among hpos (by omega) hamong.1, rfl, .inl rfl⟩
  rw [if_neg hamong]
  by_cases hbefore : -5 < pointOf decimal ∧ pointOf decimal ≤ 0
  · rw [if_pos hbefore, String.toList_ofList]
    exact ⟨decimal, readsAs_before hbefore.2, rfl, .inl rfl⟩
  rw [if_neg hbefore, String.append_assoc, String.toList_append, String.toList_ofList,
    toList_exponent]
  exact ⟨decimal, readsAs_scientific hpos, rfl, .inl rfl⟩

/-! ### Reading a float -/

variable {number : Float}

/-- Reads a number as the nearest float. -/
def Numeral.nearest? : FloatReader := fun numeral ↦
  some (if numeral.negative then -numeral.magnitude.toFloat else numeral.magnitude.toFloat)

/-- A number whose digits fit into 64 bits is read with all of them. -/
theorem Numeral.float?_eq {numeral : Numeral}
    (hfits : numeral.magnitude.coefficient < UInt64.size) :
    numeral.float? = numeral.magnitude.stepwise?.map fun magnitude ↦
      if numeral.negative then -magnitude else magnitude := by
  rw [Numeral.float?, Decimal.ofLeadingDigits_eq hfits]
  rfl

/-- The text of a float without its sign is a number to which the magnitude of the float is the
nearest one, and which is not too large to be read. -/
theorem exists_readsAs_magnitude (hfinite : number.isFinite = true) :
    ∃ shown, ReadsAs (if (floatParts number).1 = 0 then "0.0"
        else (Decimal.shortest number).render "+").toList shown ∧
      shown.toFloat = signedFloat .positive (floatParts number).1 (floatParts number).2 ∧
        shown.coefficient < UInt64.size ∧ ∃ result, shown.stepwise? = some result := by
  by_cases hzero : (floatParts number).1 = 0
  · have hmagnitude := isMagnitude_floatParts hfinite
    have hq : (floatParts number).2 = -1074 := by
      have hleast := hmagnitude.least
      have hnormal := hmagnitude.normal
      omega
    have hread : ReadsAs (['0'] ++ ['.', '0']) ⟨0, -1⟩ :=
      readsAs_point (.inl rfl) (List.cons_ne_nil '0' []) (by simp) rfl
    rw [hzero, hq, if_pos rfl]
    exact ⟨⟨0, -1⟩, hread, Decimal.toFloat_of_value_eq_zero (by simp [Decimal.value]), by decide,
      Decimal.exists_stepwise?_of_neg (by decide)⟩
  · obtain ⟨shown, hread, hvalue, hshown⟩ :=
      readsAs_render (Decimal.coefficient_shortest_pos hfinite hzero)
    have hcontains := Decimal.contains_shortest hfinite hzero
    rw [← hvalue] at hcontains
    rw [if_neg hzero]
    refine ⟨shown, hread, Decimal.toFloat_eq_of_contains hfinite hzero hcontains, ?_⟩
    rcases hshown with rfl | ⟨hexponent, hcoefficient⟩
    · exact ⟨Decimal.coefficient_shortest_lt hfinite hzero,
        Decimal.exists_stepwise?_shortest hfinite hzero⟩
    · exact ⟨hcoefficient, Decimal.exists_stepwise?_of_neg hexponent⟩

/-- The text of a finite float is a number to which the float is the nearest one, and is read as some
float. -/
theorem exists_denotes_renderFloat (hfinite : number.isFinite = true) :
    ∃ numeral, Denotes (renderFloat "+" number).toList numeral ∧
      (numeral.fraction.isSome || numeral.exponent.isSome) = true ∧
        numeral.nearest? = some number ∧ ∃ other, numeral.float? = some other := by
  obtain ⟨shown, ⟨numeral, hdenotes, hpositive, hfloat, rfl⟩, hnearest, hfits, result, hresult⟩ :=
    exists_readsAs_magnitude hfinite
  have hnumber := eq_of_magnitude hfinite
  rw [← hnearest] at hnumber
  unfold renderFloat
  by_cases hnegative : floatIsNegative number = true
  · simp only [hnegative, if_true] at hnumber ⊢
    have hread : Numeral.float? { numeral with negative := true } = some (-result) := by
      rw [@Numeral.float?_eq { numeral with negative := true } hfits]
      show numeral.magnitude.stepwise?.map _ = _
      rw [hresult]
      rfl
    refine ⟨{ numeral with negative := true }, ?_, hfloat, congrArg some hnumber, _, hread⟩
    rw [String.toList_append]
    exact hdenotes.minus hpositive
  · simp only [hnegative, Bool.false_eq_true, if_false] at hnumber ⊢
    refine ⟨numeral, ?_, hfloat, ?_, result, ?_⟩
    · rw [String.empty_append]
      exact hdenotes
    · rw [Numeral.nearest?, hpositive, ← hnumber]
      rfl
    · rw [Numeral.float?_eq hfits, hresult, hpositive]
      rfl

end Json

end DocTree
