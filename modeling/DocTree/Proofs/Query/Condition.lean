import DocTree.Proofs.Text.Trim
import DocTree.Query.Condition

/-!
# Conditions as they are written

`Condition.Printable` says what keeps the parts of a condition apart once it is written: its
property is a run of property characters, and its raw value has no white space at its ends. Reading
such a text gives back the condition, with the literal and the pattern that the raw value denotes
(`Condition.parse_render`). The text has no parenthesis and no connective (`plain_of_mem_render`),
so that a group can hold it.
-/

set_option autoImplicit false
set_option relaxedAutoImplicit false

namespace DocTree

/-- A character that neither opens or closes a group nor connects two conditions. -/
def Query.Plain (c : Char) : Prop := c ≠ '(' ∧ c ≠ ')' ∧ c ≠ '&' ∧ c ≠ '|'

instance : DecidablePred Query.Plain := fun c ↦
  inferInstanceAs (Decidable (c ≠ '(' ∧ c ≠ ')' ∧ c ≠ '&' ∧ c ≠ '|'))

namespace Text

/-- In the ASCII range letters and numerals are the usual ones. -/
theorem isAlphanumeric_of_ascii {c : Char} (hascii : c.toNat ≤ 0x7f) :
    isAlphanumeric c = c.isAlphanum := by
  have hbeyond : decide (0x7f < c.toNat) = false := decide_eq_false (by omega)
  rw [isAlphanumeric, hbeyond, Bool.false_and, Bool.or_false]

end Text

namespace Condition

/-- Whether a condition can be written so that its parts can be told apart. -/
structure Printable (condition : Condition) : Prop where
  property_ne : condition.property ≠ some ""
  property_chars : ∀ name, condition.property = some name →
    ∀ c ∈ name.toList, isPropertyChar c = true
  raw_ne : condition.expected.raw ≠ ""
  raw_trimmed : Text.Trimmed condition.expected.raw.toList
  raw_plain : ∀ c ∈ condition.expected.raw.toList, Query.Plain c
  /-- What a condition looks for has to be a regular expression. -/
  compiles : condition.comparison = .matching →
    (Pattern.compile? condition.expected.raw).isSome

/-- The condition with the literal and the pattern that its raw value denotes. -/
def coerced (condition : Condition) : Condition :=
  { condition with
    expected :=
      { literal := .ofText condition.expected.raw.toList
        raw := condition.expected.raw
        pattern :=
          if condition.comparison = .matching then Pattern.compile? condition.expected.raw
          else none } }

/-- Whether a condition expects what its raw value denotes. Only a condition that looks for a match
has a pattern, and that was made from the raw value. -/
structure FollowsRaw (condition : Condition) : Prop where
  literal : condition.expected.literal = .ofText condition.expected.raw.toList
  pattern : condition.expected.pattern.map Pattern.source =
    if condition.comparison = .matching then some condition.expected.raw else none

/-! ### The characters of a condition -/

theorem isPropertyChar_of_ascii {c : Char} (hascii : c.toNat ≤ 0x7f) :
    isPropertyChar c = (c.isAlphanum || c = '_' || c = '-') := by
  rw [isPropertyChar, Text.isAlphanumeric_of_ascii hascii]

theorem plain_of_isPropertyChar {c : Char} (hc : isPropertyChar c = true) : Query.Plain c := by
  refine ⟨?_, ?_, ?_, ?_⟩ <;> rintro rfl <;>
    rw [isPropertyChar_of_ascii (by decide)] at hc <;> exact absurd hc (by decide)

theorem isPropertyChar_blank : isPropertyChar ' ' = false := by
  rw [isPropertyChar_of_ascii (by decide)]
  decide

theorem plain_of_mem_sign {comparison : Comparison} {c : Char} (hmem : c ∈ comparison.sign) :
    Query.Plain c := by
  have hsign : comparison.sign.all (fun c ↦ decide (Query.Plain c)) = true := by
    cases comparison <;> rfl
  exact of_decide_eq_true (List.all_eq_true.mp hsign c hmem)

variable {condition : Condition}

theorem plain_of_mem_render (hprintable : condition.Printable) {c : Char}
    (hmem : c ∈ condition.render) : Query.Plain c := by
  have hblank : Query.Plain ' ' := by simp [Query.Plain]
  simp only [render, List.mem_cons, List.mem_append] at hmem
  rcases hmem with ((rfl | hproperty) | rfl | hsign) | rfl | hraw
  · simp [Query.Plain]
  · cases hname : condition.property with
    | none =>
      rw [hname] at hproperty
      cases hproperty
    | some name =>
      rw [hname, List.mem_cons] at hproperty
      rcases hproperty with rfl | hchar
      · simp [Query.Plain]
      · exact plain_of_isPropertyChar (hprintable.property_chars name hname c hchar)
  · exact hblank
  · exact plain_of_mem_sign hsign
  · exact hblank
  · exact hprintable.raw_plain c hraw

theorem toList_raw_ne_nil (hprintable : condition.Printable) :
    condition.expected.raw.toList ≠ [] := fun hnil ↦
  hprintable.raw_ne (String.toList_eq_nil_iff.mp hnil)

/-- A condition begins with the sign of the candidate and ends with its value. -/
theorem trimmed_render (hprintable : condition.Printable) : Text.Trimmed condition.render := by
  constructor
  · intro c hc
    obtain rfl : '@' = c := by simpa [render] using hc
    decide
  · intro c hc
    have hlast : condition.render.getLast? = condition.expected.raw.toList.getLast? := by
      rw [render, List.getLast?_append, List.getLast?_cons]
      cases hraw : condition.expected.raw.toList.getLast? with
      | none => exact absurd (List.getLast?_eq_none_iff.mp hraw) (toList_raw_ne_nil hprintable)
      | some last => simp
    exact hprintable.raw_trimmed.2 c (hlast ▸ hc)

/-! ### Reading a condition -/

theorem comparison?_sign (comparison : Comparison) (rest : List Char) :
    comparison? (comparison.sign ++ ' ' :: rest) = some (comparison, ' ' :: rest) := by
  cases comparison <;> rfl

theorem source_of_compile? {source : String} {pattern : Pattern}
    (hcompile : Pattern.compile? source = some pattern) : pattern.source = source := by
  simp only [Pattern.compile?] at hcompile
  split at hcompile
  · split at hcompile
    · exact congrArg Pattern.source (Option.some_inj.mp hcompile).symm
    · cases hcompile
  · cases hcompile

theorem followsRaw_coerced (hprintable : condition.Printable) : condition.coerced.FollowsRaw := by
  refine ⟨rfl, ?_⟩
  unfold coerced
  split
  · rename_i hmatching
    obtain ⟨pattern, hpattern⟩ := Option.isSome_iff_exists.mp (hprintable.compiles hmatching)
    rw [hpattern, Option.map_some, source_of_compile? hpattern]
  · rfl

theorem expectedOf_raw (hprintable : condition.Printable) :
    expectedOf condition.comparison condition.expected.raw.toList =
      .ok condition.coerced.expected := by
  simp only [expectedOf, coerced, String.ofList_toList]
  split
  · rename_i hmatching
    obtain ⟨pattern, hpattern⟩ := Option.isSome_iff_exists.mp (hprintable.compiles hmatching)
    simp [hpattern]
  · rfl

/-- The white space around a sign keeps it from running into the value. -/
theorem parseComparison_render (hprintable : condition.Printable) (source : List Char) :
    parseComparison source condition.property
      (' ' :: condition.comparison.sign ++ ' ' :: condition.expected.raw.toList) =
        .ok condition.coerced := by
  have hstart : ∀ rest, Text.trimStart (' ' :: condition.comparison.sign ++ rest) =
      condition.comparison.sign ++ rest := by
    intro rest
    cases condition.comparison <;> rfl
  have hraw : Text.trim (' ' :: condition.expected.raw.toList) =
      condition.expected.raw.toList := by
    rw [Text.trim_cons_of_blank (by decide),
      Text.trim_eq_self_iff.mpr hprintable.raw_trimmed]
  have hne : condition.expected.raw.toList.isEmpty = false := by
    simpa using toList_raw_ne_nil hprintable
  simp only [parseComparison, hstart, comparison?_sign, hraw, hne, expectedOf_raw hprintable]
  rfl

/-- Reading the text of a condition gives back the condition. -/
theorem parse_render (hprintable : condition.Printable) :
    parse condition.render = .ok condition.coerced := by
  have htrim : Text.trim condition.render = condition.render :=
    Text.trim_eq_self_iff.mpr (trimmed_render hprintable)
  have hread := parseComparison_render hprintable condition.render
  cases hname : condition.property with
  | none =>
    have hrender : condition.render =
        '@' :: (' ' :: condition.comparison.sign ++ ' ' :: condition.expected.raw.toList) := by
      simp [render, hname]
    rw [hname, hrender] at hread
    rw [hrender] at htrim ⊢
    simp only [parse, htrim]
    exact hread
  | some name =>
    have hchars := hprintable.property_chars name hname
    have hrender : condition.render = '@' :: '.' :: (name.toList ++
        (' ' :: condition.comparison.sign ++ ' ' :: condition.expected.raw.toList)) := by
      simp [render, hname]
    have htake : (name.toList ++ (' ' :: condition.comparison.sign ++
        ' ' :: condition.expected.raw.toList)).takeWhile isPropertyChar = name.toList := by
      rw [List.takeWhile_append_of_pos hchars, List.cons_append,
        List.takeWhile_cons_of_neg (by simp [isPropertyChar_blank]), List.append_nil]
    have hdrop : (name.toList ++ (' ' :: condition.comparison.sign ++
        ' ' :: condition.expected.raw.toList)).dropWhile isPropertyChar =
          ' ' :: condition.comparison.sign ++ ' ' :: condition.expected.raw.toList := by
      rw [List.dropWhile_append_of_pos hchars, List.cons_append,
        List.dropWhile_cons_of_neg (by simp [isPropertyChar_blank])]
    have hne : name.toList.isEmpty = false := by
      have hproperty := hprintable.property_ne
      rw [hname] at hproperty
      simpa using hproperty
    rw [hname, hrender] at hread
    rw [hrender] at htrim ⊢
    simp only [parse, htrim, htake, hdrop, hne, String.ofList_toList]
    exact hread

theorem parse_of_trim_eq {text source : List Char} (htrim : Text.trim text = Text.trim source) :
    parse text = parse source := by
  simp only [parse, htrim]

/-- White space around the text of a condition has no meaning. -/
theorem parse_pad (hprintable : condition.Printable) {front back : List Char}
    (hfront : ∀ c ∈ front, Text.isBlank c = true) (hback : ∀ c ∈ back, Text.isBlank c = true) :
    parse (front ++ condition.render ++ back) = .ok condition.coerced := by
  have htrimmed := trimmed_render hprintable
  rw [← parse_render hprintable]
  exact parse_of_trim_eq ((Text.trim_pad hfront hback htrimmed).trans
    (Text.trim_eq_self_iff.mpr htrimmed).symm)

end Condition

end DocTree
