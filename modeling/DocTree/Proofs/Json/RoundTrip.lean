import DocTree.Format.Printer
import DocTree.Format.Reader
import DocTree.Proofs.Json.Values
import DocTree.Proofs.Outcome
import DocTree.Proofs.Value.Order
import Mathlib.Data.List.TakeWhile

/-!
# JSON documents are read back

A document that is rendered as JSON is read back as it was, or with its entries sorted when they
were written so, if each of its floats is read back from its own text
(`exists_parseJson_of_render`). Rendering refuses what the reader would refuse, so nothing that is
written is lost. Floats are read in steps that round, and some of them are read back as others. In a
document every float is then read as it is read on its own (`Json.parse?_write`).
-/

set_option autoImplicit false
set_option relaxedAutoImplicit false

namespace DocTree

namespace Json

/-! ### Floats on their own -/

variable {number : Float}

/-- The float that the text of a float is read as. -/
def reread (number : Float) : Float :=
  match parse? (renderFloat "+" number) with
  | some (.float other) => other
  | _ => number

theorem reread_eq_self (hread : parseJson (renderFloat "+" number) = .ok (.float number)) :
    reread number = number := by
  unfold parseJson at hread
  split at hread
  · rename_i value hvalue
    obtain rfl := Except.ok.inj hread
    rw [reread, hvalue]
  · cases hread

theorem readsFloats_reread : ReadsFloats Numeral.float? reread := by
  intro number hfinite
  obtain ⟨numeral, hdenotes, hfloat, -, other, hother⟩ := exists_denotes_renderFloat hfinite
  have hvalue : numeral.value? Numeral.float? = some (.float other) := by
    rw [Numeral.value?, if_pos hfloat, hother]
    rfl
  have hreread : reread number = other := by rw [reread, hdenotes.parse?_eq hvalue]
  exact ⟨numeral, hdenotes, hreread ▸ hvalue⟩

/-- A finite float is read back from its text exactly when it is not read as another one. -/
theorem parseJson_renderFloat_iff (hfinite : number.isFinite = true) :
    parseJson (renderFloat "+" number) = .ok (.float number) ↔ reread number = number := by
  refine ⟨reread_eq_self, fun hsame ↦ ?_⟩
  obtain ⟨numeral, hdenotes, hvalue⟩ := readsFloats_reread number hfinite
  rw [parseJson, hdenotes.parse?_eq hvalue, hsame]

/-- One and a half is read back. -/
theorem reread_oneAndHalf :
    reread (Float.ofBits 0x3ff8000000000000) = Float.ofBits 0x3ff8000000000000 :=
  eq_of_toNat_toBits (by decide +kernel)

/-- Not every float is read back: this one is read as the next greater one. -/
example : (reread (Float.ofBits 0x3fee3fa85468ae3c)).toBits = 0x3fee3fa85468ae3d := by
  decide +kernel

/-! ### Values -/

variable {value : Value}

/-- A text with white space at its end is read as the value it was written for, with each float read
as it is on its own, if the containers of the value nest at most `maxDepth` deep. It is refused
otherwise. -/
theorem parseChars?_write (hdistinct : value.DistinctKeys) (hfinite : value.nonFinite? = none)
    (indent : Nat) {space : List Char} (hspace : ∀ c ∈ space, isSpace c = true) :
    parseChars? (write indent 0 value ++ space) =
      if value.depth ≤ maxDepth then some (value.mapFloats reread) else none := by
  have hends : EndsNumber space := by
    cases space with
    | nil => exact fun _ hmem ↦ absurd hmem (by simp)
    | cons c space => exact endsNumber_of_isSpace (hspace c List.mem_cons_self)
  have hskip : skipSpace space = [] := by
    unfold skipSpace
    rwa [List.dropWhile_eq_nil_iff]
  unfold parseChars?
  rw [value?_write readsFloats_reread indent value hdistinct hfinite maxDepth 0 space hends]
  split_ifs
  · simp [hskip]
  · rfl

theorem parse?_write (hdistinct : value.DistinctKeys) (hfinite : value.nonFinite? = none)
    (indent : Nat) :
    parse? (.ofList (write indent 0 value)) =
      if value.depth ≤ maxDepth then some (value.mapFloats reread) else none := by
  have hchars := parseChars?_write hdistinct hfinite indent (List.forall_mem_nil _)
  rw [List.append_nil] at hchars
  rw [parse?, String.toList_ofList, hchars]

theorem parse?_endLine_write (hdistinct : value.DistinctKeys) (hfinite : value.nonFinite? = none)
    (indent : Nat) :
    parse? (endLine (.ofList (write indent 0 value))) =
      if value.depth ≤ maxDepth then some (value.mapFloats reread) else none := by
  unfold endLine
  by_cases hended : (String.ofList (write indent 0 value)).toList.getLast? = some '\n'
  · rw [if_pos hended]
    exact parse?_write hdistinct hfinite indent
  · rw [if_neg hended, parse?, String.toList_push, String.toList_ofList]
    exact parseChars?_write hdistinct hfinite indent (List.forall_mem_singleton.mpr rfl)

end Json

variable {value : Value} {options : RenderOptions} {text : String}

theorem Value.DistinctKeys.arrange (hdistinct : value.DistinctKeys) (sorted : Bool) :
    (value.arrange sorted).DistinctKeys := by
  cases sorted with
  | false => exact hdistinct
  | true => exact hdistinct.sortKeys

/-- Whether every float in a value is read back from its own text. -/
def Value.FloatsReadBack (value : Value) : Prop :=
  value.EveryFloat fun number ↦ parseJson (renderFloat "+" number) = .ok (.float number)

/-- The floats of a value are read back exactly when reading them changes none of them. -/
theorem Value.floatsReadBack_iff (hdistinct : value.DistinctKeys)
    (hfinite : value.nonFinite? = none) :
    value.FloatsReadBack ↔ value.mapFloats Json.reread = value := by
  rw [nonFinite?_eq_none_iff hdistinct] at hfinite
  rw [mapFloats_eq_self_iff hdistinct]
  exact forall₃_congr fun path number hnumber ↦
    Json.parseJson_renderFloat_iff (hfinite path number hnumber)

theorem Value.FloatsReadBack.mapFloats_arrange (hfloats : value.FloatsReadBack)
    (hdistinct : value.DistinctKeys) (sorted : Bool) :
    (value.arrange sorted).mapFloats Json.reread = value.arrange sorted := by
  rw [Value.mapFloats_arrange, (mapFloats_eq_self_iff hdistinct).mpr]
  exact fun path number hnumber ↦ Json.reread_eq_self (hfloats path number hnumber)

/-- What is rendered is the text of the arranged value, with all its floats finite and its
containers nested no deeper than the reader allows. -/
theorem eq_endLine_of_render (hrender : Format.json.render value options = .ok text) :
    (value.arrange options.sortKeys).nonFinite? = none ∧
      (Json.parse?
        (.ofList (Json.write options.indent 0 (value.arrange options.sortKeys)))).isSome ∧
      text = endLine (.ofList (Json.write options.indent 0 (value.arrange options.sortKeys))) := by
  obtain ⟨checked, hchecked, rfl⟩ := Except.map_eq_ok_iff.mp hrender
  obtain ⟨body, hbody, hcheck⟩ := Except.bind_eq_ok_iff.mp hchecked
  unfold renderJson at hbody
  simp only at hbody
  split at hbody
  · cases hbody
  · rename_i hfinite
    obtain rfl := Except.ok.inj hbody
    unfold checkJson at hcheck
    split_ifs at hcheck with hsome
    obtain rfl := Except.ok.inj hcheck
    exact ⟨hfinite, hsome, rfl⟩

/-- A document that is rendered as JSON, with any indent, is read back if its floats are: exactly as
it was when its entries are written in the order they have, and with the entries of every object
sorted by key when they are written so. -/
theorem exists_parseJson_of_render (hdistinct : value.DistinctKeys)
    (hfloats : value.FloatsReadBack)
    (hrender : Format.json.render value options = .ok text) :
    ∃ read, parseJson text = .ok read ∧ (options.sortKeys = false → read = value) ∧
      (options.sortKeys = true → value.SortedAs read) := by
  obtain ⟨hfinite, hreadable, rfl⟩ := eq_endLine_of_render hrender
  have harranged := hdistinct.arrange options.sortKeys
  rw [Json.parse?_write harranged hfinite] at hreadable
  have hdepth : (value.arrange options.sortKeys).depth ≤ Json.maxDepth := by
    by_contra hdeep
    simp [hdeep] at hreadable
  have hparse := Json.parse?_endLine_write harranged hfinite options.indent
  rw [if_pos hdepth, hfloats.mapFloats_arrange hdistinct] at hparse
  refine ⟨value.arrange options.sortKeys, ?_, ?_, ?_⟩
  · unfold parseJson
    rw [hparse]
  · intro hkept
    rw [hkept]
    rfl
  · intro hsorted
    rw [hsorted]
    exact Value.sortedAs_sortKeys hdistinct

/-- A document with an escape in a key, keys out of order, an integer and a float. -/
def readings : Value :=
  .object [("b", .array [.int (-7), .float (Float.ofBits 0x3ff8000000000000), .null]),
    ("a\n\"", .object [])]

/-- The document as it is written on one line with its keys sorted. -/
def readingsText : String := "\x7b\"a\\n\\\"\":\x7b\x7d,\"b\":[-7,1.5,null]\x7d\n"

theorem readings_sortKeys : readings.sortKeys =
    .object [("a\n\"", .object []),
      ("b", .array [.int (-7), .float (Float.ofBits 0x3ff8000000000000), .null])] := by
  simp [readings, Value.sortKeys, Value.sortKeysEntries, Value.sortKeysItems, Entries.sort,
    List.mergeSort]

/-- The document is written with its keys sorted, and read back with its keys sorted. -/
theorem exists_parseJson_of_render_readings :
    readings.DistinctKeys ∧ readings.FloatsReadBack ∧
      Format.json.render readings ⟨0, true⟩ = .ok readingsText ∧
        ∃ read, parseJson readingsText = .ok read ∧ readings.SortedAs read := by
  have hdistinct : readings.DistinctKeys := by
    simp [readings, Value.DistinctKeys, Value.DistinctKeysEntries, Value.DistinctKeysItems]
  have hfloats : readings.FloatsReadBack := by
    have hfinite : readings.nonFinite? = none := by
      rw [← Option.isNone_iff_eq_none]
      decide +kernel
    rw [Value.floatsReadBack_iff hdistinct hfinite]
    simp [readings, Value.mapFloats, Value.mapFloatsEntries, Value.mapFloatsItems,
      Json.reread_oneAndHalf]
  have hrender : Format.json.render readings ⟨0, true⟩ = .ok readingsText := by
    have harranged : Format.json.render readings ⟨0, true⟩ =
        Format.json.render readings.sortKeys ⟨0, false⟩ := rfl
    have htext : (Format.json.render readings ⟨0, true⟩).toOption = some readingsText := by
      rw [harranged, readings_sortKeys]
      decide +kernel
    cases hresult : Format.json.render readings ⟨0, true⟩ with
    | error error =>
      rw [hresult] at htext
      cases htext
    | ok text =>
      rw [hresult] at htext
      exact congrArg Except.ok (Option.some.inj htext)
  obtain ⟨read, hread, -, hsorted⟩ := exists_parseJson_of_render hdistinct hfloats hrender
  exact ⟨hdistinct, hfloats, hrender, read, hread, hsorted rfl⟩

end DocTree
