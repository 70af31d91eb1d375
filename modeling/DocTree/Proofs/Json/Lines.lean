import DocTree.Proofs.Json.RoundTrip
import DocTree.Proofs.Text.Trim

/-!
# JSON Lines are read back

Without an indent a value is written without a line feed (`Json.lineFeed_not_mem_write`), and its
text starts with a character that is no white space if its floats are finite
(`Json.isBlankLine_write`). So the lines of a document in JSON Lines are the texts of its elements,
and a document with an element is read back if each of them nests no deeper than the reader allows
and its floats are read back from their own texts (`exists_parseJsonLines_of_render`). The empty
array is written as an empty line, and is not read back, for there is no element to read
(`parseJsonLines_of_render_nil`).
-/

set_option autoImplicit false
set_option relaxedAutoImplicit false

namespace DocTree

/-! ### The characters of numbers -/

/-- The characters with which numbers are written. -/
def IsNumberChar (c : Char) : Prop := c.isDigit = true ∨ c ∈ ['-', '+', '.', 'e']

theorem IsNumberChar.ne_lineFeed {c : Char} (hc : IsNumberChar c) : c ≠ '\n' := by
  rintro rfl
  simp [IsNumberChar] at hc

theorem Decimal.isNumberChar_of_mem_repr {number : ℤ} :
    ∀ c ∈ number.repr.toList, IsNumberChar c := by
  intro c hc
  exact (isDigit_or_minus_of_mem_repr hc).imp id fun hminus ↦ by simp [hminus]

theorem Decimal.isNumberChar_of_mem_render (decimal : Decimal) :
    ∀ c ∈ (decimal.render "+").toList, IsNumberChar c := by
  have hdigits : ∀ c ∈ Nat.toDigits 10 decimal.coefficient, IsNumberChar c :=
    fun c hc ↦ .inl (isDigit_of_mem_toDigits hc)
  have htake : ∀ count, ∀ c ∈ (Nat.toDigits 10 decimal.coefficient).take count, IsNumberChar c :=
    fun count c hc ↦ hdigits c (List.mem_of_mem_take hc)
  have hdrop : ∀ count, ∀ c ∈ (Nat.toDigits 10 decimal.coefficient).drop count, IsNumberChar c :=
    fun count c hc ↦ hdigits c (List.mem_of_mem_drop hc)
  have hzeros : ∀ count, ∀ c ∈ List.replicate count '0', IsNumberChar c := by
    intro count c hc
    rw [List.eq_of_mem_replicate hc]
    exact .inl rfl
  have hzero : IsNumberChar '0' := .inl rfl
  have hpoint : IsNumberChar '.' := .inr (by decide)
  have hmark : ∀ c ∈ "e".toList, IsNumberChar c := by simp [IsNumberChar]
  have hplus : ∀ c ∈ "+".toList, IsNumberChar c := by simp [IsNumberChar]
  unfold render
  simp only
  -- The first three layouts have no exponent; the last has one or more digits, and a sign or none.
  split_ifs <;> simp only [String.toList_append, String.toList_ofList, List.forall_mem_append,
    List.forall_mem_cons]
  · exact ⟨⟨hdigits, hzeros _⟩, hpoint, hzero, List.forall_mem_nil _⟩
  · exact ⟨htake _, hpoint, hdrop _⟩
  · exact ⟨⟨hzero, hpoint, hzeros _⟩, hdigits⟩
  · exact ⟨⟨hdigits, hmark, hplus⟩, isNumberChar_of_mem_repr⟩
  · exact ⟨⟨hdigits, hmark⟩, isNumberChar_of_mem_repr⟩
  · exact ⟨⟨⟨htake _, hpoint, hdrop _⟩, hmark, hplus⟩, isNumberChar_of_mem_repr⟩
  · exact ⟨⟨⟨htake _, hpoint, hdrop _⟩, hmark⟩, isNumberChar_of_mem_repr⟩

theorem isNumberChar_of_mem_renderFloat (number : Float) :
    ∀ c ∈ (renderFloat "+" number).toList, IsNumberChar c := by
  unfold renderFloat
  have hsign : ∀ c ∈ (if floatIsNegative number then "-" else "").toList, IsNumberChar c := by
    split_ifs <;> simp [IsNumberChar]
  simp only [String.toList_append, List.forall_mem_append]
  refine ⟨hsign, ?_⟩
  split_ifs
  · simp [IsNumberChar]
  · exact Decimal.isNumberChar_of_mem_render _

namespace Json

/-! ### Every element has a line of its own -/

theorem lineFeed_not_mem_writeChar (c : Char) : '\n' ∉ writeChar c := by
  have hdigit : ∀ digit < 16, hexDigitChar digit ≠ '\n' := by decide
  unfold writeChar
  split_ifs with _ _ _ _ hline _ _ hcontrol
  · decide
  · decide
  · decide
  · decide
  · decide
  · decide
  · decide
  · have hcode : c.toNat < 32 := hcontrol
    have hhigh := hdigit (c.toNat / 16) (by omega)
    have hlow := hdigit (c.toNat % 16) (by omega)
    simp [hhigh.symm, hlow.symm]
  · simp [Ne.symm hline]

theorem lineFeed_not_mem_writeString (text : String) : '\n' ∉ writeString text := by
  simp [writeString, lineFeed_not_mem_writeChar]

/-- Without an indent, a value is written on one line. -/
theorem lineFeed_not_mem_write {value : Value} : ∀ depth, '\n' ∉ write 0 depth value := by
  induction value using Value.childInduction with
  | scalar value hscalar =>
    intro depth
    cases value with
    | null => simp [write]
    | bool flag => cases flag <;> simp [write]
    | int number =>
      rw [write]
      exact fun hmem ↦ (Decimal.isNumberChar_of_mem_repr _ hmem).ne_lineFeed rfl
    | float number =>
      rw [write]
      exact fun hmem ↦ (isNumberChar_of_mem_renderFloat number _ hmem).ne_lineFeed rfl
    | string text =>
      rw [write]
      exact lineFeed_not_mem_writeString text
    | array items => simp [Value.isContainer, Value.kind] at hscalar
    | object entries => simp [Value.isContainer, Value.kind] at hscalar
  | array items ih =>
    intro depth
    cases items with
    | nil => simp [write]
    | cons first items =>
      have hwrite := @write_array [] 0 depth first items
      rw [List.append_nil] at hwrite
      obtain ⟨hfirst, hitems⟩ := List.forall_mem_cons.mp ih
      rw [hwrite]
      simpa [writeItem, lineBreak, hfirst] using fun item hitem ↦ hitems item hitem _
  | object entries ih =>
    intro depth
    cases entries with
    | nil => simp [write]
    | cons first entries =>
      have hwrite := @write_object [] 0 depth first entries
      rw [List.append_nil] at hwrite
      obtain ⟨hfirst, hentries⟩ := List.forall_mem_cons.mp ih
      rw [hwrite]
      simpa [writeEntry, lineBreak, colon, lineFeed_not_mem_writeString, hfirst] using
        fun key value hentry ↦ hentries (key, value) hentry _

theorem Denotes.isBlankLine_eq_false {text : List Char} {numeral : Numeral}
    (hdenotes : Denotes text numeral) : isBlankLine text = false := by
  have hnumeral := hdenotes [] fun _ hmem ↦ nomatch hmem
  rw [List.append_nil] at hnumeral
  obtain ⟨c, more, rfl, hc⟩ := head_of_numeral? hnumeral
  have hblank : Text.isBlank c = false := by
    rcases hc with hdigit | rfl
    · exact Text.isBlank_of_isDigit hdigit
    · rfl
  simp [isBlankLine, hblank]

/-- The text of a value starts with a character that is no white space. -/
theorem isBlankLine_write {value : Value} (hfinite : value.nonFinite? = none) (depth : Nat) :
    isBlankLine (write 0 depth value) = false := by
  cases value with
  | null => rfl
  | bool flag => cases flag <;> rfl
  | int number =>
    obtain ⟨numeral, hdenotes, -⟩ := @exists_denotes_repr Numeral.float? number
    exact hdenotes.isBlankLine_eq_false
  | float number =>
    have hnumber : number.isFinite = true := by
      by_contra hinfinite
      simp [Value.nonFinite?, hinfinite] at hfinite
    obtain ⟨numeral, hdenotes, -⟩ := exists_denotes_renderFloat hnumber
    exact hdenotes.isBlankLine_eq_false
  | string text => rfl
  | array items => cases items <;> rfl
  | object entries =>
    cases entries with
    | nil => rfl
    | cons first entries => rfl

/-! ### The lines of a document -/

theorem splitLines_append_lineFeed {line : List Char} (hline : '\n' ∉ line) (rest : List Char) :
    splitLines (line ++ '\n' :: rest) = line :: splitLines rest := by
  induction line with
  | nil => rfl
  | cons c line ih =>
    obtain ⟨hc, hmore⟩ := not_or.mp (List.mem_cons.not.mp hline)
    rw [List.cons_append, splitLines, if_neg (Ne.symm hc), ih hmore]

theorem writeLines_cons (item : Value) (items : List Value) :
    writeLines (item :: items) = write 0 0 item ++ '\n' :: writeLines items := by
  rw [writeLines, List.flatMap_cons, List.append_assoc, List.singleton_append]
  rfl

/-- Values on lines of their own are split into their texts and an empty line. -/
theorem splitLines_writeLines (items : List Value) :
    splitLines (writeLines items) = items.map (write 0 0) ++ [[]] := by
  induction items with
  | nil => rfl
  | cons item items ih =>
    rw [writeLines_cons, splitLines_append_lineFeed (lineFeed_not_mem_write 0), ih, List.map_cons,
      List.cons_append]

/-- Lines with the texts of values are read as these values with their floats changed, if the text of
each of them is. -/
theorem parseLinesFrom_map {items : List Value} {change : Float → Float}
    (hread : ∀ item ∈ items, isBlankLine (write 0 0 item) = false ∧
      parseChars? (write 0 0 item) = some (item.mapFloats change)) :
    ∀ number, parseLinesFrom number (items.map (write 0 0) ++ [[]]) =
      .ok (items.map (·.mapFloats change)) := by
  induction items with
  | nil => exact fun _ ↦ rfl
  | cons item items ih =>
    intro number
    obtain ⟨⟨hline, hitem⟩, hitems⟩ := List.forall_mem_cons.mp hread
    rw [List.map_cons, List.cons_append, parseLinesFrom, hline, hitem, ih hitems]
    rfl

/-- Values on lines of their own are read line by line, with each float read as it is on its own. -/
theorem parseLines_writeLines {items : List Value} (hdistinct : ∀ item ∈ items, item.DistinctKeys)
    (hfinite : ∀ item ∈ items, item.nonFinite? = none)
    (hdepth : ∀ item ∈ items, item.depth ≤ maxDepth) :
    parseLines (.ofList (writeLines items)) = .ok (items.map (·.mapFloats reread)) := by
  rw [parseLines, String.toList_ofList, splitLines_writeLines]
  refine parseLinesFrom_map (fun item hitem ↦ ⟨isBlankLine_write (hfinite item hitem) 0, ?_⟩) 1
  have hread := parseChars?_write (hdistinct item hitem) (hfinite item hitem) 0
    (List.forall_mem_nil _)
  rwa [List.append_nil, if_pos (hdepth item hitem)] at hread

theorem endLine_writeLines {items : List Value} (hne : items ≠ []) :
    endLine (.ofList (writeLines items)) = .ofList (writeLines items) := by
  obtain rfl | ⟨front, last, rfl⟩ := List.eq_nil_or_concat' items
  · exact absurd rfl hne
  · have hlast : (String.ofList (writeLines (front ++ [last]))).toList.getLast? = some '\n' := by
      simp [writeLines]
    rw [endLine, if_pos hlast]

end Json

variable {items : List Value} {options : RenderOptions} {text : String}

theorem Value.arrange_array (items : List Value) (sorted : Bool) :
    (Value.array items).arrange sorted = .array (items.map fun item ↦ item.arrange sorted) := by
  cases sorted with
  | false => exact congrArg Value.array (List.map_id items).symm
  | true => exact congrArg Value.array (Value.sortKeysItems_eq_map items)

/-- No element changes when its floats are read, in whichever order its entries are written. -/
theorem Value.FloatsReadBack.map_arrange (hfloats : (Value.array items).FloatsReadBack)
    (hdistinct : (Value.array items).DistinctKeys) (sorted : Bool) :
    (items.map fun item ↦ item.arrange sorted).map (·.mapFloats Json.reread) =
      items.map fun item ↦ item.arrange sorted := by
  have hsame := hfloats.mapFloats_arrange hdistinct sorted
  rwa [Value.arrange_array, Value.mapFloats, Value.mapFloatsItems_eq_map, Value.array.injEq]
    at hsame

/-- What is rendered has a line for every element, with all floats finite. -/
theorem eq_endLine_of_renderJsonLines
    (hrender : Format.jsonLines.render (.array items) options = .ok text) :
    (∀ item ∈ items, (item.arrange options.sortKeys).nonFinite? = none) ∧
      text = endLine
        (.ofList (Json.writeLines (items.map fun item ↦ item.arrange options.sortKeys))) := by
  obtain ⟨body, hbody, rfl⟩ := Except.map_eq_ok_iff.mp hrender
  simp only [renderJsonLines, Value.arrange_array] at hbody
  split at hbody
  · cases hbody
  · rename_i hfinite
    rw [Value.nonFinite?, Value.nonFiniteItems?_eq_none_iff, List.forall_mem_map] at hfinite
    exact ⟨hfinite, congrArg endLine (Except.ok.inj hbody).symm⟩

theorem parseJsonLines_endLine_nil :
    parseJsonLines (endLine (.ofList (Json.writeLines []))) = .error .noLines := by
  have hline : (endLine (.ofList (Json.writeLines []))).toList = ['\n'] := by
    simp [endLine, Json.writeLines]
  rw [parseJsonLines, Json.parseLines, hline]
  rfl

theorem Value.depth_arrange (value : Value) (sorted : Bool) :
    (value.arrange sorted).depth = value.depth := by
  cases sorted with
  | false => rfl
  | true => exact depth_sortKeys value

/-- An array that is rendered in JSON Lines is read back if its floats are, it has an element, and
none nests deeper than the reader allows: exactly as it was when entries are written in the order
they have, and with the entries of every object sorted by key when they are written so. An array
without elements is written and not read back. -/
theorem exists_parseJsonLines_of_render (hdistinct : (Value.array items).DistinctKeys)
    (hfloats : (Value.array items).FloatsReadBack)
    (hrender : Format.jsonLines.render (.array items) options = .ok text) :
    (items = [] → parseJsonLines text = .error .noLines) ∧
      (items ≠ [] → (∀ item ∈ items, item.depth ≤ Json.maxDepth) →
        ∃ read, parseJsonLines text = .ok read ∧
          (options.sortKeys = false → read = .array items) ∧
            (options.sortKeys = true → (Value.array items).SortedAs read)) := by
  obtain ⟨hfinite, rfl⟩ := eq_endLine_of_renderJsonLines hrender
  refine ⟨?_, fun hne hdepth ↦ ?_⟩
  · rintro rfl
    exact parseJsonLines_endLine_nil
  · have hitems := Value.distinctKeysItems_iff.mp hdistinct
    have hread : Json.parseLines (endLine (.ofList (Json.writeLines
        (items.map fun item ↦ item.arrange options.sortKeys)))) =
          .ok (items.map fun item ↦ item.arrange options.sortKeys) := by
      rw [Json.endLine_writeLines (by simpa using hne), Json.parseLines_writeLines,
        hfloats.map_arrange hdistinct]
      · exact List.forall_mem_map.mpr fun item hitem ↦ (hitems item hitem).arrange _
      · exact List.forall_mem_map.mpr hfinite
      · refine List.forall_mem_map.mpr fun item hitem ↦ ?_
        rw [Value.depth_arrange]
        exact hdepth item hitem
    refine ⟨(Value.array items).arrange options.sortKeys, ?_, ?_, ?_⟩
    · rw [parseJsonLines, hread, Value.arrange_array]
      cases items with
      | nil => exact absurd rfl hne
      | cons first items => rfl
    · intro hkept
      rw [hkept]
      rfl
    · intro hsorted
      rw [hsorted]
      exact Value.sortedAs_sortKeys hdistinct

/-- Two elements with keys out of order and a line feed, and a float between them. -/
def journal : List Value :=
  [.object [("b", .array [.null]), ("a\n", .int (-7))], .float (Float.ofBits 0x3ff8000000000000),
    .object [("c", .object []), ("b", .bool true)]]

/-- The lines of the elements, with their keys sorted. -/
def journalText : String :=
  "\x7b\"a\\n\":-7,\"b\":[null]\x7d\n1.5\n\x7b\"b\":true,\"c\":\x7b\x7d\x7d\n"

theorem journal_sortKeys : (Value.array journal).sortKeys = .array
    [.object [("a\n", .int (-7)), ("b", .array [.null])],
      .float (Float.ofBits 0x3ff8000000000000),
        .object [("b", .bool true), ("c", .object [])]] := by
  simp [journal, Value.sortKeys, Value.sortKeysEntries, Value.sortKeysItems, Entries.sort,
    List.mergeSort]

/-- The elements are written with their keys sorted, and read back with their keys sorted. -/
theorem exists_parseJsonLines_of_render_journal :
    (Value.array journal).DistinctKeys ∧ (Value.array journal).FloatsReadBack ∧
      Format.jsonLines.render (.array journal) ⟨2, true⟩ = .ok journalText ∧
        ∃ read, parseJsonLines journalText = .ok read ∧ (Value.array journal).SortedAs read := by
  have hdistinct : (Value.array journal).DistinctKeys := by
    simp [journal, Value.DistinctKeys, Value.DistinctKeysEntries, Value.DistinctKeysItems]
  have hfloats : (Value.array journal).FloatsReadBack := by
    have hfinite : (Value.array journal).nonFinite? = none := by
      rw [← Option.isNone_iff_eq_none]
      decide +kernel
    rw [Value.floatsReadBack_iff hdistinct hfinite]
    simp [journal, Value.mapFloats, Value.mapFloatsEntries, Value.mapFloatsItems,
      Json.reread_oneAndHalf]
  have hrender : Format.jsonLines.render (.array journal) ⟨2, true⟩ = .ok journalText := by
    have harranged : Format.jsonLines.render (.array journal) ⟨2, true⟩ =
        Format.jsonLines.render (Value.array journal).sortKeys ⟨2, false⟩ := rfl
    rw [← Except.toOption_eq_some_iff, harranged, journal_sortKeys]
    decide +kernel
  have hdepth : ∀ item ∈ journal, item.depth ≤ Json.maxDepth := by decide +kernel
  obtain ⟨read, hread, -, hsorted⟩ :=
    (exists_parseJsonLines_of_render hdistinct hfloats hrender).2 (List.cons_ne_nil _ _) hdepth
  exact ⟨hdistinct, hfloats, hrender, read, hread, hsorted rfl⟩

/-- Not every array that is rendered in JSON Lines is read back, even if its floats are: the empty one
is written as an empty line, where no element can be found. -/
theorem parseJsonLines_of_render_nil :
    ¬ ∀ (items : List Value) (options : RenderOptions) (text : String),
      (Value.array items).DistinctKeys → (Value.array items).FloatsReadBack →
        Format.jsonLines.render (.array items) options = .ok text →
          ∃ read, parseJsonLines text = .ok read ∧
            (options.sortKeys = false → read = .array items) ∧
              (options.sortKeys = true → (Value.array items).SortedAs read) := by
  intro hreads
  have hrender : Format.jsonLines.render (.array []) {} =
      .ok (endLine (.ofList (Json.writeLines []))) := rfl
  have hfloats : (Value.array []).FloatsReadBack :=
    Value.everyFloat_array_iff.mpr (List.forall_mem_nil _)
  obtain ⟨read, hread, -⟩ := hreads [] {} _ trivial hfloats hrender
  rw [parseJsonLines_endLine_nil] at hread
  cases hread

end DocTree
