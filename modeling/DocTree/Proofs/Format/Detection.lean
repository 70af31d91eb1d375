import DocTree.Proofs.Json.Lines
import DocTree.Proofs.Text.Encoding

/-!
# The format of a document is found out

Bytes do not say which format they are in, and `Value.ofBytes` takes the first one that fits. What
is rendered as JSON is read as JSON, and what is rendered in JSON Lines is read line by line unless
there is just one line (`ofBytes_of_render`). What is read is what was rendered as far as its floats
are read back from their own texts. Rendered documents are no gzip files, for no text starts like
one. After the first of two or more lines there is a character that is no white space,
so these lines are no JSON document (`parse?_writeLines_eq_none`). A single line is a JSON document
of its own, so an array with one element is read as that element.
-/

set_option autoImplicit false
set_option relaxedAutoImplicit false

namespace DocTree

namespace Json

variable {value first second : Value} {items : List Value}

/-- A value whose text is read, perhaps with other floats. -/
structure Readable (value : Value) : Prop where
  distinct : value.DistinctKeys
  finite : value.nonFinite? = none
  depth_le : value.depth ≤ maxDepth

theorem Readable.arrange (hvalue : Readable value) (sorted : Bool) :
    Readable (value.arrange sorted) := by
  refine ⟨hvalue.distinct.arrange sorted, ?_, (value.depth_arrange sorted).trans_le hvalue.depth_le⟩
  cases sorted with
  | false => exact hvalue.finite
  | true => exact Value.nonFinite?_sortKeys_eq_none_iff.mpr hvalue.finite

/-! ### Lines are read as JSON only if there is one -/

/-- A value that something other than white space follows is no JSON document. -/
theorem parseChars?_write_eq_none (hvalue : Readable value) {more : List Char}
    (hmore : skipSpace more ≠ []) : parseChars? (write 0 0 value ++ '\n' :: more) = none := by
  have hread := value?_write readsFloats_reread 0 value hvalue.distinct hvalue.finite maxDepth 0
    ('\n' :: more) (endsNumber_of_isSpace rfl)
  have hskip : skipSpace ('\n' :: more) = skipSpace more := rfl
  rw [if_pos hvalue.depth_le] at hread
  simp [parseChars?, hread, hskip, hmore]

theorem skipSpace_writeLines_ne_nil (hvalue : Readable value) (items : List Value) :
    skipSpace (writeLines (value :: items)) ≠ [] := by
  obtain ⟨c, more, hwrite, hspace, -⟩ :=
    @head_write ('\n' :: writeLines items) 0 0 value hvalue.finite (endsNumber_of_isSpace rfl)
  rw [writeLines_cons, hwrite, skipSpace_cons hspace]
  exact List.cons_ne_nil c more

/-- Two or more values on lines of their own are no JSON document. -/
theorem parse?_writeLines_eq_none (hfirst : Readable first) (hsecond : Readable second)
    (items : List Value) : parse? (.ofList (writeLines (first :: second :: items))) = none := by
  rw [parse?, String.toList_ofList, writeLines_cons]
  exact parseChars?_write_eq_none hfirst (skipSpace_writeLines_ne_nil hsecond items)

/-- One value on a line of its own is a JSON document. -/
theorem parse?_writeLines_singleton (hvalue : Readable value) :
    parse? (.ofList (writeLines [value])) = some (value.mapFloats reread) := by
  have hspace : ∀ c ∈ ['\n'], isSpace c = true := List.forall_mem_singleton.mpr rfl
  have hread := parseChars?_write hvalue.distinct hvalue.finite 0 hspace
  rw [if_pos hvalue.depth_le] at hread
  rw [parse?, String.toList_ofList, writeLines_cons]
  exact hread

end Json

namespace Value

variable {value : Value} {items : List Value} {options : RenderOptions} {text : String}

/-- The document that is found on lines with these values: a single one is taken for itself, and any
other number of them for their array. -/
def ofLines : List Value → Value
  | [item] => item
  | items => array items

theorem DistinctKeys.ofLines (hdistinct : (array items).DistinctKeys) :
    (ofLines items).DistinctKeys := by
  unfold Value.ofLines
  split
  · exact (distinctKeysItems_iff.mp hdistinct) _ List.mem_cons_self
  · exact hdistinct

theorem arrange_ofLines (items : List Value) (sorted : Bool) :
    (ofLines items).arrange sorted = ofLines (items.map (·.arrange sorted)) := by
  match items with
  | [] => exact arrange_array [] sorted
  | [item] => rfl
  | first :: second :: items => exact arrange_array (first :: second :: items) sorted

/-- A single line is read as JSON. Two or more are no JSON and are read as JSON Lines. -/
theorem parse_writeLines (hne : items ≠ []) (hitems : ∀ item ∈ items, Json.Readable item) :
    (items.length = 1 → parseJson (.ofList (Json.writeLines items)) =
        .ok (ofLines (items.map (·.mapFloats Json.reread)))) ∧
      (2 ≤ items.length → parseJson (.ofList (Json.writeLines items)) = .error .json ∧
        parseJsonLines (.ofList (Json.writeLines items)) =
          .ok (ofLines (items.map (·.mapFloats Json.reread)))) := by
  match items with
  | [] => exact absurd rfl hne
  | [item] =>
    refine ⟨fun _ ↦ ?_, fun htwo ↦ absurd htwo (by simp)⟩
    rw [parseJson, Json.parse?_writeLines_singleton (hitems item List.mem_cons_self)]
    rfl
  | first :: second :: items =>
    obtain ⟨hfirst, hmore⟩ := List.forall_mem_cons.mp hitems
    refine ⟨fun hone ↦ absurd hone (by simp), fun _ ↦ ⟨?_, ?_⟩⟩
    · rw [parseJson, Json.parse?_writeLines_eq_none hfirst (hmore second List.mem_cons_self)]
    · rw [parseJsonLines, Json.parseLines_writeLines (fun item hitem ↦ (hitems item hitem).distinct)
        (fun item hitem ↦ (hitems item hitem).finite) fun item hitem ↦ (hitems item hitem).depth_le]
      rfl

/-! ### What is rendered is read in its format -/

theorem ofText?_of_parseJson (hjson : parseJson text = .ok value) : ofText? text = some value := by
  rw [ofText?, hjson]
  rfl

theorem ofText?_of_parseJsonLines {error : ParseError} (hjson : parseJson text = .error error)
    (hlines : parseJsonLines text = .ok value) : ofText? text = some value := by
  rw [ofText?, hjson, hlines]
  rfl

theorem ofText?_writeLines (hne : items ≠ []) (hitems : ∀ item ∈ items, Json.Readable item) :
    ofText? (.ofList (Json.writeLines items)) =
      some (ofLines (items.map (·.mapFloats Json.reread))) := by
  obtain ⟨hone, hmore⟩ := parse_writeLines hne hitems
  rcases Nat.lt_or_ge items.length 2 with hlength | hlength
  · have hpos := List.length_pos_iff.mpr hne
    exact ofText?_of_parseJson (hone (by omega))
  · exact ofText?_of_parseJsonLines (hmore hlength).1 (hmore hlength).2

/-- What is rendered as JSON is a JSON document. -/
theorem exists_parseJson_of_renderJson (hdistinct : value.DistinctKeys)
    (hrender : Format.json.render value options = .ok text) :
    ∃ read, parseJson text = .ok read := by
  obtain ⟨hfinite, hreadable, rfl⟩ := eq_endLine_of_render hrender
  have harranged := hdistinct.arrange options.sortKeys
  obtain ⟨read, hread⟩ := Option.isSome_iff_exists.mp hreadable
  rw [Json.parse?_write harranged hfinite,
    ← Json.parse?_endLine_write harranged hfinite options.indent] at hread
  exact ⟨read, by rw [parseJson, hread]⟩

/-- An array of readable values, with at least one, is rendered in JSON Lines as their lines. -/
theorem render_jsonLines_array (hne : items ≠ []) (hitems : ∀ item ∈ items, Json.Readable item)
    (options : RenderOptions) : Format.jsonLines.render (.array items) options =
      .ok (.ofList (Json.writeLines (items.map (·.arrange options.sortKeys)))) := by
  have hfinite : (array (items.map (·.arrange options.sortKeys))).nonFinite? = none := by
    rw [nonFinite?, nonFiniteItems?_eq_none_iff, List.forall_mem_map]
    exact fun item hitem ↦ ((hitems item hitem).arrange _).finite
  have hlines : renderJsonLines (.array items) options =
      .ok (.ofList (Json.writeLines (items.map (·.arrange options.sortKeys)))) := by
    simp only [renderJsonLines, arrange_array, hfinite, Json.lineValues]
  rw [Format.render, hlines]
  exact congrArg Except.ok (Json.endLine_writeLines (by simpa using hne))

/-- The bytes of a document that was rendered as JSON are read as the text is read as JSON. Those of
an array that was rendered in JSON Lines are read as its element if it has just one, for that line
is JSON, and as the array if it has more, in JSON Lines because they are no JSON. If its floats are
read back from their own texts, then the entries of every object are sorted by key if they were
written so, and nothing else is changed. An array is rendered and read if it has an element, its
floats are finite and no element nests deeper than the reader allows. -/
theorem ofBytes_of_render :
    (∀ (value : Value) (options : RenderOptions) (text : String), value.DistinctKeys →
      Format.json.render value options = .ok text →
        ∃ read, parseJson text = .ok read ∧ ofBytes (bytesOfText text) = .ok read) ∧
      ∀ (items : List Value) (options : RenderOptions), items ≠ [] →
        (array items).DistinctKeys → (array items).FiniteFloats →
        (∀ item ∈ items, item.depth ≤ Json.maxDepth) →
          ∃ text read, Format.jsonLines.render (.array items) options = .ok text ∧
            ofBytes (bytesOfText text) = .ok read ∧
            ((array items).FloatsReadBack →
              (options.sortKeys = false → read = ofLines items) ∧
                (options.sortKeys = true → (ofLines items).SortedAs read)) ∧
            (items.length = 1 → parseJson text = .ok read) ∧
            (2 ≤ items.length →
              parseJson text = .error .json ∧ parseJsonLines text = .ok read) := by
  refine ⟨fun value options text hdistinct hrender ↦ ?_,
    fun items options hne hdistinct hfinite hdepth ↦ ?_⟩
  · obtain ⟨read, hread⟩ := exists_parseJson_of_renderJson hdistinct hrender
    exact ⟨read, hread, ofBytes_bytesOfText (ofText?_of_parseJson hread)⟩
  · rw [← nonFinite?_eq_none_iff hdistinct, nonFinite?, nonFiniteItems?_eq_none_iff] at hfinite
    have hitems : ∀ item ∈ items, Json.Readable item := fun item hitem ↦
      ⟨distinctKeysItems_iff.mp hdistinct item hitem, hfinite item hitem, hdepth item hitem⟩
    have hwritten : ∀ item ∈ items.map (·.arrange options.sortKeys),
        Json.Readable item :=
      List.forall_mem_map.mpr fun item hitem ↦ (hitems item hitem).arrange _
    have hsome : (items.map (·.arrange options.sortKeys)) ≠ [] := by simpa using hne
    obtain ⟨hone, hmore⟩ := parse_writeLines hsome hwritten
    have hread := ofBytes_bytesOfText (ofText?_writeLines hsome hwritten)
    rw [List.length_map] at hone hmore
    refine ⟨_, _, render_jsonLines_array hne hitems options, hread, fun hfloats ↦ ?_, hone, hmore⟩
    rw [hfloats.map_arrange hdistinct, ← arrange_ofLines]
    constructor
    · intro hkept
      rw [hkept]
      rfl
    · intro hsorted
      rw [hsorted]
      exact sortedAs_sortKeys hdistinct.ofLines

/-- Two rows, one of them with its keys out of order. -/
def rows : List Value :=
  [.object [("b", .float (Float.ofBits 0x3ff8000000000000)), ("a", .null)], .array [.int 1]]

/-- Rows in JSON Lines are no JSON and are read as the array they were, with their keys sorted. An
array with one row is read as that row, as if the row had been rendered as JSON. -/
theorem ofBytes_of_render_rows :
    (∃ text read, Format.jsonLines.render (.array rows) ⟨2, true⟩ = .ok text ∧
      parseJson text = .error .json ∧ ofBytes (bytesOfText text) = .ok read ∧
        (array rows).SortedAs read) ∧
      (∃ text, Format.jsonLines.render (.array [.array [.int 1]]) ⟨2, false⟩ = .ok text ∧
        ofBytes (bytesOfText text) = .ok (.array [.int 1])) ∧
      ∃ read, parseJson "[1]\n" = .ok read ∧ ofBytes (bytesOfText "[1]\n") = .ok read := by
  obtain ⟨hjson, hlines⟩ := ofBytes_of_render
  refine ⟨?_, ?_, ?_⟩
  · have hdistinct : (array rows).DistinctKeys := by
      simp [rows, DistinctKeys, DistinctKeysEntries, DistinctKeysItems]
    have hfinite : (array rows).nonFinite? = none := by
      rw [← Option.isNone_iff_eq_none]
      decide +kernel
    have hfloats : (array rows).FloatsReadBack := by
      rw [floatsReadBack_iff hdistinct hfinite]
      simp [rows, mapFloats, mapFloatsEntries, mapFloatsItems, Json.reread_oneAndHalf]
    obtain ⟨text, read, hrender, hread, hkept, -, hmore⟩ :=
      hlines rows ⟨2, true⟩ (List.cons_ne_nil _ _) hdistinct
        ((nonFinite?_eq_none_iff hdistinct).mp hfinite) (by decide +kernel)
    exact ⟨text, read, hrender, (hmore (Nat.le_refl 2)).1, hread, (hkept hfloats).2 rfl⟩
  · have hdistinct : (array [.array [.int 1]]).DistinctKeys := by
      simp [DistinctKeys, DistinctKeysItems]
    have hfloats : (array [.array [.int 1]]).FloatsReadBack :=
      (floatsReadBack_iff hdistinct rfl).mpr rfl
    obtain ⟨text, read, hrender, hread, hkept, -⟩ :=
      hlines [.array [.int 1]] ⟨2, false⟩ (List.cons_ne_nil _ _) hdistinct
        ((nonFinite?_eq_none_iff hdistinct).mp rfl) (by decide +kernel)
    rw [(hkept hfloats).1 rfl] at hread
    exact ⟨text, hrender, hread⟩
  · refine hjson (.array [.int 1]) ⟨0, false⟩ "[1]\n" ?_ ?_
    · simp [DistinctKeys, DistinctKeysItems]
    · rw [← Except.toOption_eq_some_iff]
      decide +kernel

end Value

end DocTree
