import DocTree.Proofs.Json.Number
import DocTree.Proofs.Json.Text
import DocTree.Proofs.Value.Floats

/-!
# Values are read back from JSON

A value is read back from its text with any indent, whatever ends it, if its containers nest no
deeper than the reader allows, and is refused otherwise (`value?_write`). What is read back is the
value with each float changed into the one that the text of the float is read as, which depends on
how floats are read (`ReadsFloats`). The proof is by induction on the value: the text of a container
is read thing by thing (`listOf_flatMap`), and each thing ends where a comma, white space or a
closing character follows.
-/

set_option autoImplicit false
set_option relaxedAutoImplicit false

namespace DocTree.Json

variable {rest text : List Char} {indent depth limit : Nat} {float? : FloatReader}
  {change : Float → Float}

/-! ### White space -/

theorem skipSpace_append {space : List Char} (hspace : ∀ c ∈ space, isSpace c = true) :
    skipSpace (space ++ text) = skipSpace text := List.dropWhile_append_of_pos hspace

theorem skipSpace_cons {c : Char} (hc : isSpace c = false) : skipSpace (c :: text) = c :: text :=
  List.dropWhile_cons_of_neg (by simp [hc])

theorem isSpace_of_mem_lineBreak {c : Char} (hc : c ∈ lineBreak indent depth) :
    isSpace c = true := by
  unfold lineBreak at hc
  split_ifs at hc with hindent
  · exact absurd hc List.not_mem_nil
  · rcases List.mem_cons.mp hc with rfl | hc
    · rfl
    · rw [List.eq_of_mem_replicate hc]
      rfl

theorem skipSpace_lineBreak : skipSpace (lineBreak indent depth ++ text) = skipSpace text :=
  skipSpace_append fun _ ↦ isSpace_of_mem_lineBreak

theorem value?_append {space : List Char} (hspace : ∀ c ∈ space, isSpace c = true) :
    value? float? limit (space ++ text) = value? float? limit text := by
  cases limit <;> simp only [value?, valueWith, skipSpace_append hspace]

theorem endsNumber_of_isSpace {c : Char} (hc : isSpace c = true) : EndsNumber (c :: rest) := by
  refine forall_mem_head?_cons ?_
  simp only [isSpace, Bool.or_eq_true, decide_eq_true_eq] at hc
  rcases hc with ((rfl | rfl) | rfl) | rfl <;> decide

/-! ### Lists of things -/

/-- The characters that close containers. -/
def IsClosing (c : Char) : Prop := c = ']' ∨ c = '\x7d'

theorem IsClosing.isSpace_eq_false {c : Char} (hc : IsClosing c) : isSpace c = false := by
  rcases hc with rfl | rfl <;> rfl

theorem IsClosing.endsNumber {c : Char} (hc : IsClosing c) : EndsNumber (c :: rest) := by
  refine forall_mem_head?_cons ?_
  rcases hc with rfl | rfl <;> decide

theorem IsClosing.ne_comma {c : Char} (hc : IsClosing c) : c ≠ ',' := by
  rcases hc with rfl | rfl <;> decide

theorem IsClosing.endsNumber_append {c : Char} (hc : IsClosing c) {space : List Char}
    (hspace : ∀ c ∈ space, isSpace c = true) : EndsNumber (space ++ c :: rest) := by
  cases space with
  | nil => exact hc.endsNumber
  | cons first space => exact endsNumber_of_isSpace (hspace first List.mem_cons_self)

section List

variable {α β : Type} {close : Char} {one : Reader β} {put : α → List Char} {image : α → β}
  {good : α → Prop} [DecidablePred good] {space : List Char}

/-- Things with commas between them are read one after another, until one is refused. -/
theorem listOf_flatMap (hclose : IsClosing close) (hspace : ∀ c ∈ space, isSpace c = true)
    (items : List α) : ∀ (first : α) (room : List Char),
    (∀ item ∈ first :: items, ∀ tail, EndsNumber tail →
      one (put item ++ tail) = if good item then some (image item, tail) else none) →
    items.length < room.length →
    listOf close one room
        (put first ++ (items.flatMap (fun item ↦ ',' :: put item) ++ (space ++ close :: rest))) =
      if ∀ item ∈ first :: items, good item then some ((first :: items).map image, rest)
      else none := by
  induction items with
  | nil =>
    intro first room hone hroom
    obtain ⟨other, room, rfl⟩ := List.exists_cons_of_length_pos hroom
    rw [List.flatMap_nil, List.nil_append, listOf,
      hone first List.mem_cons_self _ (hclose.endsNumber_append hspace)]
    by_cases hgood : good first
    · simp only [hgood, if_true, skipSpace_append hspace, skipSpace_cons hclose.isSpace_eq_false,
        List.forall_mem_singleton, List.map_singleton]
    · simp only [hgood, if_false, List.forall_mem_singleton]
  | cons second items ih =>
    intro first room hone hroom
    obtain ⟨other, room, rfl⟩ := List.exists_cons_of_length_pos (Nat.zero_lt_of_lt hroom)
    have hrest := ih second room (fun item hitem ↦ hone item (List.mem_cons_of_mem _ hitem))
      (by simpa using hroom)
    rw [List.flatMap_cons, List.append_assoc, List.cons_append, listOf,
      hone first List.mem_cons_self _ (forall_mem_head?_cons (by decide))]
    by_cases hgood : good first
    · have hcomma : isSpace ',' = false := rfl
      simp only [hgood, if_true, skipSpace_cons hcomma, hclose.ne_comma.symm, if_false, hrest,
        List.forall_mem_cons, true_and]
      split_ifs <;> rfl
    · simp only [hgood, if_false, List.forall_mem_cons, false_and]

/-- The things of a container are read, if the first of them does not look like its end. -/
theorem members_flatMap (hclose : IsClosing close) (hspace : ∀ c ∈ space, isSpace c = true)
    {first : α} {items : List α}
    (hone : ∀ item ∈ first :: items, ∀ tail, EndsNumber tail →
      one (put item ++ tail) = if good item then some (image item, tail) else none)
    (hfirst : ∀ tail, EndsNumber tail →
      ∃ c more, skipSpace (put first ++ tail) = c :: more ∧ c ≠ close) :
    members close one
        (put first ++ (items.flatMap (fun item ↦ ',' :: put item) ++ (space ++ close :: rest))) =
      if ∀ item ∈ first :: items, good item then some ((first :: items).map image, rest)
      else none := by
  have hends :
      EndsNumber (items.flatMap (fun item ↦ ',' :: put item) ++ (space ++ close :: rest)) := by
    cases items with
    | nil => exact hclose.endsNumber_append hspace
    | cons second items => exact forall_mem_head?_cons (by decide)
  obtain ⟨c, more, hskip, hc⟩ := hfirst _ hends
  have hlength : items.length ≤ (items.flatMap (fun item ↦ ',' :: put item)).length :=
    length_le_length_flatMap (fun _ ↦ List.cons_ne_nil _ _) items
  unfold members
  rw [hskip]
  simp only [hc, if_false]
  refine listOf_flatMap hclose hspace items first _ hone ?_
  simp only [List.length_append, List.length_cons]
  omega

end List

/-! ### Scalars -/

/-- A number starts with a digit or a minus sign. -/
theorem head_of_numeral? {numeral : Numeral} (hnumeral : numeral? text = some (numeral, rest)) :
    ∃ c more, text = c :: more ∧ (c.isDigit = true ∨ c = '-') := by
  cases text with
  | nil => simp [numeral?, whole?, Decimal.spanDigits] at hnumeral
  | cons c more =>
    refine ⟨c, more, rfl, ?_⟩
    by_cases hminus : c = '-'
    · exact .inr hminus
    · by_cases hdigit : c.isDigit = true
      · exact .inl hdigit
      · have hzero : c ≠ '0' := by
          rintro rfl
          exact hdigit rfl
        simp [numeral?, whole?, Decimal.spanDigits, hminus, hdigit, hzero] at hnumeral

/-- The text of a scalar starts with a character that no container starts or ends with, and is read
as a scalar. -/
structure ScalarText (float? : FloatReader) (text : List Char) (value : Value)
    (rest : List Char) : Prop where
  head : ∃ c more, text = c :: more ∧ isSpace c = false ∧ c ≠ '[' ∧ c ≠ '\x7b' ∧ ¬IsClosing c
  read : scalar? float? text = some (value, rest)

theorem scalarText_of_numeral? {numeral : Numeral} {value : Value}
    (hnumeral : numeral? text = some (numeral, rest))
    (hvalue : numeral.value? float? = some value) : ScalarText float? text value rest := by
  obtain ⟨c, more, rfl, hc⟩ := head_of_numeral? hnumeral
  have hapart : ∀ other ∈ [' ', '\n', '\t', '\r', '[', ']', '\x7b', '\x7d', 'n', 't', 'f', '"'],
      other.isDigit = false ∧ other ≠ '-' := by simp
  have hne : ∀ other ∈ [' ', '\n', '\t', '\r', '[', ']', '\x7b', '\x7d', 'n', 't', 'f', '"'],
      c ≠ other := by
    rintro other hother rfl
    obtain ⟨hdigit, hminus⟩ := hapart c hother
    rcases hc with hc | hc
    · rw [hdigit] at hc
      cases hc
    · exact hminus hc
  simp only [List.forall_mem_cons] at hne
  obtain ⟨hblank, hline, htab, hreturn, hopen, hclose, hbrace, hunbrace, hn, ht, hf, hquote⟩ := hne
  refine ⟨⟨c, more, rfl, ?_, hopen, hbrace, not_or.mpr ⟨hclose, hunbrace⟩⟩, ?_⟩
  · simp [isSpace, hblank, hline, htab, hreturn]
  · simp [scalar?, hn, ht, hf, hquote, hnumeral, hvalue]

/-- The text of every finite float is read as the changed float. -/
def ReadsFloats (float? : FloatReader) (change : Float → Float) : Prop :=
  ∀ number : Float, number.isFinite = true →
    ∃ numeral, Denotes (renderFloat "+" number).toList numeral ∧
      numeral.value? float? = some (.float (change number))

/-- If numbers are read as the nearest floats, then floats are read back as they were. -/
theorem readsFloats_nearest : ReadsFloats Numeral.nearest? id := by
  intro number hfinite
  obtain ⟨numeral, hdenotes, hfloat, hnearest, -⟩ := exists_denotes_renderFloat hfinite
  refine ⟨numeral, hdenotes, ?_⟩
  rw [Numeral.value?, if_pos hfloat, hnearest]
  rfl

theorem scalarText_write {value : Value} (hreads : ReadsFloats float? change)
    (hscalar : value.isContainer = false) (hfinite : value.nonFinite? = none)
    (hrest : EndsNumber rest) :
    ScalarText float? (write indent depth value ++ rest) (value.mapFloats change) rest := by
  cases value with
  | null => exact ⟨⟨'n', _, rfl, rfl, by decide, by decide, by simp [IsClosing]⟩, rfl⟩
  | bool flag =>
    cases flag with
    | false => exact ⟨⟨'f', _, rfl, rfl, by decide, by decide, by simp [IsClosing]⟩, rfl⟩
    | true => exact ⟨⟨'t', _, rfl, rfl, by decide, by decide, by simp [IsClosing]⟩, rfl⟩
  | int number =>
    obtain ⟨numeral, hdenotes, hvalue⟩ := @exists_denotes_repr float? number
    rw [write]
    exact scalarText_of_numeral? (hdenotes rest hrest) hvalue
  | float number =>
    have hnumber : number.isFinite = true := by
      by_contra hinfinite
      simp [Value.nonFinite?, hinfinite] at hfinite
    obtain ⟨numeral, hdenotes, hvalue⟩ := hreads number hnumber
    rw [write]
    exact scalarText_of_numeral? (hdenotes rest hrest) hvalue
  | string text =>
    refine ⟨⟨'"', _, rfl, rfl, by decide, by decide, by simp [IsClosing]⟩, ?_⟩
    have hstring := @string?_writeString rest text
    rw [write]
    show (string? (writeString text ++ rest)).map _ = _
    rw [hstring]
    rfl
  | array items => exact absurd hscalar (by simp [Value.isContainer, Value.kind])
  | object entries => exact absurd hscalar (by simp [Value.isContainer, Value.kind])

/-! ### Containers -/

/-- An element on its own line. -/
def writeItem (indent depth : Nat) (item : Value) : List Char :=
  lineBreak indent depth ++ write indent depth item

/-- An entry on its own line. -/
def writeEntry (indent depth : Nat) (entry : String × Value) : List Char :=
  lineBreak indent depth ++ (writeString entry.1 ++ (colon indent ++ write indent depth entry.2))

theorem writeItems_eq_flatMap (items : List Value) :
    writeItems indent depth items =
      items.flatMap fun item ↦ ',' :: writeItem indent depth item := by
  induction items with
  | nil => rfl
  | cons item items ih =>
    rw [writeItems, ih, List.flatMap_cons, writeItem, List.cons_append, List.cons_append]

theorem writeEntries_eq_flatMap (entries : Entries Value) :
    writeEntries indent depth entries =
      entries.flatMap fun entry ↦ ',' :: writeEntry indent depth entry := by
  induction entries with
  | nil => rfl
  | cons entry rest ih =>
    obtain ⟨key, value⟩ := entry
    rw [writeEntries, ih, List.flatMap_cons, writeEntry]
    simp only [List.cons_append, List.append_assoc]

theorem write_array (first : Value) (items : List Value) :
    write indent depth (.array (first :: items)) ++ rest =
      '[' :: (writeItem indent (depth + 1) first ++
        (items.flatMap (fun item ↦ ',' :: writeItem indent (depth + 1) item) ++
          (lineBreak indent depth ++ ']' :: rest))) := by
  rw [write, writeItems_eq_flatMap, writeItem]
  simp only [List.cons_append, List.append_assoc, List.nil_append]

theorem write_object (first : String × Value) (entries : Entries Value) :
    write indent depth (.object (first :: entries)) ++ rest =
      '\x7b' :: (writeEntry indent (depth + 1) first ++
        (entries.flatMap (fun entry ↦ ',' :: writeEntry indent (depth + 1) entry) ++
          (lineBreak indent depth ++ '\x7d' :: rest))) := by
  obtain ⟨key, value⟩ := first
  rw [write, writeEntries_eq_flatMap, writeEntry]
  simp only [List.cons_append, List.append_assoc, List.nil_append]

/-- The text of a value starts with a character that is no white space and closes no container. -/
theorem head_write {value : Value} (hfinite : value.nonFinite? = none) (hrest : EndsNumber rest) :
    ∃ c more, write indent depth value ++ rest = c :: more ∧ isSpace c = false ∧ ¬IsClosing c := by
  cases value with
  | array items =>
    cases items with
    | nil => exact ⟨'[', _, rfl, rfl, by simp [IsClosing]⟩
    | cons first items => exact ⟨'[', _, write_array first items, rfl, by simp [IsClosing]⟩
  | object entries =>
    cases entries with
    | nil => exact ⟨'\x7b', _, rfl, rfl, by simp [IsClosing]⟩
    | cons first entries => exact ⟨'\x7b', _, write_object first entries, rfl, by simp [IsClosing]⟩
  | _ =>
    obtain ⟨c, more, htext, hspace, -, -, hclose⟩ :=
      (scalarText_write readsFloats_nearest rfl hfinite hrest).head
    exact ⟨c, more, htext, hspace, hclose⟩

/-- A value is read back with its floats changed, unless its containers nest too deep. -/
def ReadsBack (float? : FloatReader) (change : Float → Float) (limit indent : Nat)
    (value : Value) : Prop :=
  ∀ depth rest, EndsNumber rest → value? float? limit (write indent depth value ++ rest) =
    if value.depth ≤ limit then some (value.mapFloats change, rest) else none

theorem valueWith_of_head {child? : Option (Reader Value)} {c : Char} (hspace : isSpace c = false)
    (hopen : c ≠ '[') (hbrace : c ≠ '\x7b') :
    valueWith float? child? (c :: text) = scalar? float? (c :: text) := by
  unfold valueWith
  rw [skipSpace_cons hspace]
  split
  · rename_i heq
    exact absurd (List.cons.inj heq).1 hopen
  · rename_i heq
    exact absurd (List.cons.inj heq).1 hbrace
  · rfl

theorem ScalarText.value?_eq {value : Value} (htext : ScalarText float? text value rest)
    (limit : Nat) : value? float? limit text = some (value, rest) := by
  obtain ⟨c, more, rfl, hspace, hopen, hbrace, -⟩ := htext.head
  cases limit with
  | zero => exact (valueWith_of_head hspace hopen hbrace).trans htext.read
  | succ limit => exact (valueWith_of_head hspace hopen hbrace).trans htext.read

/-- A text that is a number is read as the value of that number. -/
theorem Denotes.parse?_eq {text : String} {numeral : Numeral} {value : Value}
    (hdenotes : Denotes text.toList numeral)
    (hvalue : numeral.value? Numeral.float? = some value) : parse? text = some value := by
  have hends : EndsNumber [] := fun _ hmem ↦ nomatch hmem
  have hread := (scalarText_of_numeral? (hdenotes [] hends) hvalue).value?_eq maxDepth
  rw [List.append_nil] at hread
  simp [parse?, parseChars?, hread, skipSpace]

theorem readsBack_of_scalar {value : Value} (hreads : ReadsFloats float? change)
    (hscalar : value.isContainer = false) (hfinite : value.nonFinite? = none) :
    ReadsBack float? change limit indent value := by
  intro depth rest hrest
  have hdepth := Value.depth_eq_zero hscalar
  rw [if_pos (by omega)]
  exact (scalarText_write hreads hscalar hfinite hrest).value?_eq limit

theorem value?_zero_array : value? float? 0 ('[' :: text) = none := rfl

theorem value?_succ_array : value? float? (limit + 1) ('[' :: text) =
    (members ']' (value? float? limit) text).map fun (items, rest) ↦ (.array items, rest) := by
  show ((members ']' (value? float? limit) text).bind fun (items, rest) ↦ _) = _
  cases members ']' (value? float? limit) text <;> rfl

theorem value?_zero_object : value? float? 0 ('\x7b' :: text) = none := rfl

theorem value?_succ_object : value? float? (limit + 1) ('\x7b' :: text) =
    (members '\x7d' (entry (value? float? limit)) text).map fun (pairs, rest) ↦
      (.object (Entries.ofList pairs), rest) := by
  show ((members '\x7d' (entry (value? float? limit)) text).bind fun (pairs, rest) ↦ _) = _
  cases members '\x7d' (entry (value? float? limit)) text <;> rfl

theorem readsBack_array {items : List Value} (hfinite : ∀ item ∈ items, item.nonFinite? = none)
    (hitems : ∀ limit, ∀ item ∈ items, ReadsBack float? change limit indent item) :
    ReadsBack float? change limit indent (.array items) := by
  intro depth rest hrest
  have hdepth : (Value.array items).depth = Value.depthItems items + 1 := by rw [Value.depth]
  rw [Value.mapFloats, Value.mapFloatsItems_eq_map]
  cases limit with
  | zero =>
    rw [if_neg (by omega)]
    cases items with
    | nil => rfl
    | cons first items => rw [write_array, value?_zero_array]
  | succ limit =>
    simp only [hdepth, Nat.add_le_add_iff_right, Value.depthItems_le_iff]
    cases items with
    | nil =>
      rw [if_pos (List.forall_mem_nil _)]
      rfl
    | cons first items =>
      have hone : ∀ item ∈ first :: items, ∀ tail, EndsNumber tail →
          value? float? limit (writeItem indent (depth + 1) item ++ tail) =
            if item.depth ≤ limit then some (item.mapFloats change, tail) else none := by
        intro item hitem tail htail
        rw [writeItem, List.append_assoc, value?_append fun _ ↦ isSpace_of_mem_lineBreak]
        exact hitems limit item hitem (depth + 1) tail htail
      have hfirst : ∀ tail, EndsNumber tail → ∃ c more,
          skipSpace (writeItem indent (depth + 1) first ++ tail) = c :: more ∧ c ≠ ']' := by
        intro tail htail
        obtain ⟨c, more, hwrite, hspace, hclose⟩ :=
          @head_write tail indent (depth + 1) first (hfinite first List.mem_cons_self) htail
        refine ⟨c, more, ?_, fun heq ↦ hclose (.inl heq)⟩
        rw [writeItem, List.append_assoc, skipSpace_lineBreak, hwrite, skipSpace_cons hspace]
      rw [write_array, value?_succ_array, members_flatMap (.inl rfl)
        (fun _ ↦ isSpace_of_mem_lineBreak) hone hfirst]
      split_ifs <;> rfl

theorem entry_writeEntry {pair : String × Value}
    (hvalue : ReadsBack float? change limit indent pair.2) (hrest : EndsNumber rest) :
    entry (value? float? limit) (writeEntry indent depth pair ++ rest) =
      if pair.2.depth ≤ limit then some ((pair.1, pair.2.mapFloats change), rest) else none := by
  obtain ⟨space, hspace, hcolon⟩ :
      ∃ space : List Char, (∀ c ∈ space, isSpace c = true) ∧ colon indent = ':' :: space := by
    unfold colon
    split_ifs
    · exact ⟨[], List.forall_mem_nil _, rfl⟩
    · exact ⟨[' '], List.forall_mem_singleton.mpr rfl, rfl⟩
  have hread := hvalue depth rest hrest
  have hquote {tail : List Char} :
      skipSpace (writeString pair.1 ++ tail) = writeString pair.1 ++ tail := skipSpace_cons rfl
  have hmark {tail : List Char} : skipSpace (':' :: tail) = ':' :: tail := skipSpace_cons rfl
  unfold entry writeEntry
  rw [List.append_assoc, skipSpace_lineBreak, List.append_assoc, hquote, string?_writeString,
    hcolon]
  simp only [Option.bind_eq_bind, Option.bind_some, List.cons_append, List.append_assoc, hmark,
    value?_append hspace, hread]
  split_ifs <;> rfl

theorem readsBack_object {entries : Entries Value} (hdistinct : entries.keys.Nodup)
    (hentries : ∀ limit, ∀ entry ∈ entries, ReadsBack float? change limit indent entry.2) :
    ReadsBack float? change limit indent (.object entries) := by
  intro depth rest hrest
  have hdepth : (Value.object entries).depth = Value.depthEntries entries + 1 := by rw [Value.depth]
  have hkeys : (Entries.keys (Value.mapFloatsEntries change entries)).Nodup := by
    rwa [Value.keys_mapFloatsEntries]
  rw [Value.mapFloatsEntries_eq_map] at hkeys
  rw [Value.mapFloats, Value.mapFloatsEntries_eq_map]
  cases limit with
  | zero =>
    rw [if_neg (by omega)]
    cases entries with
    | nil => rfl
    | cons first entries => rw [write_object, value?_zero_object]
  | succ limit =>
    simp only [hdepth, Nat.add_le_add_iff_right, Value.depthEntries_le_iff]
    cases entries with
    | nil =>
      rw [if_pos (List.forall_mem_nil _)]
      rfl
    | cons first entries =>
      have hone : ∀ pair ∈ first :: entries, ∀ tail, EndsNumber tail →
          entry (value? float? limit) (writeEntry indent (depth + 1) pair ++ tail) =
            if pair.2.depth ≤ limit then some ((pair.1, pair.2.mapFloats change), tail)
            else none :=
        fun pair hpair tail htail ↦ entry_writeEntry (hentries limit pair hpair) htail
      have hfirst : ∀ tail, EndsNumber tail → ∃ c more,
          skipSpace (writeEntry indent (depth + 1) first ++ tail) = c :: more ∧ c ≠ '\x7d' := by
        intro tail htail
        rw [writeEntry, List.append_assoc, skipSpace_lineBreak]
        exact ⟨'"', _, skipSpace_cons rfl, by decide⟩
      rw [write_object, value?_succ_object, members_flatMap (.inr rfl)
        (fun _ ↦ isSpace_of_mem_lineBreak) hone hfirst]
      split_ifs
      · show some (Value.object (Entries.ofList _), rest) = _
        rw [Entries.ofList_eq_self hkeys]
      · rfl

/-- A value with distinct keys is read back from its text with its floats changed, with any indent
and whatever ends it, if its containers nest at most `limit` deep, and is refused otherwise. -/
theorem value?_write (hreads : ReadsFloats float? change) (indent : Nat) (value : Value)
    (hdistinct : value.DistinctKeys) (hfinite : value.nonFinite? = none) :
    ∀ limit, ReadsBack float? change limit indent value := by
  induction value using Value.childInduction with
  | scalar value hscalar => exact fun limit ↦ readsBack_of_scalar hreads hscalar hfinite
  | array items ih =>
    rw [Value.DistinctKeys, Value.distinctKeysItems_iff] at hdistinct
    rw [Value.nonFinite?, Value.nonFiniteItems?_eq_none_iff] at hfinite
    exact fun limit ↦ readsBack_array hfinite fun limit item hitem ↦
      ih item hitem (hdistinct item hitem) (hfinite item hitem) limit
  | object entries ih =>
    rw [Value.DistinctKeys, Value.distinctKeysEntries_iff] at hdistinct
    rw [Value.nonFinite?, Value.nonFiniteEntries?_eq_none_iff] at hfinite
    exact fun limit ↦ readsBack_object hdistinct.1 fun limit entry hentry ↦
      ih entry hentry (hdistinct.2 entry hentry) (hfinite entry hentry) limit

end DocTree.Json
