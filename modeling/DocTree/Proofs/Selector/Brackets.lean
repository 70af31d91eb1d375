import DocTree.Proofs.Query.Interval
import DocTree.Proofs.Query.RoundTrip
import DocTree.Proofs.Selector.Components
import DocTree.Proofs.Selector.Compose

/-!
# Queries between brackets

A selector that is nothing but a query between brackets reaches in a list the values that the query
finds in it (`Value.getAll_brackets`). The text between the brackets is told apart once more before
it is read as a query, a range or an index, so each form is followed on both sides: a query and a
range are the same filter as without brackets, and an index is the range of one position. An index
may be too large for a range, but then it is behind the end of the list.
-/

set_option autoImplicit false
set_option relaxedAutoImplicit false

namespace DocTree

variable {predicate : Option NativePredicate} {candidates : List Value} {position : Nat}

/-- A number is read as the range of one position, unless it is out of the range of `Int64`. -/
theorem Range.parse_digits {text : List Char} (hne : text ≠ [])
    (hdigits : ∀ c ∈ text, c.isDigit = true) :
    parse text =
      if Decimal.natOfDigits text < 2 ^ 63 then
        .ok (single (Int64.ofNat (Decimal.natOfDigits text)))
      else .error (.invalidRange (String.ofList text)) := by
  have hnumber : int64OfText? text =
      if Decimal.natOfDigits text < 2 ^ 63 then some (Int64.ofNat (Decimal.natOfDigits text))
      else none := by
    have hread : Decimal.signedInt? text = some (Decimal.natOfDigits text : Int) :=
      Decimal.signedInt?_of_digits hne hdigits
    have hfits : Int64.minValue.toInt ≤ Decimal.natOfDigits text ∧
        (Decimal.natOfDigits text : Int) ≤ Int64.maxValue.toInt ↔
          Decimal.natOfDigits text < 2 ^ 63 := by
      rw [Int64.toInt_minValue, Int64.toInt_maxValue]
      omega
    simp only [int64OfText?, hread, hfits]
    rfl
  by_cases hfits : Decimal.natOfDigits text < 2 ^ 63
  · have hnonneg : ¬ Int64.ofNat (Decimal.natOfDigits text) < 0 := by
      rw [Int64.lt_iff_toInt_lt, Int64.toInt_ofNat_of_lt hfits, Int64.toInt_zero]
      omega
    rw [if_pos hfits] at hnumber ⊢
    simp [parse, Text.trim_of_digits hdigits, hne, hasDots_of_digits hdigits, hnumber, hnonneg]
  · rw [if_neg hfits] at hnumber ⊢
    simp [parse, Text.trim_of_digits hdigits, hne, hasDots_of_digits hdigits, hnumber]

/-! ### What a query and a filter find in a list -/

namespace Query

/-- The values that a query chooses from some candidates; none if it cannot be run. -/
def valuesIn (predicate : Option NativePredicate) (candidates : List Value) (query : Query) :
    List Value :=
  match query.positions predicate candidates with
  | .ok positions => positions.filterMap (candidates[·]?)
  | .error _ => []

/-- The values that the text of a query finds; none if it cannot be read or run. -/
def find (predicate : Option NativePredicate) (candidates : List Value) (text : String) :
    List Value :=
  match run predicate candidates text with
  | .ok found => found.values
  | .error _ => []

theorem find_eq (predicate : Option NativePredicate) (candidates : List Value) (text : String) :
    find predicate candidates text =
      match parse text with
      | .ok query => query.valuesIn predicate candidates
      | .error _ => [] := by
  cases hparse : parse text with
  | error error => simp [find, run, hparse, bind, Except.bind]
  | ok query =>
    cases hrun : query.positions predicate candidates <;>
      simp [find, run, valuesIn, hparse, hrun, bind, Except.bind, pure, Except.pure]

/-- The range of one position finds the value there. -/
theorem valuesIn_single (hlength : candidates.length < 2 ^ 63) (hposition : position < 2 ^ 63) :
    (Query.node (.range (.single (Int64.ofNat position)))).valuesIn predicate candidates =
      candidates[position]?.toList := by
  simp only [valuesIn, positions, Range.resolve_single hlength hposition]
  split_ifs with hwithin
  · cases hitem : candidates[position]? <;> simp [hitem]
  · rw [List.getElem?_eq_none (Nat.not_lt.mp hwithin)]
    rfl

/-- A text that starts like no other query is read as a range. -/
theorem parseChars_of_not_startsQuery {text : List Char}
    (hstart : Selector.startsQuery (Text.trim text) = false) :
    parseChars text =
      (Range.parse (Text.trim text)).map fun range ↦ .node (.range range) := by
  unfold parseChars
  dsimp only
  split
  · rename_i heq
    rw [heq] at hstart
    cases hstart
  · rename_i heq
    rw [heq] at hstart
    cases hstart
  · rfl

end Query

namespace Filter

/-- The values that a filter reaches in a list; none if it fails. -/
def valuesIn (predicate : Option NativePredicate) (items : List Value) (filter : Filter) :
    List Value :=
  match filter.expand predicate (.ofRoot (.array items)) with
  | .ok records => records.filterMap Record.source
  | .error _ => []

theorem filterMap_source_elementsAt (record : Record) (items : List Value)
    (positions : List Nat) :
    (elementsAt record items positions).filterMap Record.source =
      positions.filterMap (items[·]?) := by
  rw [elementsAt, List.filterMap_map]
  rfl

theorem valuesIn_elementQuery (items : List Value) (query : Query) :
    (Filter.elementQuery query).valuesIn predicate items = query.valuesIn predicate items := by
  cases hrun : query.positions predicate items <;>
    simp [valuesIn, Query.valuesIn, expand, hrun, Record.ofRoot, Except.mapError, Except.map,
      filterMap_source_elementsAt]

theorem valuesIn_range (items : List Value) (bounds : Range) :
    (Filter.range bounds).valuesIn predicate items =
      (Query.node (.range bounds)).valuesIn predicate items :=
  filterMap_source_elementsAt _ items _

theorem valuesIn_index (items : List Value) (position : Nat) :
    (Filter.index position).valuesIn predicate items = items[position]?.toList := by
  cases hitem : items[position]? <;> simp [valuesIn, expand, Record.ofRoot, Record.child, hitem]

end Filter

/-! ### Queries between brackets -/

namespace Selector

theorem parse_brackets {text : String} (hslash : '/' ∉ text.toList) :
    parse ("[" ++ text ++ "]") =
      (bracketFilter ('[' :: (text.toList ++ [']'])) text.toList).map ([·]) := by
  have hchars : ("[" ++ text ++ "]").toList = '[' :: (text.toList ++ [']']) := by simp
  have hpiece : ∀ c ∈ '[' :: (text.toList ++ [']']), c ≠ '/' := by
    rintro c hc rfl
    exact hslash (by simpa using hc)
  have hcomponent : componentFilters ('[' :: (text.toList ++ [']'])) =
      (bracketFilter ('[' :: (text.toList ++ [']'])) text.toList).map ([·]) := by
    have hsplit := splitComponent_brackets keyPart_nil text.toList
    rw [List.nil_append] at hsplit
    rw [componentFilters, List.isEmpty_cons, parseComponent_eq, hsplit]
    cases hinside : bracketFilter ('[' :: (text.toList ++ [']'])) text.toList <;>
      simp [Except.mapError, Except.bind, Except.map, keyFilters, bracketFilters, hinside]
  rw [parse, hchars, parseChars, splitAtSlashes_of_forall_ne hpiece, parseComponents_cons,
    hcomponent]
  cases bracketFilter ('[' :: (text.toList ++ [']'])) text.toList <;>
    simp [parseComponents, Except.bind, Except.map]

end Selector

theorem Value.getAll_of_parse_brackets {text : String} (hslash : '/' ∉ text.toList)
    (predicate : Option NativePredicate) (items : List Value) :
    (Value.array items).getAll predicate ("[" ++ text ++ "]") =
      match Selector.bracketFilter ('[' :: (text.toList ++ [']'])) text.toList with
      | .ok filter => filter.valuesIn predicate items
      | .error _ => [] := by
  have hparse := Selector.parse_brackets hslash
  cases hfilter : Selector.bracketFilter ('[' :: (text.toList ++ [']'])) text.toList with
  | error error =>
    rw [hfilter] at hparse
    simp [getAll, select, hparse, Except.map, bind, Except.bind]
  | ok filter =>
    rw [hfilter] at hparse
    rw [getAll, select_eq_resolve hparse, Selector.resolve]
    change _ = filter.valuesIn predicate items
    unfold Filter.valuesIn
    cases hexpand : filter.expand predicate (.ofRoot (.array items)) with
    | error error =>
      simp [Selector.resolveFrom, Filter.expandAll, hexpand, bind, Except.bind]
    | ok records =>
      rw [Selector.resolveFrom_cons hexpand]
      rfl

/-- Whether a text has the form of a query: it starts like a filter or a native query, it holds two
points in a row, or it is a number. -/
inductive Query.Formed (text : List Char) : Prop where
  | filter (hstart : ['?', '('] <+: text)
  | native (hstart : ['?', '\x7b'] <+: text)
  | range (hdots : ['.', '.'] <:+: text)
  | position (hne : text ≠ []) (hdigits : ∀ c ∈ text, c.isDigit = true)

namespace Selector

variable {component inside : List Char}

/-- A filter or a native query between brackets is read as the query that it is without them. -/
theorem bracketFilter_query (hstart : startsQuery (Text.trim inside) = true) :
    bracketFilter component inside =
      ((Query.parseChars inside).mapError (.query (String.ofList component))).map
        .elementQuery := by
  rw [bracketFilter]
  simp only [hstart, if_true]
  rw [queryIn, Query.parseChars_trim]

/-- A range between brackets is read as the range that it is without them. -/
theorem bracketFilter_range (hstart : startsQuery (Text.trim inside) = false)
    (hdots : Range.hasDots (Text.trim inside) = true) :
    bracketFilter component inside =
      ((Range.parse (Text.trim inside)).mapError (.query (String.ofList component))).map
        .range := by
  simp [bracketFilter, hstart, hdots]

end Selector

/-- A selector that is a query between brackets reaches in a list the values that the query finds in
it, and none when the query cannot be read or run. A list that is kept in memory is shorter than
`2 ^ 63`. -/
theorem Value.getAll_brackets {text : String} (hslash : '/' ∉ text.toList)
    (hform : Query.Formed (Text.trim text.toList)) (predicate : Option NativePredicate)
    (hlength : candidates.length < 2 ^ 63) :
    (Value.array candidates).getAll predicate ("[" ++ text ++ "]") =
      Query.find predicate candidates text := by
  rw [getAll_of_parse_brackets hslash, Query.find_eq, Query.parse]
  by_cases hstart : Selector.startsQuery (Text.trim text.toList) = true
  · rw [Selector.bracketFilter_query hstart]
    cases Query.parseChars text.toList with
    | error error => rfl
    | ok query => exact Filter.valuesIn_elementQuery candidates query
  rw [Bool.not_eq_true] at hstart
  rw [Query.parseChars_of_not_startsQuery hstart]
  by_cases hdots : Range.hasDots (Text.trim text.toList) = true
  · rw [Selector.bracketFilter_range hstart hdots]
    cases Range.parse (Text.trim text.toList) with
    | error error => rfl
    | ok bounds => exact Filter.valuesIn_range candidates bounds
  obtain ⟨hne, hdigits⟩ : Text.trim text.toList ≠ [] ∧
      ∀ c ∈ Text.trim text.toList, c.isDigit = true := by
    cases hform with
    | filter hfilter =>
      rw [Selector.startsQuery_of_prefix (.inl hfilter)] at hstart
      cases hstart
    | native hnative =>
      rw [Selector.startsQuery_of_prefix (.inr hnative)] at hstart
      cases hstart
    | range hrange => exact absurd (Range.hasDots_of_infix hrange) hdots
    | position hne hdigits => exact ⟨hne, hdigits⟩
  rw [Selector.bracketFilter_digits hne hdigits, Range.parse_digits hne hdigits]
  generalize Decimal.natOfDigits (Text.trim text.toList) = position
  by_cases hposition : position < 2 ^ 63
  · have hindex : position < Selector.indexBound := hposition.trans (by decide)
    rw [if_pos hposition, if_pos hindex]
    exact (Filter.valuesIn_index candidates position).trans
      (Query.valuesIn_single hlength hposition).symm
  · rw [if_neg hposition]
    -- An index from `2 ^ 63` on is read between brackets only, but is behind the end of the list.
    have hmissing : candidates[position]? = none := List.getElem?_eq_none (by omega)
    split_ifs with hindex
    · change (Filter.index position).valuesIn predicate candidates = []
      rw [Filter.valuesIn_index, hmissing]
      rfl
    · rfl

/-- A bracket in a query closes nothing, and an index may be too large for a range. -/
theorem Value.getAll_brackets_letters :
    (Value.array [.string "a]", .string "b"]).getAll none ("[" ++ " ?(@=a]) " ++ "]") =
        [.string "a]"] ∧
      (Value.array [.string "a]", .string "b"]).getAll none
        ("[" ++ "9223372036854775808" ++ "]") = [] := by
  constructor
  · have hparse : Query.parse " ?(@=a]) " =
        .ok (.node (.condition ⟨none, .equal, ⟨.text "a]", "a]", none⟩⟩)) := by
      with_unfolding_all rfl
    rw [getAll_brackets (by decide) (.filter (by decide)) none (by decide), Query.find_eq, hparse]
    rfl
  · have hdigits : (Text.trim "9223372036854775808".toList).all Char.isDigit = true := by decide
    have hform := Query.Formed.position (by decide) (List.all_eq_true.mp hdigits)
    rw [getAll_brackets (by decide) hform none (by decide)]
    with_unfolding_all rfl

end DocTree
