import DocTree.Proofs.Query.Inline
import DocTree.Proofs.Selector.Components

/-!
# Selectors as they are written

`Filter.render` writes one filter, in brackets unless it chooses keys, and `Selector.Written` says
which texts are written for a list of filters: each filter is a component of its own, or two are one
component when the second is in brackets and the first is not, and slashes may be added everywhere.
Every such text is read as the filters that it was written for (`Selector.parse_written`).

A component is read in two steps. Its key part ends where no bracket in a query is mistaken for the
one behind it, because the brackets of a query are counted (`Selector.keyPart_query`). What the two
parts are read as does not depend on what the other is (`Filter.keyFilters_source`,
`Filter.bracketFilters_source`).
-/

set_option autoImplicit false
set_option relaxedAutoImplicit false

namespace DocTree

variable {gap : List Char}

/-! ### Key parts that are queries -/

namespace Selector

/-- Two parts of a text with more text in front of the first. -/
def behind (front : List Char) (parts : List Char × List Char) : List Char × List Char :=
  (front ++ parts.1, parts.2)

theorem behind_append (front back : List Char) :
    behind (front ++ back) = behind front ∘ behind back :=
  funext fun _ ↦ congrArg (Prod.mk · _) (List.append_assoc front back _)

section Cut

variable {opening closing : Char}

theorem cutBalanced_other {c : Char} (hopening : c ≠ opening) (hclosing : c ≠ closing)
    (depth : Nat) (rest : List Char) :
    cutBalanced opening closing depth (c :: rest) =
      (cutBalanced opening closing depth rest).map (behind [c]) := by
  rw [cutBalanced]
  simp only [hopening, hclosing, if_false, false_and]
  rfl

theorem cutBalanced_open (hne : opening ≠ closing) (depth : Nat) (rest : List Char) :
    cutBalanced opening closing depth (opening :: rest) =
      (cutBalanced opening closing (depth + 1) rest).map (behind [opening]) := by
  rw [cutBalanced]
  simp only [hne, if_true, if_false, false_and]
  rfl

theorem cutBalanced_close (hne : opening ≠ closing) (depth : Nat) (rest : List Char) :
    cutBalanced opening closing (depth + 2) (closing :: rest) =
      (cutBalanced opening closing (depth + 1) rest).map (behind [closing]) := by
  rw [cutBalanced]
  simp only [hne.symm, if_true, if_false]
  rfl

/-- A text is cut behind the bracket that closes the only one open. -/
theorem cutBalanced_last (hne : opening ≠ closing) (rest : List Char) :
    cutBalanced opening closing 1 (closing :: rest) = some ([closing], rest) := by
  simp [cutBalanced, hne.symm]

/-- Text without the two brackets does not matter to where a text is cut. -/
theorem cutBalanced_append_of_ne {text : List Char}
    (htext : ∀ c ∈ text, c ≠ opening ∧ c ≠ closing) (depth : Nat) (rest : List Char) :
    cutBalanced opening closing depth (text ++ rest) =
      (cutBalanced opening closing depth rest).map (behind text) := by
  induction text with
  | nil => exact Option.map_id'.symm
  | cons c text ih =>
    obtain ⟨⟨hopening, hclosing⟩, hrest⟩ := List.forall_mem_cons.mp htext
    rw [List.cons_append, cutBalanced_other hopening hclosing, ih hrest, Option.map_map,
      ← behind_append, List.singleton_append]

/-- What is cut off at the bracket that closes the first one. -/
theorem cutBalanced_group (hne : opening ≠ closing) {inside : List Char}
    (hinside : ∀ rest, cutBalanced opening closing 1 (inside ++ rest) =
      (cutBalanced opening closing 1 rest).map (behind inside)) (rest : List Char) :
    cutBalanced opening closing 0 (opening :: (inside ++ closing :: rest)) =
      some (opening :: (inside ++ [closing]), rest) := by
  rw [cutBalanced_open hne, hinside, cutBalanced_last hne]
  rfl

end Cut

/-- A balanced text closes nothing that was opened before it. -/
theorem cutBalanced_append_of_balanced {text : List Char} (htext : Query.Balanced text)
    (depth : Nat) (rest : List Char) :
    cutBalanced '(' ')' (depth + 1) (text ++ rest) =
      (cutBalanced '(' ')' (depth + 1) rest).map (behind text) := by
  have hne : '(' ≠ ')' := by decide
  induction htext generalizing depth rest with
  | nil => exact Option.map_id'.symm
  | other hopen hclose => exact cutBalanced_other hopen hclose (depth + 1) rest
  | append hfirst hsecond ihFirst ihSecond =>
    rw [List.append_assoc, ihFirst, ihSecond, Option.map_map, ← behind_append]
  | @group inside hinside ih =>
    rw [List.cons_append, List.append_assoc, List.singleton_append, cutBalanced_open hne, ih,
      cutBalanced_close hne, Option.map_map, Option.map_map, ← behind_append, ← behind_append,
      List.append_assoc, List.singleton_append]

theorem cutKey_filter {inside : List Char} (hinside : Query.Balanced inside) (rest : List Char) :
    cutKey ('?' :: '(' :: (inside ++ [')']) ++ rest) =
      some ('?' :: '(' :: (inside ++ [')']), rest) := by
  have hcut := cutBalanced_group (by decide) (cutBalanced_append_of_balanced hinside 0) rest
  rw [List.cons_append, List.cons_append, List.append_assoc, List.singleton_append, cutKey, hcut]
  rfl

theorem cutKey_native {text : List Char} (htext : ∀ c ∈ text, c ≠ '\x7b' ∧ c ≠ '\x7d')
    (rest : List Char) :
    cutKey ('?' :: '\x7b' :: (text ++ ['\x7d']) ++ rest) =
      some ('?' :: '\x7b' :: (text ++ ['\x7d']), rest) := by
  have hcut := cutBalanced_group (by decide) (cutBalanced_append_of_ne htext 1) rest
  rw [List.cons_append, List.cons_append, List.append_assoc, List.singleton_append, cutKey, hcut]
  rfl

/-- A key part that is a query ends at the bracket that closes its first one. -/
theorem keyPart_query {query : Query} (hquery : query.Inline)
    (hbraces : ∀ text, query = .native text → ∀ c ∈ text.toList, c ≠ '\x7b' ∧ c ≠ '\x7d')
    (hgap : ∀ c ∈ gap, Text.isBlank c = true) : KeyPart (query.render gap) := by
  have hcut : startsQuery (query.render gap) = true ∧ ∀ rest,
      cutKey (query.render gap ++ rest) = some (query.render gap, rest) := by
    rcases hquery.cases gap with ⟨node, hnode, -, hrender⟩ | ⟨text, htext, hrender⟩
    · rw [hrender]
      exact ⟨rfl, cutKey_filter (hnode.balanced_inside hgap)⟩
    · rw [hrender]
      exact ⟨rfl, cutKey_native (hbraces text htext)⟩
  refine ⟨?_, fun rest ↦ hcut.2 ('[' :: rest), fun hkey ↦ ?_⟩
  · simpa using hcut.2 []
  · rw [hcut.1] at hkey
    cases hkey

theorem startsQuery_render {query : Query} (hquery : query.Inline) (gap : List Char) :
    startsQuery (query.render gap) = true := by
  rcases hquery.cases gap with ⟨node, -, -, hrender⟩ | ⟨text, -, hrender⟩ <;> rw [hrender] <;> rfl

theorem trim_render {query : Query} (hquery : query.Inline) (gap : List Char) :
    Text.trim (query.render gap) = query.render gap := by
  rw [Text.trim_eq_self_iff]
  rcases hquery.cases gap with ⟨node, -, -, hrender⟩ | ⟨text, -, hrender⟩
  · rw [hrender]
    exact Text.trimmed_between (by decide) (by decide) ('(' :: node.inside gap)
  · rw [hrender]
    exact Text.trimmed_between (by decide) (by decide) ('\x7b' :: text.toList)

theorem queryIn_render {query : Query} (hquery : query.Inline)
    (hgap : ∀ c ∈ gap, Text.isBlank c = true) (component : List Char) :
    queryIn component (query.render gap) = .ok query.coerced := by
  rw [queryIn, Query.parseChars_render hgap hquery.printable]
  rfl

end Selector

/-! ### Filters as they are written -/

namespace Filter

/-- Whether a filter is written in brackets. -/
def bracketed : Filter → Bool
  | .key _ => false
  | .keyQuery _ => false
  | _ => true

/-- The text of a filter, without brackets around it. -/
def source (gap : List Char) : Filter → List Char
  | .key name => name.toList
  | .keyQuery query => query.render gap
  | .index position => position.repr.toList
  | .elementQuery query => query.render gap
  | .range bounds => bounds.render

/-- A filter as it is written, with `gap` on both sides of every connective. -/
def render (gap : List Char) (filter : Filter) : List Char :=
  if filter.bracketed then '[' :: (filter.source gap ++ [']']) else filter.source gap

/-- Whether a filter can be written in a selector. A native query over keys is found by its braces,
so that its text has none. -/
def Printable : Filter → Prop
  | .key name => Segment.Literal (.key name)
  | .keyQuery query =>
    query.Inline ∧ ∀ text, query = .native text → ∀ c ∈ text.toList, c ≠ '\x7b' ∧ c ≠ '\x7d'
  | .index position => Segment.Literal (.index position)
  | .elementQuery query => query.Inline
  | .range _ => True

/-- The filter with the literals and the patterns that the raw values in its query denote. -/
def coerced : Filter → Filter
  | .keyQuery query => .keyQuery query.coerced
  | .elementQuery query => .elementQuery query.coerced
  | other => other

/-- The conditions in the query of a filter, if it has one. -/
def conditions : Filter → List Condition
  | .keyQuery query => query.conditions
  | .elementQuery query => query.conditions
  | _ => []

variable {filter : Filter}

theorem coerced_eq_self
    (hconditions : ∀ condition ∈ filter.conditions, condition.coerced = condition) :
    filter.coerced = filter := by
  cases filter with
  | keyQuery query => rw [coerced, Query.coerced_eq_self hconditions]
  | elementQuery query => rw [coerced, Query.coerced_eq_self hconditions]
  | _ => rfl

theorem render_ne_nil (hprintable : filter.Printable) : filter.render gap ≠ [] := by
  cases filter with
  | key name =>
    have hname : name ≠ "" := hprintable.1
    simpa [render, bracketed, source] using hname
  | keyQuery query =>
    intro hnil
    have hstart := Selector.startsQuery_render hprintable.1 gap
    rw [show query.render gap = [] from hnil] at hstart
    cases hstart
  | _ => exact List.cons_ne_nil _ _

theorem slash_not_mem_render (hprintable : filter.Printable)
    (hgap : ∀ c ∈ gap, Text.isBlank c = true) : '/' ∉ filter.render gap := by
  have hsource : '/' ∉ filter.source gap := by
    cases filter with
    | key name => exact fun hmem ↦ (hprintable.2.1 '/' hmem).1 rfl
    | keyQuery query => exact hprintable.1.slash_not_mem_render hgap
    | index position =>
      exact fun hmem ↦ absurd (Decimal.isDigit_of_mem_repr hmem) (by decide)
    | elementQuery query => exact Query.Inline.slash_not_mem_render hprintable hgap
    | range bounds => exact bounds.slash_not_mem_render
  unfold render
  split
  · simp [hsource]
  · exact hsource

/-- A filter that is written without brackets is read from a key part. -/
theorem keyFilters_source (hprintable : filter.Printable) (hkey : filter.bracketed = false)
    (hgap : ∀ c ∈ gap, Text.isBlank c = true) (component : List Char) :
    Selector.KeyPart (filter.source gap) ∧
      Selector.keyFilters component (filter.source gap) = .ok [filter.coerced] := by
  cases filter with
  | key name =>
    exact ⟨Selector.keyPart_name hprintable, Selector.keyFilters_name hprintable component⟩
  | keyQuery query =>
    refine ⟨Selector.keyPart_query hprintable.1 hprintable.2 hgap, ?_⟩
    have hne : (keyQuery query).render gap ≠ [] := render_ne_nil hprintable
    have hempty : (query.render gap).isEmpty = false := List.isEmpty_eq_false_iff.mpr hne
    simp only [source, Selector.keyFilters, hempty, Selector.keyFilter,
      Selector.startsQuery_render hprintable.1, Selector.queryIn_render hprintable.1 hgap]
    rfl
  | _ => cases hkey

/-- A filter that is written in brackets is read from what is inside them. -/
theorem bracketFilters_source (hprintable : filter.Printable) (hbracket : filter.bracketed = true)
    (hgap : ∀ c ∈ gap, Text.isBlank c = true) (component : List Char) :
    Selector.bracketFilters component (some (filter.source gap)) = .ok [filter.coerced] := by
  cases filter with
  | index position => exact Selector.bracketFilters_repr hprintable component
  | elementQuery query =>
    have hquery : query.Inline := hprintable
    simp only [source, Selector.bracketFilters, Selector.bracketFilter, Selector.trim_render hquery,
      Selector.startsQuery_render hquery, Selector.queryIn_render hquery hgap]
    rfl
  | range bounds =>
    have hquery : Selector.startsQuery bounds.render = false :=
      Selector.startsQuery_of_not_mem fun hmark ↦ (Range.render_chars hmark).1 rfl
    simp only [source, Selector.bracketFilters, Selector.bracketFilter, Range.trim_render, hquery,
      Range.hasDots_render, Range.parse_render]
    rfl
  | _ => cases hbracket

end Filter

/-! ### Selectors as they are written -/

namespace Selector

/-- A component that is written for one filter, or for a filter without brackets and one in brackets
right behind it. -/
inductive Piece (gap : List Char) : List Filter → List Char → Prop where
  | alone (filter : Filter) : Piece gap [filter] (filter.render gap)
  | fused {key bracket : Filter} (hkey : key.bracketed = false)
    (hbracket : bracket.bracketed = true) :
    Piece gap [key, bracket] (key.render gap ++ bracket.render gap)

/-- A selector that is written in components with slashes between them, and any number of slashes
more. -/
inductive Written (gap : List Char) : Selector → List Char → Prop where
  | nil : Written gap [] []
  | slash {selector : Selector} {text : List Char} (hrest : Written gap selector text) :
    Written gap selector ('/' :: text)
  | last {filters : List Filter} {component : List Char} (hpiece : Piece gap filters component) :
    Written gap filters component
  | more {filters : List Filter} {component : List Char} {rest : Selector} {text : List Char}
    (hpiece : Piece gap filters component) (hrest : Written gap rest text) :
    Written gap (filters ++ rest) (component ++ '/' :: text)

variable {filters : List Filter} {component text : List Char} {selector : Selector}

/-- A component is read as the filters that it is written for. -/
theorem Piece.parseComponent (hpiece : Piece gap filters component)
    (hprintable : ∀ filter ∈ filters, filter.Printable)
    (hgap : ∀ c ∈ gap, Text.isBlank c = true) :
    Selector.parseComponent component = .ok (filters.map Filter.coerced) := by
  rw [parseComponent_eq_ok_iff]
  cases hpiece with
  | alone filter =>
    have hfilter := hprintable filter (List.mem_singleton_self filter)
    cases hbracket : filter.bracketed with
    | true =>
      have hrender : filter.render gap = '[' :: (filter.source gap ++ [']']) := if_pos hbracket
      rw [hrender]
      exact ⟨[], _, [], _, splitComponent_brackets keyPart_nil _, rfl,
        filter.bracketFilters_source hfilter hbracket hgap _, rfl⟩
    | false =>
      have hrender : filter.render gap = filter.source gap := by
        rw [Filter.render, hbracket]
        rfl
      rw [hrender]
      obtain ⟨hkey, hkeys⟩ := filter.keyFilters_source hfilter hbracket hgap (filter.source gap)
      exact ⟨_, none, _, [], splitComponent_key hkey, hkeys, rfl, rfl⟩
  | @fused key bracket hkey hbracket =>
    have hfirst := hprintable key List.mem_cons_self
    have hsecond := hprintable bracket (by simp)
    have hrender : key.render gap ++ bracket.render gap =
        key.source gap ++ '[' :: (bracket.source gap ++ [']']) := by
      rw [Filter.render, Filter.render, hkey, hbracket]
      rfl
    rw [hrender]
    obtain ⟨hpart, hkeys⟩ := key.keyFilters_source hfirst hkey hgap _
    exact ⟨_, _, _, _, splitComponent_brackets hpart _, hkeys,
      bracket.bracketFilters_source hsecond hbracket hgap _, rfl⟩

theorem Piece.ne_nil (hpiece : Piece gap filters component)
    (hprintable : ∀ filter ∈ filters, filter.Printable) : component ≠ [] := by
  cases hpiece with
  | alone filter => exact Filter.render_ne_nil (hprintable filter (List.mem_singleton_self filter))
  | @fused key bracket hkey hbracket =>
    have hfirst := hprintable key List.mem_cons_self
    exact List.append_ne_nil_of_left_ne_nil (Filter.render_ne_nil hfirst) _

theorem Piece.slash_not_mem (hpiece : Piece gap filters component)
    (hprintable : ∀ filter ∈ filters, filter.Printable)
    (hgap : ∀ c ∈ gap, Text.isBlank c = true) : '/' ∉ component := by
  cases hpiece with
  | alone filter =>
    exact Filter.slash_not_mem_render (hprintable filter (List.mem_singleton_self filter)) hgap
  | @fused key bracket hkey hbracket =>
    have hfirst := hprintable key List.mem_cons_self
    have hsecond := hprintable bracket (by simp)
    rw [List.mem_append, not_or]
    exact ⟨Filter.slash_not_mem_render hfirst hgap, Filter.slash_not_mem_render hsecond hgap⟩

theorem Piece.parseChars (hpiece : Piece gap filters component)
    (hprintable : ∀ filter ∈ filters, filter.Printable)
    (hgap : ∀ c ∈ gap, Text.isBlank c = true) :
    Selector.parseChars component = .ok (filters.map Filter.coerced) := by
  have hslash : ∀ c ∈ component, c ≠ '/' := fun c hc heq ↦
    hpiece.slash_not_mem hprintable hgap (heq ▸ hc)
  have hempty : component.isEmpty = false :=
    List.isEmpty_eq_false_iff.mpr (hpiece.ne_nil hprintable)
  rw [Selector.parseChars, splitAtSlashes_of_forall_ne hslash, parseComponents_cons_eq_ok_iff]
  refine ⟨_, [], ?_, rfl, (List.append_nil _).symm⟩
  rw [componentFilters, hempty]
  exact hpiece.parseComponent hprintable hgap

theorem Written.parseChars (hwritten : Written gap selector text)
    (hprintable : ∀ filter ∈ selector, filter.Printable)
    (hgap : ∀ c ∈ gap, Text.isBlank c = true) :
    Selector.parseChars text = .ok (selector.map Filter.coerced) := by
  induction hwritten with
  | nil => rfl
  | @slash selector text hrest ih =>
    have hread := parseChars_slash [] text
    rw [ih hprintable] at hread
    exact hread
  | last hpiece => exact hpiece.parseChars hprintable hgap
  | more hpiece hrest ih =>
    obtain ⟨hfirst, hlater⟩ := List.forall_mem_append.mp hprintable
    rw [parseChars_slash, hpiece.parseChars hfirst hgap, ih hlater, List.map_append]
    rfl

end Selector

end DocTree
