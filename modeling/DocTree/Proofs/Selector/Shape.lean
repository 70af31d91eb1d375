import DocTree.Proofs.Selector.Segments

/-!
# The filters that are read

A component gives the filters of its key, at most one, and those of its brackets, at most one
(`parseComponent_eq_ok_iff`); a selector gives those of its components in order. The query of a
filter was read from a text that starts like a query (`readsQuery_of_parse`), and so it is no range
(`rangeFree_of_parse`): a text in brackets that is a range becomes a filter of its own kind.
-/

set_option autoImplicit false
set_option relaxedAutoImplicit false

namespace DocTree.Selector

/-- The filters for the key part of a component. -/
def keyFilters (component key : List Char) : Except SelectorError (List Filter) :=
  if key.isEmpty then .ok [] else (keyFilter component key).map ([·])

/-- The filters for the brackets of a component, if it has any. -/
def bracketFilters (component : List Char) :
    Option (List Char) → Except SelectorError (List Filter)
  | none => .ok []
  | some inside => (bracketFilter component inside).map ([·])

variable {component : List Char} {filters : List Filter}

theorem parseComponent_eq (component : List Char) : parseComponent component =
    ((splitComponent component).mapError (.invalidComponent (String.ofList component))).bind
      fun parts ↦ (keyFilters component parts.1).bind fun keys ↦
        (bracketFilters component parts.2).map (keys ++ ·) := by
  unfold parseComponent keyFilters
  congr 1
  funext ⟨key, inside?⟩
  cases hempty : key.isEmpty <;> cases inside? with
  | none =>
    cases hkey : keyFilter component key <;>
      simp [hempty, hkey, bracketFilters, bind, Except.bind, Except.map, pure, Except.pure]
  | some inside =>
    cases hkey : keyFilter component key <;> cases hinside : bracketFilter component inside <;>
      simp [hempty, hkey, hinside, bracketFilters, bind, Except.bind, Except.map, pure,
        Except.pure]

theorem parseComponent_eq_ok_iff : parseComponent component = .ok filters ↔
    ∃ key inside? keys brackets, splitComponent component = .ok (key, inside?) ∧
      keyFilters component key = .ok keys ∧ bracketFilters component inside? = .ok brackets ∧
      filters = keys ++ brackets := by
  simp only [parseComponent_eq, Except.bind_eq_ok_iff, Except.map_eq_ok_iff,
    Except.mapError_eq_ok_iff]
  constructor
  · rintro ⟨⟨key, inside?⟩, hsplit, keys, hkeys, brackets, hbrackets, rfl⟩
    exact ⟨key, inside?, keys, brackets, hsplit, hkeys, hbrackets, rfl⟩
  · rintro ⟨key, inside?, keys, brackets, hsplit, hkeys, hbrackets, rfl⟩
    exact ⟨(key, inside?), hsplit, keys, hkeys, brackets, hbrackets, rfl⟩

/-- The filters of a component; an empty one has none. -/
def componentFilters (component : List Char) : Except SelectorError (List Filter) :=
  if component.isEmpty then .ok [] else parseComponent component

theorem parseComponents_cons (component : List Char) (rest : List (List Char)) :
    parseComponents (component :: rest) =
      (componentFilters component).bind fun filters ↦
        (parseComponents rest).map (filters ++ ·) := by
  rw [parseComponents, componentFilters]
  cases component.isEmpty <;> cases parseComponent component <;> cases parseComponents rest <;>
    simp [bind, Except.bind, Except.map, pure, Except.pure]

theorem parseComponents_cons_eq_ok_iff {rest : List (List Char)} {selector : Selector} :
    parseComponents (component :: rest) = .ok selector ↔
      ∃ filters later, componentFilters component = .ok filters ∧
        parseComponents rest = .ok later ∧ selector = filters ++ later := by
  simp only [parseComponents_cons, Except.bind_eq_ok_iff, Except.map_eq_ok_iff,
    exists_and_left]

theorem parseComponents_append (front rest : List (List Char)) :
    parseComponents (front ++ rest) =
      (parseComponents front).bind fun filters ↦ (parseComponents rest).map (filters ++ ·) := by
  induction front with
  | nil =>
    cases hrest : parseComponents rest <;> simp [parseComponents, hrest, Except.bind, Except.map]
  | cons component front ih =>
    rw [List.cons_append, parseComponents_cons, parseComponents_cons, ih]
    cases componentFilters component <;> cases parseComponents front <;>
      cases parseComponents rest <;> simp [Except.bind, Except.map]

/-! ### The queries of filters -/

/-- Whether a filter holds no query, or one that was read from a text that starts like a query. -/
def ReadsQuery (filter : Filter) : Prop :=
  ∀ query, filter.query? = some query →
    ∃ text, startsQuery text = true ∧ Query.parseChars text = .ok query

theorem readsQuery_of_queryIn {text : List Char} {query : Query} {filter : Filter}
    (htext : startsQuery text = true) (hread : queryIn component text = .ok query)
    (hfilter : filter.query? = some query) : ReadsQuery filter := by
  rw [queryIn, Except.mapError_eq_ok_iff] at hread
  intro other hother
  obtain rfl := Option.some.inj (hfilter.symm.trans hother)
  exact ⟨text, htext, hread⟩

theorem readsQuery_of_query?_eq_none {filter : Filter} (hfilter : filter.query? = none) :
    ReadsQuery filter := by
  intro query hquery
  rw [hfilter] at hquery
  cases hquery

theorem readsQuery_of_keyFilters {key : List Char}
    (hread : keyFilters component key = .ok filters) : ∀ filter ∈ filters, ReadsQuery filter := by
  unfold keyFilters at hread
  split at hread
  · cases hread
    exact List.forall_mem_nil _
  · obtain ⟨filter, hfilter, rfl⟩ := Except.map_eq_ok_iff.mp hread
    refine List.forall_mem_singleton.mpr ?_
    unfold keyFilter at hfilter
    split at hfilter
    · rename_i hstart
      obtain ⟨query, hquery, rfl⟩ := Except.map_eq_ok_iff.mp hfilter
      exact readsQuery_of_queryIn hstart hquery rfl
    · rw [← Except.ok.inj hfilter]
      exact readsQuery_of_query?_eq_none rfl

theorem readsQuery_of_bracketFilters {inside? : Option (List Char)}
    (hread : bracketFilters component inside? = .ok filters) :
    ∀ filter ∈ filters, ReadsQuery filter := by
  cases inside? with
  | none =>
    cases hread
    exact List.forall_mem_nil _
  | some inside =>
    obtain ⟨filter, hfilter, rfl⟩ := Except.map_eq_ok_iff.mp hread
    refine List.forall_mem_singleton.mpr ?_
    unfold bracketFilter at hfilter
    dsimp only at hfilter
    split at hfilter
    · rename_i hstart
      obtain ⟨query, hquery, rfl⟩ := Except.map_eq_ok_iff.mp hfilter
      exact readsQuery_of_queryIn hstart hquery rfl
    · split at hfilter
      · obtain ⟨bounds, -, rfl⟩ := Except.map_eq_ok_iff.mp hfilter
        exact readsQuery_of_query?_eq_none rfl
      · split at hfilter
        · split at hfilter
          · rw [← Except.ok.inj hfilter]
            exact readsQuery_of_query?_eq_none rfl
          · cases hfilter
        · cases hfilter

theorem readsQuery_of_parseComponents {components : List (List Char)} {selector : Selector}
    (hread : parseComponents components = .ok selector) :
    ∀ filter ∈ selector, ReadsQuery filter := by
  induction components generalizing selector with
  | nil =>
    cases hread
    exact List.forall_mem_nil _
  | cons component rest ih =>
    obtain ⟨filters, later, hfirst, hlater, rfl⟩ := parseComponents_cons_eq_ok_iff.mp hread
    refine List.forall_mem_append.mpr ⟨?_, ih hlater⟩
    unfold componentFilters at hfirst
    split at hfirst
    · cases hfirst
      exact List.forall_mem_nil _
    · obtain ⟨key, inside?, keys, brackets, -, hkeys, hbrackets, rfl⟩ :=
        parseComponent_eq_ok_iff.mp hfirst
      exact List.forall_mem_append.mpr
        ⟨readsQuery_of_keyFilters hkeys, readsQuery_of_bracketFilters hbrackets⟩

/-- The queries of a selector that is read are queries that are read. -/
theorem readsQuery_of_parse {text : String} {selector : Selector}
    (hread : parse text = .ok selector) : ∀ filter ∈ selector, ReadsQuery filter :=
  readsQuery_of_parseComponents hread

/-- No filter of a selector that is read holds a range as its query. -/
theorem rangeFree_of_parse {text : String} {selector : Selector}
    (hread : parse text = .ok selector) : ∀ filter ∈ selector, filter.rangeFree := by
  intro filter hfilter
  refine Filter.rangeFree_of_query? fun query hquery ↦ ?_
  obtain ⟨source, hstart, hparse⟩ := readsQuery_of_parse hread filter hfilter query hquery
  unfold startsQuery at hstart
  split at hstart
  · exact Query.isRange_of_parseChars (.inl rfl) hparse
  · exact Query.isRange_of_parseChars (.inr rfl) hparse
  · cases hstart

end DocTree.Selector
