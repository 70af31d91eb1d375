import DocTree.Proofs.Query.Range
import DocTree.Proofs.Selector.Shape

/-!
# Components as they are written

A component comes apart behind its key part (`KeyPart`), and what is in the brackets there is read on
its own. A component without queries is a key, an index in brackets, or a key with an index in
brackets right behind it. It is read as the literal filters of its segments
(`Component.parseComponent_render`), and components with slashes between them are read one after
another (`parseChars_renderComponents`). A key stands for itself as long as it has no slash and no
bracket and does not begin like a query.
-/

set_option autoImplicit false
set_option relaxedAutoImplicit false

namespace DocTree

/-- Whether a segment can be written in a selector as it is. -/
def Segment.Literal : Segment → Prop
  | .key name =>
    name ≠ "" ∧ (∀ c ∈ name.toList, c ≠ '/' ∧ c ≠ '[' ∧ c ≠ ']') ∧
      ¬ ['?', '('] <+: name.toList ∧ ¬ ['?', '\x7b'] <+: name.toList
  | .index position => position < Selector.indexBound

namespace Selector

/-! ### Splitting at the slashes -/

theorem splitAtSlashes_cons {c : Char} (hc : c ≠ '/') (rest : List Char) :
    splitAtSlashes (c :: rest) =
      match splitAtSlashes rest with
      | [] => [[c]]
      | piece :: pieces => (c :: piece) :: pieces := by
  conv_lhs => unfold splitAtSlashes
  split
  · rename_i heq
    cases heq
  · rename_i heq
    exact absurd (List.cons.inj heq).1 hc
  · rename_i heq
    cases heq
    rfl

theorem splitAtSlashes_of_forall_ne {piece : List Char} (hpiece : ∀ c ∈ piece, c ≠ '/') :
    splitAtSlashes piece = [piece] := by
  induction piece with
  | nil => simp [splitAtSlashes]
  | cons c piece ih =>
    obtain ⟨hc, hrest⟩ := List.forall_mem_cons.mp hpiece
    rw [splitAtSlashes_cons hc, ih hrest]

theorem splitAtSlashes_ne_nil (text : List Char) : splitAtSlashes text ≠ [] := by
  cases text with
  | nil => exact List.cons_ne_nil _ _
  | cons c rest =>
    by_cases hc : c = '/'
    · subst hc
      exact List.cons_ne_nil _ _
    · rw [splitAtSlashes_cons hc]
      split <;> exact List.cons_ne_nil _ _

/-- A slash splits a text wherever it stands. -/
theorem splitAtSlashes_append (front rest : List Char) :
    splitAtSlashes (front ++ '/' :: rest) = splitAtSlashes front ++ splitAtSlashes rest := by
  induction front with
  | nil => simp [splitAtSlashes]
  | cons c front ih =>
    by_cases hc : c = '/'
    · subst hc
      simp [splitAtSlashes, ih]
    · rw [List.cons_append, splitAtSlashes_cons hc, ih, splitAtSlashes_cons hc]
      cases hfront : splitAtSlashes front with
      | nil => exact absurd hfront (splitAtSlashes_ne_nil front)
      | cons piece pieces => rfl

/-- Splitting undoes putting slashes between pieces. -/
theorem splitAtSlashes_intercalate {pieces : List (List Char)} (hne : pieces ≠ [])
    (hpieces : ∀ piece ∈ pieces, ∀ c ∈ piece, c ≠ '/') :
    splitAtSlashes (['/'].intercalate pieces) = pieces := by
  induction pieces with
  | nil => exact absurd rfl hne
  | cons piece rest ih =>
    obtain ⟨hpiece, hrest⟩ := List.forall_mem_cons.mp hpieces
    cases rest with
    | nil =>
      rw [List.intercalate_singleton]
      exact splitAtSlashes_of_forall_ne hpiece
    | cons second rest =>
      rw [List.intercalate_cons_cons, List.append_assoc, List.singleton_append,
        splitAtSlashes_append, splitAtSlashes_of_forall_ne hpiece,
        ih (List.cons_ne_nil second rest) hrest, List.singleton_append]

/-- A text with a slash in it is read as the text before the slash and then the text behind it. -/
theorem parseChars_slash (front rest : List Char) :
    parseChars (front ++ '/' :: rest) =
      (parseChars front).bind fun filters ↦ (parseChars rest).map (filters ++ ·) := by
  rw [parseChars, splitAtSlashes_append, parseComponents_append]
  rfl

/-! ### The parts of a component -/

/-- An index in brackets. -/
def renderIndex (position : Nat) : List Char := '[' :: (position.repr.toList ++ [']'])

theorem startsQuery_eq_false {text : List Char} (hfilter : ¬ ['?', '('] <+: text)
    (hnative : ¬ ['?', '\x7b'] <+: text) : startsQuery text = false := by
  unfold startsQuery
  split
  · rename_i rest
    exact absurd (List.prefix_append ['?', '('] rest) hfilter
  · rename_i rest
    exact absurd (List.prefix_append ['?', '\x7b'] rest) hnative
  · rfl

theorem startsQuery_of_prefix {text : List Char}
    (hstart : ['?', '('] <+: text ∨ ['?', '\x7b'] <+: text) : startsQuery text = true := by
  rcases hstart with ⟨rest, rfl⟩ | ⟨rest, rfl⟩ <;> rfl

theorem startsQuery_of_not_mem {text : List Char} (hmark : '?' ∉ text) :
    startsQuery text = false := by
  refine startsQuery_eq_false (fun hfilter ↦ ?_) fun hnative ↦ ?_
  · exact hmark (hfilter.subset List.mem_cons_self)
  · exact hmark (hnative.subset List.mem_cons_self)

/-- A bracket behind a key does not make a query of it. -/
theorem startsQuery_append {key : List Char} (hkey : startsQuery key = false)
    (rest : List Char) : startsQuery (key ++ '[' :: rest) = false := by
  match key with
  | [] => rfl
  | [c] => by_cases hc : c = '?' <;> simp [startsQuery, hc]
  | c :: d :: tail =>
    unfold startsQuery at hkey ⊢
    split at hkey
    · cases hkey
    · cases hkey
    · rename_i hfilter hnative
      split
      · rename_i heq
        obtain ⟨rfl, rfl, -⟩ : c = '?' ∧ d = '(' ∧ _ := by simpa using heq
        exact absurd rfl (hfilter tail)
      · rename_i heq
        obtain ⟨rfl, rfl, -⟩ : c = '?' ∧ d = '\x7b' ∧ _ := by simpa using heq
        exact absurd rfl (hnative tail)
      · rfl

theorem cutKey_of_not_startsQuery {component : List Char}
    (hcomponent : startsQuery component = false) :
    cutKey component =
      some (component.takeWhile (· ≠ '['), component.dropWhile (· ≠ '[')) := by
  unfold cutKey
  split
  · simp [startsQuery] at hcomponent
  · simp [startsQuery] at hcomponent
  · rfl

/-- Whether a text is the key part of the component that it makes on its own, and of every component
in which a bracket comes behind it. -/
structure KeyPart (key : List Char) : Prop where
  alone : cutKey key = some (key, [])
  brackets : ∀ rest, cutKey (key ++ '[' :: rest) = some (key, '[' :: rest)
  closing : startsQuery key = false → ']' ∉ key

/-- A key that is no query, possibly empty, ends before the first bracket. -/
theorem keyPart_of_not_startsQuery {key : List Char} (hkey : startsQuery key = false)
    (hchars : ∀ c ∈ key, c ≠ '[' ∧ c ≠ ']') : KeyPart key where
  alone := by
    have htake : key.takeWhile (· ≠ '[') = key :=
      List.takeWhile_eq_self_iff.mpr fun c hc ↦ by simpa using (hchars c hc).1
    have hdrop : key.dropWhile (· ≠ '[') = [] :=
      List.dropWhile_eq_nil_iff.mpr fun c hc ↦ by simpa using (hchars c hc).1
    rw [cutKey_of_not_startsQuery hkey, htake, hdrop]
  brackets rest := by
    have htake : (key ++ '[' :: rest).takeWhile (· ≠ '[') = key := by
      rw [List.takeWhile_append_of_pos fun c hc ↦ by simpa using (hchars c hc).1]
      simp
    have hdrop : (key ++ '[' :: rest).dropWhile (· ≠ '[') = '[' :: rest := by
      rw [List.dropWhile_append_of_pos fun c hc ↦ by simpa using (hchars c hc).1]
      simp
    rw [cutKey_of_not_startsQuery (startsQuery_append hkey rest), htake, hdrop]
  closing _ hmem := (hchars ']' hmem).2 rfl

theorem keyPart_nil : KeyPart [] := keyPart_of_not_startsQuery rfl (List.forall_mem_nil _)

theorem inBrackets?_brackets (inside : List Char) :
    inBrackets? ('[' :: (inside ++ [']'])) = some inside := by
  simp [inBrackets?, Query.dropLast?]

/-- A component comes apart behind its key part. -/
theorem splitComponent_brackets {key : List Char} (hkey : KeyPart key) (inside : List Char) :
    splitComponent (key ++ '[' :: (inside ++ [']'])) = .ok (key, some inside) := by
  have hclosing : (!startsQuery key && key.contains ']') = false := by
    simpa using hkey.closing
  rw [splitComponent, hkey.brackets]
  simp only [hclosing, inBrackets?_brackets]
  rfl

theorem splitComponent_key {key : List Char} (hkey : KeyPart key) :
    splitComponent key = .ok (key, none) := by
  have hclosing : (!startsQuery key && key.contains ']') = false := by
    simpa using hkey.closing
  rw [splitComponent, hkey.alone]
  simp only [hclosing]
  rfl

/-- Digits in brackets are read as an index, unless it is too large. -/
theorem bracketFilter_digits {component inside : List Char} (hne : Text.trim inside ≠ [])
    (hdigits : ∀ c ∈ Text.trim inside, c.isDigit = true) :
    bracketFilter component inside =
      if Decimal.natOfDigits (Text.trim inside) < indexBound then
        .ok (.index (Decimal.natOfDigits (Text.trim inside)))
      else .error (.invalidComponent (String.ofList component) .indexTooLarge) := by
  have hquery : startsQuery (Text.trim inside) = false :=
    startsQuery_of_not_mem fun hmark ↦ absurd (hdigits '?' hmark) (by decide)
  have hall : (Text.trim inside).all Char.isDigit = true := List.all_eq_true.mpr hdigits
  have hempty : (Text.trim inside).isEmpty = false := List.isEmpty_eq_false_iff.mpr hne
  simp only [bracketFilter, hquery, Range.hasDots_of_digits hdigits, hempty, hall]
  rfl

/-- A number in brackets is read as the index that it is the decimal notation of. -/
theorem bracketFilters_repr {position : Nat} (hposition : position < indexBound)
    (component : List Char) :
    bracketFilters component (some position.repr.toList) = .ok [.index position] := by
  have hdigits : ∀ c ∈ position.repr.toList, c.isDigit = true := fun _ ↦
    Decimal.isDigit_of_mem_repr
  have htrim := Text.trim_of_digits hdigits
  have hfilter := @bracketFilter_digits component position.repr.toList
    (by rw [htrim]; exact Decimal.repr_ne_nil position) (by rwa [htrim])
  rw [htrim, Decimal.natOfDigits_repr, if_pos hposition] at hfilter
  rw [bracketFilters, hfilter]
  rfl

theorem keyFilters_name {name : String} (hname : Segment.Literal (.key name))
    (component : List Char) : keyFilters component name.toList = .ok [.key name] := by
  obtain ⟨hne, -, hfilter, hnative⟩ := hname
  have hempty : name.toList.isEmpty = false := by simpa using hne
  simp only [keyFilters, hempty, keyFilter, startsQuery_eq_false hfilter hnative,
    String.ofList_toList]
  rfl

theorem keyPart_name {name : String} (hname : Segment.Literal (.key name)) :
    KeyPart name.toList := by
  obtain ⟨-, hchars, hfilter, hnative⟩ := hname
  exact keyPart_of_not_startsQuery (startsQuery_eq_false hfilter hnative) fun c hc ↦ (hchars c hc).2

/-! ### Components without queries -/

/-- A component that names its segments. -/
inductive Component where
  | key (name : String)
  | index (position : Nat)
  /-- An index right behind a key. -/
  | element (name : String) (position : Nat)

namespace Component

/-- The segments of a component. -/
def path : Component → Path
  | key name => [.key name]
  | index position => [.index position]
  | element name position => [.key name, .index position]

/-- A component as it is written. -/
def render : Component → List Char
  | key name => name.toList
  | index position => renderIndex position
  | element name position => name.toList ++ renderIndex position

variable {component : Component}

/-- A component is read as the literal filters of its segments. -/
theorem parseComponent_render (hliteral : ∀ segment ∈ component.path, segment.Literal) :
    parseComponent component.render = .ok (component.path.map .ofSegment) := by
  rw [parseComponent_eq_ok_iff]
  cases component with
  | key name =>
    have hname := hliteral (.key name) List.mem_cons_self
    exact ⟨_, none, _, [], splitComponent_key (keyPart_name hname), keyFilters_name hname _, rfl,
      rfl⟩
  | index position =>
    have hposition : position < indexBound := hliteral (.index position) List.mem_cons_self
    exact ⟨[], _, [], _, splitComponent_brackets keyPart_nil _, rfl,
      bracketFilters_repr hposition _, rfl⟩
  | element name position =>
    have hname := hliteral (.key name) List.mem_cons_self
    have hposition : position < indexBound := hliteral (.index position) (by simp [path])
    exact ⟨_, _, _, _, splitComponent_brackets (keyPart_name hname) _, keyFilters_name hname _,
      bracketFilters_repr hposition _, rfl⟩

theorem render_ne_nil (hliteral : ∀ segment ∈ component.path, segment.Literal) :
    component.render ≠ [] := by
  cases component with
  | key name =>
    have hname : name ≠ "" := (hliteral (.key name) List.mem_cons_self).1
    simpa [render] using hname
  | index position => exact List.cons_ne_nil _ _
  | element name position => simp [render, renderIndex]

theorem ne_slash_of_mem_render (hliteral : ∀ segment ∈ component.path, segment.Literal) {c : Char}
    (hmem : c ∈ component.render) : c ≠ '/' := by
  have hindex : ∀ position, c ∈ renderIndex position → c ≠ '/' := by
    rintro position hc rfl
    have hdigit : '/' ∈ position.repr.toList := by simpa [renderIndex] using hc
    exact absurd (Decimal.isDigit_of_mem_repr hdigit) (by decide)
  have hkey : ∀ name, Segment.key name ∈ component.path → c ∈ name.toList → c ≠ '/' := by
    intro name hname hc
    have hchars := (hliteral (.key name) hname).2.1
    exact (hchars c hc).1
  cases component with
  | key name => exact hkey name List.mem_cons_self hmem
  | index position => exact hindex position hmem
  | element name position =>
    rcases List.mem_append.mp hmem with hname | hposition
    · exact hkey name List.mem_cons_self hname
    · exact hindex position hposition

end Component

/-- Components with a slash between each two. -/
def renderComponents (components : List Component) : List Char :=
  ['/'].intercalate (components.map Component.render)

theorem parseComponents_map_render {components : List Component}
    (hliteral : ∀ segment ∈ components.flatMap Component.path, segment.Literal) :
    parseComponents (components.map Component.render) =
      .ok ((components.flatMap Component.path).map .ofSegment) := by
  induction components with
  | nil => rfl
  | cons component rest ih =>
    rw [List.flatMap_cons, List.forall_mem_append] at hliteral
    obtain ⟨hcomponent, hrest⟩ := hliteral
    have hempty : component.render.isEmpty = false := by
      simpa using Component.render_ne_nil hcomponent
    have hfilters : componentFilters component.render = .ok (component.path.map .ofSegment) := by
      rw [componentFilters, hempty, Component.parseComponent_render hcomponent]
      rfl
    rw [List.map_cons, parseComponents_cons_eq_ok_iff]
    exact ⟨_, _, hfilters, ih hrest, by rw [List.flatMap_cons, List.map_append]⟩

/-- A text of components without queries is read as the literal filters of their segments. -/
theorem parseChars_renderComponents {components : List Component}
    (hliteral : ∀ segment ∈ components.flatMap Component.path, segment.Literal) :
    parseChars (renderComponents components) =
      .ok ((components.flatMap Component.path).map .ofSegment) := by
  cases components with
  | nil => rfl
  | cons component rest =>
    have hslash : ∀ piece ∈ (component :: rest).map Component.render, ∀ c ∈ piece, c ≠ '/' := by
      intro piece hpiece c hc
      obtain ⟨other, hother, rfl⟩ := List.mem_map.mp hpiece
      have hsegments : ∀ segment ∈ other.path, segment.Literal := fun segment hsegment ↦
        hliteral segment (List.mem_flatMap.mpr ⟨other, hother, hsegment⟩)
      exact Component.ne_slash_of_mem_render hsegments hc
    have hne : (component :: rest).map Component.render ≠ [] := List.cons_ne_nil _ _
    rw [parseChars, renderComponents, splitAtSlashes_intercalate hne hslash]
    exact parseComponents_map_render hliteral

end Selector

end DocTree
