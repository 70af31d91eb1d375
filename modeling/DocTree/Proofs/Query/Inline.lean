import DocTree.Proofs.Query.RoundTrip
import DocTree.Proofs.Query.Shape

/-!
# Queries inside other texts

A query can be written inside a component of a selector when it is no range and has no slash in it
(`Query.Inline`). It brings no slash of its own (`Query.Inline.slash_not_mem_render`), and its
parentheses are balanced, so that the end of it can be found by counting them. A query whose
conditions expect what their raw values denote is what its text is read as
(`Query.coerced_eq_self`).
-/

set_option autoImplicit false
set_option relaxedAutoImplicit false

namespace DocTree

variable {gap : List Char}

/-! ### Texts without slashes -/

theorem Range.slash_not_mem_render (range : Range) : '/' ∉ range.render := by
  have hbound : ∀ bound, '/' ∉ renderBound bound := by
    intro bound hmem
    cases bound with
    | none => cases hmem
    | some number =>
      rcases Decimal.isDigit_or_minus_of_mem_repr hmem with hdigit | hminus
      · exact absurd hdigit (by decide)
      · exact absurd hminus (by decide)
  simp [render, hbound]

theorem Condition.Printable.slash_not_mem_render {condition : Condition}
    (hprintable : condition.Printable) (hraw : '/' ∉ condition.expected.raw.toList) :
    '/' ∉ condition.render := by
  intro hmem
  simp only [render, List.mem_cons, List.mem_append] at hmem
  rcases hmem with ((hstart | hproperty) | hspace | hsign) | hspace | hvalue
  · exact absurd hstart (by decide)
  · cases hname : condition.property with
    | none =>
      rw [hname] at hproperty
      cases hproperty
    | some name =>
      rw [hname, List.mem_cons] at hproperty
      rcases hproperty with hpoint | hchar
      · exact absurd hpoint (by decide)
      · have hslash := hprintable.property_chars name hname '/' hchar
        rw [isPropertyChar_of_ascii (by decide)] at hslash
        exact absurd hslash (by decide)
  · exact absurd hspace (by decide)
  · cases hcomparison : condition.comparison <;> simp [hcomparison, Comparison.sign] at hsign
  · exact absurd hspace (by decide)
  · exact hraw hvalue

namespace Node

theorem slash_not_mem_renderAll {children : List Node} (hgap : '/' ∉ gap) (connective : Connective)
    (hchildren : ∀ child ∈ children, '/' ∉ child.render gap) :
    '/' ∉ renderAll gap connective children := by
  have hsign : '/' ≠ connective.sign := by
    cases connective <;> decide
  induction children with
  | nil => exact List.not_mem_nil
  | cons child rest ih =>
    obtain ⟨hchild, hrest⟩ := List.forall_mem_cons.mp hchildren
    cases rest with
    | nil => exact hchild
    | cons next rest =>
      have hlater := ih hrest
      simp [renderAll, hchild, hgap, hsign, hlater]

/-- The text of a node has a slash only if a raw value in it has one. -/
theorem Printable.slash_not_mem_render {levels : Nat} {node : Node} (hnode : node.Printable levels)
    (hgap : '/' ∉ gap)
    (hraw : ∀ condition ∈ node.conditions, '/' ∉ condition.expected.raw.toList) :
    '/' ∉ node.render gap := by
  induction hnode with
  | condition hcondition =>
    exact hcondition.slash_not_mem_render (hraw _ (List.mem_singleton_self _))
  | @group levels children connective hlength hchildren ih =>
    have hall : '/' ∉ renderAll gap connective children := by
      refine slash_not_mem_renderAll hgap connective fun child hchild ↦ ?_
      refine ih child hchild fun condition hcondition ↦ hraw condition ?_
      rw [conditions, conditionsOfAll_eq_flatMap]
      exact List.mem_flatMap.mpr ⟨child, hchild, hcondition⟩
    simp [render, hall]

/-- Inside the parentheses of a filter a node is written without its own. -/
theorem mem_render_of_mem_inside {node : Node} {c : Char} (hmem : c ∈ node.inside gap) :
    c ∈ node.render gap := by
  cases node with
  | group children connective =>
    rw [render]
    exact List.mem_cons_of_mem _ (List.mem_append_left _ hmem)
  | _ => exact hmem

theorem Printable.balanced_inside {levels : Nat} {node : Node} (hnode : node.Printable levels)
    (hgap : ∀ c ∈ gap, Text.isBlank c = true) : Query.Balanced (node.inside gap) := by
  have hread := hnode.readBy hgap
  cases hnode with
  | condition => exact hread.balanced
  | group => exact hread.1

/-- A node whose conditions expect what their raw values denote is read as itself. -/
theorem coerced_eq_self {node : Node}
    (hconditions : ∀ condition ∈ node.conditions, condition.coerced = condition) :
    node.coerced = node := by
  induction node using childInduction with
  | condition leaf => rw [coerced, hconditions leaf (List.mem_singleton_self leaf)]
  | group children connective ih =>
    rw [conditions, conditionsOfAll_eq_flatMap] at hconditions
    have hchildren : children.map coerced = children := by
      refine (List.map_congr_left fun child hchild ↦ ?_).trans (List.map_id children)
      exact ih child hchild fun condition hcondition ↦
        hconditions condition (List.mem_flatMap.mpr ⟨child, hchild, hcondition⟩)
    rw [coerced, coercedAll_eq_map, hchildren]
  | range bounds => rfl

end Node

namespace Query

/-- The raw values of the conditions in a query, or the text of a native query. -/
def texts : Query → List String
  | .node tree => tree.conditions.map fun condition ↦ condition.expected.raw
  | .native text => [text]

/-- Whether a query can be written inside a component of a selector. -/
structure Inline (query : Query) : Prop where
  printable : query.Printable
  isRange_eq : query.isRange = false
  slashes : ∀ text ∈ query.texts, '/' ∉ text.toList

variable {query : Query}

/-- A query in a component is a tree of conditions or a native query. -/
theorem Inline.cases (hquery : query.Inline) (gap : List Char) :
    (∃ node : Node, node.Printable (maxGroupDepth + 1) ∧ query = .node node ∧
        query.render gap = '?' :: '(' :: (node.inside gap ++ [')'])) ∨
      ∃ text, query = .native text ∧
        query.render gap = '?' :: '\x7b' :: (text.toList ++ ['\x7d']) := by
  obtain ⟨hprintable, hrange, -⟩ := hquery
  match query with
  | .native text => exact .inr ⟨text, rfl, rfl⟩
  | .node (.range bounds) => cases hrange
  | .node (.condition leaf) => exact .inl ⟨_, hprintable, rfl, rfl⟩
  | .node (.group children connective) => exact .inl ⟨_, hprintable, rfl, rfl⟩

theorem coerced_eq_self
    (hconditions : ∀ condition ∈ query.conditions, condition.coerced = condition) :
    query.coerced = query := by
  cases query with
  | node node => rw [coerced, Node.coerced_eq_self hconditions]
  | native text => rfl

theorem Inline.slash_not_mem_render (hquery : query.Inline)
    (hgap : ∀ c ∈ gap, Text.isBlank c = true) : '/' ∉ query.render gap := by
  have hslash : '/' ∉ gap := fun hmem ↦ absurd (hgap '/' hmem) (by decide)
  rcases hquery.cases gap with ⟨node, hnode, rfl, hrender⟩ | ⟨text, rfl, hrender⟩
  · have hraw : ∀ condition ∈ node.conditions, '/' ∉ condition.expected.raw.toList :=
      fun condition hcondition ↦ hquery.slashes _ (List.mem_map_of_mem hcondition)
    have hinside : '/' ∉ node.inside gap := fun hmem ↦
      hnode.slash_not_mem_render hslash hraw (Node.mem_render_of_mem_inside hmem)
    simp [hrender, hinside]
  · have htext := hquery.slashes text (List.mem_singleton_self text)
    simp [hrender, htext]

end Query

end DocTree
