import DocTree.Proofs.Query.WellFormed
import DocTree.Query.Eval

/-!
# Verdicts without a fallback

`Node.holds` gives every tree a verdict on every candidate, also the trees that make no sense: it
rejects all candidates for a range inside a filter, for a group without children, and for a
condition that looks for a match and has no pattern. `Node.verdict?` is the same run without these
three cases; it gives nothing when it meets one of them. The trees of well-formed queries never do
(`Query.WellFormed.decides`).
-/

set_option autoImplicit false
set_option relaxedAutoImplicit false

namespace DocTree

/-- Whether a value compares with an expected value as the sign says; nothing if a pattern is
missing. -/
def Comparison.verdict? (comparison : Comparison) (actual : Value) (expected : Expected) :
    Option Bool :=
  if comparison = .matching ∧ expected.pattern = none then none
  else some (comparison.holds actual expected)

/-- Whether a candidate satisfies a condition; nothing if a pattern is missing. -/
def Condition.verdict? (condition : Condition) (candidate : Value) : Option Bool :=
  match condition.property with
  | none => condition.comparison.verdict? candidate condition.expected
  | some property =>
    match candidate.atKey? property with
    | some actual => condition.comparison.verdict? actual condition.expected
    | none => some false

/-- Combines the verdicts of a group's children; nothing if there are none. -/
def Connective.combine? (connective : Connective) : List Bool → Option Bool
  | [] => none
  | verdicts => some (connective.combine verdicts)

mutual

/-- Whether a candidate satisfies a node; nothing for a range, for a group without children, and
where a pattern is missing. -/
def Node.verdict? (candidate : Value) : Node → Option Bool
  | .condition test => test.verdict? candidate
  | .group children connective =>
    (Node.verdicts? candidate children).bind connective.combine?
  | .range _ => none

/-- The verdict of each node, if all have one. -/
def Node.verdicts? (candidate : Value) : List Node → Option (List Bool)
  | [] => some []
  | node :: nodes =>
    (Node.verdict? candidate node).bind fun verdict ↦
      (Node.verdicts? candidate nodes).map (verdict :: ·)

end

/-- Whether the run of a filter never has to fall back on a verdict, whatever the candidate. Ranges
and native queries have no tree to run. -/
def Query.Decides : Query → Prop
  | .node (.range _) => True
  | .node tree => ∀ candidate, tree.verdict? candidate = some (tree.holds candidate)
  | .native _ => True

variable {candidate : Value}

theorem Condition.verdict?_eq {condition : Condition} (hcondition : condition.FollowsRaw)
    (candidate : Value) : condition.verdict? candidate = some (condition.holds candidate) := by
  have hcompares : ∀ actual, condition.comparison.verdict? actual condition.expected =
      some (condition.comparison.holds actual condition.expected) := by
    intro actual
    refine if_neg ?_
    rintro ⟨hmatching, hpattern⟩
    have hsource := hcondition.pattern
    rw [hpattern, if_pos hmatching] at hsource
    cases hsource
  unfold verdict? holds
  cases condition.property with
  | none => exact hcompares candidate
  | some property =>
    cases hactual : candidate.atKey? property with
    | some actual =>
      simp only [hactual]
      exact hcompares actual
    | none => simp only [hactual]

theorem Connective.combine?_eq (connective : Connective) {verdicts : List Bool}
    (hne : verdicts ≠ []) : connective.combine? verdicts = some (connective.combine verdicts) := by
  cases verdicts with
  | nil => exact absurd rfl hne
  | cons first rest => rfl

theorem Node.verdicts?_eq {children : List Node}
    (hchildren : ∀ child ∈ children,
      Node.verdict? candidate child = some (Node.holds candidate child)) :
    Node.verdicts? candidate children = some (Node.verdicts candidate children) := by
  induction children with
  | nil => rfl
  | cons child rest ih =>
    obtain ⟨hchild, hrest⟩ := List.forall_mem_cons.mp hchildren
    rw [verdicts?, verdicts, hchild, ih hrest, Option.bind_some, Option.map_some]

/-- A tree that can be written, and whose conditions expect what their raw values denote, gives its
verdicts without a fallback. -/
theorem Node.verdict?_eq {levels : Nat} {node : Node} (hnode : node.Printable levels)
    (hconditions : ∀ condition ∈ node.conditions, condition.FollowsRaw) (candidate : Value) :
    node.verdict? candidate = some (node.holds candidate) := by
  induction hnode with
  | @condition _ leaf hleaf =>
    rw [verdict?, holds]
    exact leaf.verdict?_eq (hconditions leaf (List.mem_singleton_self leaf)) candidate
  | @group _ children connective hlength hchildren ih =>
    rw [conditions, conditionsOfAll_eq_flatMap] at hconditions
    have hverdicts := verdicts?_eq fun child hchild ↦ ih child hchild fun condition hcondition ↦
      hconditions condition (List.mem_flatMap.mpr ⟨child, hchild, hcondition⟩)
    have hne : Node.verdicts candidate children ≠ [] := by
      cases children with
      | nil => simp at hlength
      | cons child rest => exact List.cons_ne_nil _ _
    rw [verdict?, holds, hverdicts, Option.bind_some, connective.combine?_eq hne]

theorem Query.WellFormed.decides {query : Query} (hquery : query.WellFormed) :
    query.Decides := by
  obtain ⟨hprintable, hconditions⟩ := hquery
  match query with
  | .native text => trivial
  | .node (.range bounds) => trivial
  | .node (.condition leaf) => exact Node.verdict?_eq hprintable hconditions
  | .node (.group children connective) => exact Node.verdict?_eq hprintable hconditions

end DocTree
