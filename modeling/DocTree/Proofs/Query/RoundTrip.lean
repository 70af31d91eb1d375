import DocTree.Proofs.Query.Range
import DocTree.Proofs.Query.Scan

/-!
# Queries as they are written

`Query.render` writes a query: a range with its two points, a native query in braces, and a filter
as a tree of conditions in which every group but the outermost stands in parentheses. Reading the
text gives back the query (`Query.parse_render_coerced`), for every tree of groups of two or more
children that nests no deeper than the parser goes.

A tree is read from the inside out. If the children of a group are read as themselves by the reader
for their depth (`Query.ReadBy`), one pass collects exactly them (`scan_renderAll`), and so the
group is read as itself one level further up (`Node.Printable.readBy`).
-/

set_option autoImplicit false
set_option relaxedAutoImplicit false

namespace DocTree

/-! ### Writing queries -/

namespace Node

mutual

/-- A node as it is written inside a group, with `gap` on both sides of every connective. -/
def render (gap : List Char) : Node → List Char
  | .condition leaf => leaf.render
  | .group children connective => '(' :: (renderAll gap connective children ++ [')'])
  | .range bounds => bounds.render

/-- Nodes with the sign of a connective between each two. -/
def renderAll (gap : List Char) (connective : Connective) : List Node → List Char
  | [] => []
  | [child] => render gap child
  | child :: next :: rest =>
    render gap child ++ gap ++ connective.sign :: (gap ++ renderAll gap connective (next :: rest))

end

/-- A node as it is written inside the parentheses of a filter. -/
def inside (gap : List Char) : Node → List Char
  | .group children connective => renderAll gap connective children
  | other => other.render gap

/-- Whether a node is a tree of conditions and groups that can be written, with at most `levels`
groups inside each other. -/
inductive Printable : Nat → Node → Prop where
  | condition {levels : Nat} {condition : Condition} (hcondition : condition.Printable) :
    Printable levels (.condition condition)
  | group {levels : Nat} {children : List Node} (connective : Connective)
    (hlength : 2 ≤ children.length) (hchildren : ∀ child ∈ children, Printable levels child) :
    Printable (levels + 1) (.group children connective)

mutual

/-- The node with the literals and the patterns that the raw values in it denote. -/
def coerced : Node → Node
  | .condition leaf => .condition leaf.coerced
  | .group children connective => .group (coercedAll children) connective
  | .range bounds => .range bounds

/-- The nodes with the literals and the patterns that the raw values in them denote. -/
def coercedAll : List Node → List Node
  | [] => []
  | child :: rest => coerced child :: coercedAll rest

end

mutual

/-- The conditions in a node. -/
def conditions : Node → List Condition
  | .condition leaf => [leaf]
  | .group children _ => conditionsOfAll children
  | .range _ => []

/-- The conditions in some nodes. -/
def conditionsOfAll : List Node → List Condition
  | [] => []
  | child :: rest => conditions child ++ conditionsOfAll rest

end

theorem coercedAll_eq_map (children : List Node) : coercedAll children = children.map coerced := by
  induction children with
  | nil => rfl
  | cons child rest ih => rw [coercedAll, ih, List.map_cons]

theorem conditionsOfAll_eq_flatMap (children : List Node) :
    conditionsOfAll children = children.flatMap conditions := by
  induction children with
  | nil => rfl
  | cons child rest ih => rw [conditionsOfAll, ih, List.flatMap_cons]

end Node

namespace Query

/-- A query as it is written. -/
def render (gap : List Char) : Query → List Char
  | .node (.range bounds) => bounds.render
  | .node tree => '?' :: '(' :: (tree.inside gap ++ [')'])
  | .native text => '?' :: '\x7b' :: (text.toList ++ ['\x7d'])

/-- Whether a query can be written. A filter is one group with at most `maxGroupDepth` groups inside
each other in it. -/
def Printable : Query → Prop
  | .node (.range _) => True
  | .node tree => tree.Printable (maxGroupDepth + 1)
  | .native text => text ≠ "" ∧ Text.Trimmed text.toList

/-- The query with the literals and the patterns that the raw values in it denote. -/
def coerced : Query → Query
  | .node tree => .node tree.coerced
  | .native text => .native text

/-- The conditions in a query. -/
def conditions : Query → List Condition
  | .node tree => tree.conditions
  | .native _ => []

end Query

/-! ### Reading a group -/

namespace Query

variable {inner : Nat → List Char → Except QueryError Node} {gap : List Char} {child : Node}
  {children : List Node}

/-- Whether a pass with some inner reader can read a node as itself. -/
def ReadBy (inner : Nat → List Char → Except QueryError Node) (gap : List Char) : Node → Prop
  | .condition condition => condition.Printable
  | .group children connective => Balanced (Node.renderAll gap connective children) ∧
      ∀ position, inner position (Node.renderAll gap connective children) =
        .ok (Node.coerced (.group children connective))
  | .range _ => False

theorem plain_of_isBlank {c : Char} (hblank : Text.isBlank c = true) : Plain c := by
  refine ⟨?_, ?_, ?_, ?_⟩ <;> rintro rfl <;> exact absurd hblank (by decide)

theorem ReadBy.balanced (hchild : ReadBy inner gap child) : Balanced (child.render gap) := by
  cases child with
  | condition condition =>
    exact balanced_of_plain fun _ hmem ↦ Condition.plain_of_mem_render hchild hmem
  | group children connective => exact .group hchild.1
  | range range => exact hchild.elim

theorem balanced_renderAll (hgap : ∀ c ∈ gap, Text.isBlank c = true) (connective : Connective)
    (hchildren : ∀ child ∈ children, ReadBy inner gap child) :
    Balanced (Node.renderAll gap connective children) := by
  have hspace : Balanced gap := balanced_of_plain fun c hmem ↦ plain_of_isBlank (hgap c hmem)
  have hsign := balanced_sign connective
  induction children with
  | nil => exact .nil
  | cons child rest ih =>
    have hchild := (hchildren child List.mem_cons_self).balanced
    cases rest with
    | nil => exact hchild
    | cons next rest =>
      have hrest := ih fun other hmem ↦ hchildren other (List.mem_cons_of_mem _ hmem)
      exact .append (.append hchild hspace) (.append hsign (.append hspace hrest))

/-- A child and the white space behind it leave a pass ready to add the child to its nodes. -/
theorem scan_child {state : Scan} (hchild : ReadBy inner gap child)
    (hstate : ∀ c ∈ state.text, Text.isBlank c = true) {back : List Char}
    (hback : ∀ c ∈ back, Text.isBlank c = true) (position : Nat) :
    ∃ next collected,
      (∀ rest, scan inner position state (child.render gap ++ back ++ rest) =
        scan inner next collected rest) ∧
      collected.flush = .ok ⟨state.nodes ++ [child.coerced], state.connective, []⟩ := by
  have hplain : ∀ c ∈ back, Plain c := fun c hmem ↦ plain_of_isBlank (hback c hmem)
  cases child with
  | condition condition =>
    refine ⟨_, _, fun rest ↦ scan_plain (fun c hmem ↦ ?_) position state rest,
      Scan.flush_condition hchild (List.append_assoc _ _ _).symm hstate hback⟩
    rcases List.mem_append.mp hmem with hcondition | hblank
    · exact Condition.plain_of_mem_render hchild hcondition
    · exact hplain c hblank
  | group children connective =>
    obtain ⟨hbalanced, hread⟩ := hchild
    refine ⟨position + (Node.renderAll gap connective children).length + 2 + back.length,
      ⟨state.nodes ++ [(Node.group children connective).coerced], state.connective,
        state.text ++ back⟩, fun rest ↦ ?_, Scan.flush_blank fun c hmem ↦ ?_⟩
    · have hshape : (Node.group children connective).render gap ++ back ++ rest =
          '(' :: (Node.renderAll gap connective children ++ ')' :: (back ++ rest)) := by
        simp [Node.render]
      rw [hshape, scan_group hbalanced (hread (position + 1)), scan_plain hplain]
    · rcases List.mem_append.mp hmem with hold | hnew
      · exact hstate c hold
      · exact hback c hnew
  | range range => exact hchild.elim

/-- A pass over the text of some nodes collects them, with their connective if there are two. -/
theorem scan_renderAll (hgap : ∀ c ∈ gap, Text.isBlank c = true) (connective : Connective)
    (hne : children ≠ []) (hchildren : ∀ child ∈ children, ReadBy inner gap child)
    {state : Scan} (hstate : ∀ c ∈ state.text, Text.isBlank c = true) (position : Nat) :
    scan inner position state (Node.renderAll gap connective children) =
      .ok ⟨state.nodes ++ Node.coercedAll children,
        if 2 ≤ children.length then state.connective.or (some connective) else state.connective,
        []⟩ := by
  induction children generalizing state position with
  | nil => exact absurd rfl hne
  | cons child rest ih =>
    have hchild := hchildren child List.mem_cons_self
    cases rest with
    | nil =>
      obtain ⟨next, collected, hscan, hflush⟩ :=
        scan_child hchild hstate (List.forall_mem_nil _) position
      have hlast := hscan []
      rw [List.append_nil, List.append_nil] at hlast
      rw [Node.renderAll, hlast, scan_nil, hflush]
      rfl
    | cons second rest =>
      obtain ⟨next, collected, hscan, hflush⟩ := scan_child hchild hstate hgap position
      have hrest := fun other hmem ↦ hchildren other (List.mem_cons_of_mem child hmem)
      rw [Node.renderAll, hscan, scan_connective hflush,
        scan_plain fun c hmem ↦ plain_of_isBlank (hgap c hmem),
        ih (List.cons_ne_nil second rest) hrest hgap]
      -- A connective that comes later does not replace the first one.
      simp [Node.coercedAll]

/-- The text of two or more nodes is read as a group one level further up. -/
theorem parseGroup_renderAll {levels : Nat} (hgap : ∀ c ∈ gap, Text.isBlank c = true)
    (connective : Connective) (hlength : 2 ≤ children.length)
    (hchildren : ∀ child ∈ children, ReadBy (parseGroup levels) gap child) (position : Nat) :
    parseGroup (levels + 1) position (Node.renderAll gap connective children) =
      .ok (Node.coerced (.group children connective)) := by
  have hne : children ≠ [] := List.ne_nil_of_length_pos (by omega)
  rw [parseGroup, scan_renderAll hgap connective hne hchildren (List.forall_mem_nil _)]
  simp only [hlength, if_true, List.nil_append, Node.coerced, Scan.node]
  cases children with
  | nil => exact absurd rfl hne
  | cons first rest =>
    cases rest with
    | nil => exact absurd hlength (by simp)
    | cons second rest => rfl

end Query

/-- A tree that can be written in so many levels of groups is read in them. -/
theorem Node.Printable.readBy {levels : Nat} {node : Node} (hnode : node.Printable levels)
    {gap : List Char} (hgap : ∀ c ∈ gap, Text.isBlank c = true) :
    Query.ReadBy (Query.parseGroup levels) gap node := by
  induction hnode with
  | condition hcondition => exact hcondition
  | group connective hlength hchildren ih =>
    exact ⟨Query.balanced_renderAll hgap connective ih,
      Query.parseGroup_renderAll hgap connective hlength ih⟩

/-- The inside of a filter is read as its tree. -/
theorem Node.Printable.parseGroup_inside {levels : Nat} {node : Node}
    (hnode : node.Printable (levels + 1)) {gap : List Char}
    (hgap : ∀ c ∈ gap, Text.isBlank c = true) (position : Nat) :
    Query.parseGroup (levels + 1) position (node.inside gap) = .ok node.coerced := by
  cases hnode with
  | @condition _ condition hcondition =>
    have hread : ∀ child ∈ [Node.condition condition],
        Query.ReadBy (Query.parseGroup levels) gap child := by
      simpa [Query.ReadBy] using hcondition
    have hrender : (Node.condition condition).inside gap =
        Node.renderAll gap .all [.condition condition] := by
      rw [Node.renderAll, Node.inside]
      exact fun _ _ heq ↦ Node.noConfusion heq
    rw [hrender, Query.parseGroup, Query.scan_renderAll hgap .all (List.cons_ne_nil _ _) hread
      (List.forall_mem_nil _)]
    rfl
  | group connective hlength hchildren =>
    exact (Node.Printable.readBy (.group connective hlength hchildren) hgap).2 position

theorem Node.Printable.followsRaw {levels : Nat} {node : Node} (hnode : node.Printable levels)
    {condition : Condition} (hmem : condition ∈ node.coerced.conditions) :
    condition.FollowsRaw := by
  induction hnode with
  | condition hcondition =>
    rw [List.mem_singleton.mp hmem]
    exact Condition.followsRaw_coerced hcondition
  | group connective hlength hchildren ih =>
    rw [coerced, conditions, coercedAll_eq_map, conditionsOfAll_eq_flatMap] at hmem
    obtain ⟨node, hnode, hcondition⟩ := List.mem_flatMap.mp hmem
    obtain ⟨child, hchild, rfl⟩ := List.mem_map.mp hnode
    exact ih child hchild hcondition

/-! ### Reading a query -/

namespace Query

theorem dropLast?_append (front : List Char) (last : Char) :
    dropLast? last (front ++ [last]) = some front := by
  simp [dropLast?]

theorem parseChars_range (range : Range) :
    parseChars range.render = .ok (.node (.range range)) := by
  simp only [parseChars, Range.trim_render]
  split
  · rename_i heq
    exact absurd rfl (Range.render_chars (heq ▸ List.mem_cons_self)).1
  · rename_i heq
    exact absurd rfl (Range.render_chars (heq ▸ List.mem_cons_self)).1
  · rw [Range.parse_render]
    rfl

/-- White space around a query is not read. -/
theorem parseChars_trim (text : List Char) : parseChars (Text.trim text) = parseChars text := by
  simp only [parseChars, Text.trim_trim]

theorem parseChars_filter (inside : List Char) :
    parseChars ('?' :: '(' :: (inside ++ [')'])) =
      (parseGroup (maxGroupDepth + 1) 2 inside).map .node := by
  have htrimmed : Text.Trimmed ('?' :: '(' :: (inside ++ [')'])) :=
    Text.trimmed_between (by decide) (by decide) ('(' :: inside)
  simp only [parseChars, Text.trim_eq_self_iff.mpr htrimmed, dropLast?_append]

theorem parseChars_native {predicate : List Char} (hne : predicate ≠ [])
    (hpredicate : Text.Trimmed predicate) :
    parseChars ('?' :: '\x7b' :: (predicate ++ ['\x7d'])) =
      .ok (.native (String.ofList predicate)) := by
  have htrimmed : Text.Trimmed ('?' :: '\x7b' :: (predicate ++ ['\x7d'])) :=
    Text.trimmed_between (by decide) (by decide) ('\x7b' :: predicate)
  have hself := Text.trim_eq_self_iff.mpr hpredicate
  simp [parseChars, Text.trim_eq_self_iff.mpr htrimmed, dropLast?_append, hself, hne]

theorem parseChars_inside {gap : List Char} (hgap : ∀ c ∈ gap, Text.isBlank c = true)
    {node : Node} (hnode : node.Printable (maxGroupDepth + 1)) :
    parseChars ('?' :: '(' :: (node.inside gap ++ [')'])) = .ok (.node node.coerced) := by
  rw [parseChars_filter, hnode.parseGroup_inside hgap]
  rfl

theorem parseChars_render {gap : List Char} (hgap : ∀ c ∈ gap, Text.isBlank c = true)
    {query : Query} (hprintable : query.Printable) :
    parseChars (query.render gap) = .ok query.coerced := by
  match query with
  | .native text =>
    have hne : text.toList ≠ [] := fun hnil ↦ hprintable.1 (String.toList_eq_nil_iff.mp hnil)
    rw [render, parseChars_native hne hprintable.2, String.ofList_toList]
    rfl
  | .node (.range bounds) => exact parseChars_range bounds
  | .node (.condition leaf) => exact parseChars_inside hgap hprintable
  | .node (.group children connective) => exact parseChars_inside hgap hprintable

end Query

end DocTree
