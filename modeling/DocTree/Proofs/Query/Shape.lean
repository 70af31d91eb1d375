import DocTree.Proofs.Query.Scan

/-!
# The nodes that are read

`Node.childInduction` proves a property of every node from the same property of its children. A pass
over a group collects plain text, and turns it into conditions that it puts among the nodes of its
inner groups (`Scan.Collects.scan`). A property of nodes that conditions of plain text have and that
groups inherit from their children therefore holds of every node that is read
(`forall_of_parseGroup`); it may speak of the levels of groups that were left. In particular no
filter is a range (`isRange_of_parseChars`): ranges are read from texts of another form only, and
`parseChars_cases` tells the three forms apart.
-/

set_option autoImplicit false
set_option relaxedAutoImplicit false

namespace DocTree

/-- A property that conditions and ranges have, and groups whose children have it, is a property of
every node. -/
@[elab_as_elim]
theorem Node.childInduction {motive : Node → Prop}
    (condition : ∀ leaf : Condition, motive (.condition leaf))
    (group : ∀ (children : List Node) (connective : Connective),
      (∀ child ∈ children, motive child) → motive (.group children connective))
    (range : ∀ bounds : Range, motive (.range bounds)) (node : Node) : motive node := by
  refine @Node.rec motive (fun children ↦ ∀ child ∈ children, motive child) condition
    (fun children connective ↦ group children connective) range ?_ ?_ node
  · exact List.forall_mem_nil _
  · exact fun child children hchild hchildren ↦ List.forall_mem_cons.mpr ⟨hchild, hchildren⟩

namespace Query

/-- Whether a query chooses by position and not by candidate. -/
def isRange : Query → Bool
  | .node (.range _) => true
  | _ => false

/-- Whether a pass has collected only nodes with a property, and plain text. -/
structure Scan.Collects (holds : Node → Prop) (state : Scan) : Prop where
  nodes : ∀ node ∈ state.nodes, holds node
  text : ∀ c ∈ state.text, Plain c

theorem Scan.Collects.push {holds : Node → Prop} {state : Scan} (hstate : state.Collects holds)
    {node : Node} (hnode : holds node) :
    Scan.Collects holds { state with nodes := state.nodes ++ [node] } :=
  ⟨List.forall_mem_append.mpr ⟨hstate.nodes, List.forall_mem_singleton.mpr hnode⟩, hstate.text⟩

theorem Scan.Collects.flush {holds : Node → Prop} {state final : Scan}
    (hcondition : ∀ text condition, (∀ c ∈ text, Plain c) →
      Condition.parse text = .ok condition → holds (.condition condition))
    (hstate : state.Collects holds) (hflush : state.flush = .ok final) :
    final.Collects holds := by
  unfold Scan.flush at hflush
  split at hflush
  · cases hflush
    exact ⟨hstate.nodes, List.forall_mem_nil _⟩
  · split at hflush
    · rename_i condition hparse
      cases hflush
      have hnew := hcondition _ _ hstate.text hparse
      exact ⟨(hstate.push hnew).nodes, List.forall_mem_nil _⟩
    · cases hflush

/-- One pass collects what it should if conditions and the nodes of inner groups have the
property. -/
theorem Scan.Collects.scan {holds : Node → Prop}
    {inner : Nat → List Char → Except QueryError Node} {position : Nat} {state final : Scan}
    {text : List Char}
    (hcondition : ∀ text condition, (∀ c ∈ text, Plain c) →
      Condition.parse text = .ok condition → holds (.condition condition))
    (hinner : ∀ position text node, inner position text = .ok node → holds node)
    (hstate : state.Collects holds) (hscan : scan inner position state text = .ok final) :
    final.Collects holds := by
  replace hscan := passes_of_scan hscan
  induction hscan with
  | nil hflush => exact hstate.flush hcondition hflush
  | group hclose hchild hafter ih => exact ih (hstate.push (hinner _ _ _ hchild))
  | sign hflush hafter ih =>
    have hflushed := hstate.flush hcondition hflush
    exact ih ⟨hflushed.nodes, hflushed.text⟩
  | plain hc hafter ih =>
    exact ih ⟨hstate.nodes, List.forall_mem_append.mpr
      ⟨hstate.text, List.forall_mem_singleton.mpr hc⟩⟩

/-- A property of conditions that groups inherit from their children holds of every group read. The
property may depend on the levels, as long as more levels do no harm. -/
theorem forall_of_parseGroup {holds : Nat → Node → Prop} {levels position : Nat}
    {text : List Char} {node : Node}
    (hcondition : ∀ levels text condition, (∀ c ∈ text, Plain c) →
      Condition.parse text = .ok condition → holds levels (.condition condition))
    (hgroup : ∀ levels children connective, 2 ≤ children.length →
      (∀ child ∈ children, holds levels child) → holds (levels + 1) (.group children connective))
    (hmono : ∀ levels node, holds levels node → holds (levels + 1) node)
    (hread : parseGroup levels position text = .ok node) : holds levels node := by
  induction levels generalizing position text node with
  | zero => cases hread
  | succ levels ih =>
    rw [parseGroup_succ] at hread
    obtain ⟨final, hscan, hnode⟩ := Except.bind_eq_ok_iff.mp hread
    have hempty : Scan.Collects (holds levels) {} :=
      ⟨List.forall_mem_nil _, List.forall_mem_nil _⟩
    have hnodes := (hempty.scan (hcondition levels) (fun _ _ _ ↦ ih) hscan).nodes
    unfold Scan.node at hnode
    split at hnode
    · cases hnode
    · rename_i child heq
      cases hnode
      exact hmono _ _ (hnodes _ (by simp [heq]))
    · rename_i hnone hsingle
      cases hnode
      refine hgroup _ _ _ ?_ hnodes
      cases hlist : final.nodes with
      | nil => exact absurd hlist hnone
      | cons first rest =>
        cases rest with
        | nil => exact absurd hlist (hsingle first)
        | cons second rest => simp

/-- What is read is the tree of a filter, the text of a native query, or else a range. -/
theorem parseChars_cases {text : List Char} {query : Query}
    (hread : parseChars text = .ok query) :
    (∃ inside node, parseGroup (maxGroupDepth + 1) 2 inside = .ok node ∧ query = .node node) ∨
      (∃ inside, Text.trim inside ≠ [] ∧
        query = .native (String.ofList (Text.trim inside))) ∨
      (∃ range, query = .node (.range range) ∧
        ∀ rest, Text.trim text ≠ '?' :: '(' :: rest ∧ Text.trim text ≠ '?' :: '\x7b' :: rest) := by
  unfold parseChars at hread
  dsimp only at hread
  split at hread
  · split at hread
    · cases hread
    · rename_i inside _
      obtain ⟨node, hnode, rfl⟩ := Except.map_eq_ok_iff.mp hread
      exact .inl ⟨inside, node, hnode, rfl⟩
  · split at hread
    · cases hread
    · rename_i inside _
      split at hread
      · cases hread
      · rename_i hne
        refine .inr (.inl ⟨inside, fun hnil ↦ ?_, (Except.ok.inj hread).symm⟩)
        simp [hnil] at hne
  · rename_i hfilter hnative
    obtain ⟨range, -, rfl⟩ := Except.map_eq_ok_iff.mp hread
    exact .inr (.inr ⟨range, rfl, fun rest ↦ ⟨hfilter rest, hnative rest⟩⟩)

/-- A text that starts like a filter or a native query is not read as a range. -/
theorem isRange_of_parseChars {text : List Char} {query : Query} {opening : Char}
    (hopening : opening = '(' ∨ opening = '\x7b')
    (hread : parseChars ('?' :: opening :: text) = .ok query) : query.isRange = false := by
  have hblank : Text.isBlank opening = false := by
    rcases hopening with rfl | rfl <;> decide
  have htrim : Text.trim ('?' :: opening :: text) = '?' :: opening :: Text.trimEnd text := by
    rw [Text.trim_cons_of_not_blank (by decide), Text.trimEnd_cons_of_not_blank hblank]
  rcases parseChars_cases hread with ⟨inside, node, hnode, rfl⟩ | ⟨inside, -, rfl⟩ |
    ⟨range, -, hother⟩
  · exact @forall_of_parseGroup (fun _ node ↦ (Query.node node).isRange = false) _ _ _ _
      (fun _ _ _ _ _ ↦ rfl) (fun _ _ _ _ _ ↦ rfl) (fun _ _ hnode ↦ hnode) hnode
  · rfl
  · obtain ⟨hfilter, hnative⟩ := hother (Text.trimEnd text)
    rcases hopening with rfl | rfl
    · exact absurd htrim hfilter
    · exact absurd htrim hnative

end Query

end DocTree
