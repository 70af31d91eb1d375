import DocTree.Proofs.Query.RoundTrip
import DocTree.Proofs.Query.Shape

/-!
# The queries that are read

What is read from a text is `Query.WellFormed` (`wellFormed_of_parseChars`), whatever the text. Its
conditions could have been written the way they are read (`Condition.printable_of_parse`), as long
as their text has no parenthesis and no connective, which is what a pass over a group makes sure of;
and they expect what their raw values denote (`Condition.followsRaw_of_parse`).
-/

set_option autoImplicit false
set_option relaxedAutoImplicit false

namespace DocTree

namespace Condition

variable {source text raw : List Char} {property : Option String} {condition : Condition}

/-! ### Conditions -/

theorem eq_of_comparison? {comparison : Comparison} {rest : List Char}
    (hread : comparison? text = some (comparison, rest)) : text = comparison.sign ++ rest := by
  unfold comparison? at hread
  split at hread <;> cases hread <;> rfl

/-- What a condition expects is made from its raw value only. -/
theorem followsRaw_of_expectedOf
    (hread : expectedOf condition.comparison raw = .ok condition.expected) :
    condition.expected.raw = String.ofList raw ∧ condition.FollowsRaw ∧
      (condition.comparison = .matching → (Pattern.compile? (String.ofList raw)).isSome) := by
  obtain ⟨property, comparison, expected⟩ := condition
  simp only [expectedOf] at hread
  split at hread
  · rename_i hmatching
    cases hcompile : Pattern.compile? (String.ofList raw) with
    | none =>
      rw [hcompile] at hread
      cases hread
    | some pattern =>
      rw [hcompile] at hread
      obtain rfl := Except.ok.inj hread
      refine ⟨rfl, ⟨by rw [String.toList_ofList], ?_⟩, fun _ ↦ rfl⟩
      rw [if_pos hmatching, Option.map_some, source_of_compile? hcompile]
  · rename_i hother
    obtain rfl := Except.ok.inj hread
    refine ⟨rfl, ⟨by rw [String.toList_ofList], ?_⟩, fun hmatching ↦ absurd hmatching hother⟩
    rw [if_neg hother, Option.map_none]

/-- The raw value of a condition is what follows its sign, without the white space around it. -/
theorem exists_of_parseComparison
    (hread : parseComparison source property text = .ok condition) :
    ∃ rest, (∀ c ∈ rest, c ∈ text) ∧ Text.trim rest ≠ [] ∧ condition.property = property ∧
      expectedOf condition.comparison (Text.trim rest) = .ok condition.expected := by
  unfold parseComparison at hread
  dsimp only at hread
  split at hread
  · cases hread
  · rename_i comparison rest hsign
    have hrest : ∀ c ∈ rest, c ∈ text := by
      intro c hc
      refine (List.dropWhile_suffix Text.isBlank).subset ?_
      rw [← Text.trimStart, eq_of_comparison? hsign]
      exact List.mem_append_right _ hc
    split at hread
    · cases hread
    · rename_i hraw
      obtain ⟨expected, hexpected, rfl⟩ := Except.map_eq_ok_iff.mp hread
      exact ⟨rest, hrest, fun hnil ↦ hraw (List.isEmpty_iff.mpr hnil), rfl, hexpected⟩

/-- A condition has no property, or one with a name; its comparison follows. -/
theorem exists_parseComparison_of_parse (hread : parse text = .ok condition) :
    condition.property ≠ some "" ∧
      (∀ name, condition.property = some name → ∀ c ∈ name.toList, isPropertyChar c = true) ∧
        ∃ source rest, (∀ c ∈ rest, c ∈ text) ∧
          parseComparison source condition.property rest = .ok condition := by
  have hproperty : ∀ {source property rest},
      parseComparison source property rest = .ok condition → condition.property = property := by
    intro source property rest hcomparison
    obtain ⟨-, -, -, hproperty, -⟩ := exists_of_parseComparison hcomparison
    exact hproperty
  unfold parse at hread
  dsimp only at hread
  split at hread
  · rename_i rest htrim
    split at hread
    · cases hread
    · rename_i hname
      have hsome := hproperty hread
      refine ⟨?_, ?_, _, rest.dropWhile isPropertyChar, fun c hc ↦ ?_, by rwa [hsome]⟩
      · rw [hsome]
        intro hempty
        rw [String.ofList_eq_empty_iff.mp (Option.some.inj hempty)] at hname
        exact hname rfl
      · rw [hsome]
        rintro name heq c hc
        obtain rfl := Option.some.inj heq
        rw [String.toList_ofList] at hc
        exact List.mem_takeWhile_imp hc
      · have hrest := (List.dropWhile_suffix isPropertyChar).subset hc
        refine Text.mem_of_mem_trim ?_
        rw [htrim]
        exact List.mem_cons_of_mem _ (List.mem_cons_of_mem _ hrest)
  · rename_i rest hpoint htrim
    have hnone := hproperty hread
    refine ⟨by simp [hnone], by simp [hnone], _, rest, fun c hc ↦ ?_, by rwa [hnone]⟩
    refine Text.mem_of_mem_trim ?_
    rw [htrim]
    exact List.mem_cons_of_mem _ hc
  · cases hread

/-- A condition that is read from plain text could have been written. -/
theorem printable_of_parse (htext : ∀ c ∈ text, Query.Plain c)
    (hread : parse text = .ok condition) : condition.Printable := by
  obtain ⟨hne, hchars, source, back, hback, hcomparison⟩ := exists_parseComparison_of_parse hread
  obtain ⟨rest, hrest, hnonempty, -, hexpected⟩ := exists_of_parseComparison hcomparison
  obtain ⟨hraw, -, hcompiles⟩ := followsRaw_of_expectedOf hexpected
  have hlist : condition.expected.raw.toList = Text.trim rest := by
    rw [hraw, String.toList_ofList]
  refine ⟨hne, hchars, fun hempty ↦ hnonempty ?_, ?_, fun c hc ↦ ?_, ?_⟩
  · rw [← hlist, hempty]
    rfl
  · rw [hlist]
    exact Text.trimmed_trim rest
  · rw [hlist] at hc
    exact htext c (hback c (hrest c (Text.mem_of_mem_trim hc)))
  · rwa [hraw]

theorem followsRaw_of_parse (hread : parse text = .ok condition) : condition.FollowsRaw := by
  obtain ⟨-, -, source, back, -, hcomparison⟩ := exists_parseComparison_of_parse hread
  obtain ⟨rest, -, -, -, hexpected⟩ := exists_of_parseComparison hcomparison
  exact (followsRaw_of_expectedOf hexpected).2.1

end Condition

/-! ### Trees -/

/-- A tree that fits in so many levels fits in more. -/
theorem Node.Printable.succ {levels : Nat} {node : Node} (hnode : node.Printable levels) :
    node.Printable (levels + 1) := by
  induction hnode with
  | condition hcondition => exact .condition hcondition
  | group connective hlength hchildren ih => exact .group connective hlength ih

namespace Query

variable {levels position : Nat} {text : List Char} {node : Node} {query : Query}

/-- The tree of a group nests no deeper than the parser goes. -/
theorem printable_of_parseGroup (hread : parseGroup levels position text = .ok node) :
    node.Printable levels := by
  refine forall_of_parseGroup (fun levels text condition htext hparse ↦ ?_)
    (fun levels children connective hlength hchildren ↦ ?_) (fun levels node ↦ ?_) hread
  · exact .condition (Condition.printable_of_parse htext hparse)
  · exact .group connective hlength hchildren
  · exact Node.Printable.succ

theorem followsRaw_of_parseGroup (hread : parseGroup levels position text = .ok node) :
    ∀ condition ∈ node.conditions, condition.FollowsRaw := by
  refine @forall_of_parseGroup
    (fun _ node ↦ ∀ condition ∈ node.conditions, condition.FollowsRaw) _ _ _ _
    (fun levels text condition _ hparse ↦ ?_)
    (fun levels children connective _ hchildren condition hmem ↦ ?_)
    (fun _ _ hnode ↦ hnode) hread
  · exact List.forall_mem_singleton.mpr (Condition.followsRaw_of_parse hparse)
  · rw [Node.conditions, Node.conditionsOfAll_eq_flatMap] at hmem
    obtain ⟨child, hchild, hcondition⟩ := List.mem_flatMap.mp hmem
    exact hchildren child hchild condition hcondition

/-! ### Queries -/

/-- Whether a query is built like one that is read. A filter is a tree of conditions in which every
group has at least two children, with at most `maxGroupDepth + 1` groups inside each other. The raw
value of a condition is not empty and has no white space at its ends and none of the characters
that build groups; its property, if it has one, is not empty; and it expects what its raw value
denotes. -/
structure WellFormed (query : Query) : Prop where
  printable : query.Printable
  followsRaw : ∀ condition ∈ query.conditions, condition.FollowsRaw

theorem wellFormed_of_parseChars (hread : parseChars text = .ok query) : query.WellFormed := by
  rcases parseChars_cases hread with ⟨inside, node, hnode, rfl⟩ | ⟨inside, hne, rfl⟩ |
    ⟨range, rfl, -⟩
  · have hprintable := printable_of_parseGroup hnode
    refine ⟨?_, followsRaw_of_parseGroup hnode⟩
    cases node with
    | range range => trivial
    | _ => exact hprintable
  · refine ⟨⟨fun hempty ↦ hne (String.ofList_eq_empty_iff.mp hempty), ?_⟩, List.forall_mem_nil _⟩
    rw [String.toList_ofList]
    exact Text.trimmed_trim inside
  · exact ⟨trivial, List.forall_mem_nil _⟩

end Query

end DocTree
