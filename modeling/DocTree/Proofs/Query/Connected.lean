import DocTree.Proofs.Query.Failure
import DocTree.Proofs.Query.Nesting
import DocTree.Proofs.Query.Positions

/-!
# Filters that are connected

Two filters are connected by putting each in parentheses and a connective between them. The text is
read as a group of their two nodes (`parse_connected`), a group of two holds of a candidate when
both nodes do, or one of them (`holds_connected`), and so running it finds the candidates that both
filters find, or one of them (`run_connected`).
-/

set_option autoImplicit false
set_option relaxedAutoImplicit false

namespace DocTree

/-- A group of two nodes holds as its connective says. -/
theorem Node.holds_connected (one two : Node) (connective : Connective) (candidate : Value) :
    Node.holds candidate (.group [one, two] connective) =
      match connective with
      | .all => one.holds candidate && two.holds candidate
      | .any => one.holds candidate || two.holds candidate := by
  cases connective <;> simp [Node.holds, Node.verdicts, Connective.combine]

namespace Query

variable {left right text : String} {one two tree : Node} {query : Query}
  {predicate : Option NativePredicate} {candidates : List Value} {positions : List Nat}

/-! ### What a run finds -/

/-- Whether a run found exactly the candidates at some positions, in increasing order. -/
structure Found.Lists (found : Found) (candidates : List Value) (chosen : Nat → Prop) : Prop where
  sorted : found.positions.Pairwise (· < ·)
  mem_iff : ∀ index, index ∈ found.positions ↔ chosen index
  values_eq : found.values.map some = found.positions.map (candidates[·]?)

theorem Found.Lists.imp {found : Found} {chosen other : Nat → Prop}
    (hfound : found.Lists candidates chosen) (hchosen : ∀ index, chosen index ↔ other index) :
    found.Lists candidates other :=
  ⟨hfound.sorted, fun index ↦ (hfound.mem_iff index).trans (hchosen index), hfound.values_eq⟩

theorem run_of_positions (hparse : parse text = .ok query)
    (hrun : query.positions predicate candidates = .ok positions) :
    run predicate candidates text = .ok ⟨positions, positions.filterMap (candidates[·]?)⟩ := by
  simp [run, hparse, hrun, bind, Except.bind, pure, Except.pure]

/-- Every position that was chosen has its candidate. -/
theorem map_some_filterMap (hpositions : ∀ index ∈ positions, index < candidates.length) :
    (positions.filterMap (candidates[·]?)).map some = positions.map (candidates[·]?) := by
  rw [List.map_filterMap, ← List.filterMap_eq_map]
  refine List.filterMap_congr fun index hindex ↦ ?_
  rw [Function.comp_apply, List.getElem?_eq_getElem (hpositions index hindex), Option.map_some]

/-- Running a filter finds the candidates of which its node holds. -/
theorem exists_run_filter (hparse : parse text = .ok (.node tree))
    (hrange : (Query.node tree).isRange = false) (predicate : Option NativePredicate)
    (candidates : List Value) :
    ∃ found, run predicate candidates text = .ok found ∧
      found.Lists candidates fun index ↦
        ∃ candidate, candidates[index]? = some candidate ∧ tree.holds candidate = true := by
  cases hrun : (Query.node tree).positions predicate candidates with
  | error cause => exact absurd hrun (positions_node_ne_error tree)
  | ok positions =>
    exact ⟨_, run_of_positions hparse hrun, positions_sorted hrun, mem_positions_iff hrange hrun,
      map_some_filterMap fun _ ↦ lt_length_of_mem_positions hrun⟩

/-! ### Filters in a filter -/

theorem parse_filter (inside : String) :
    parse ("?(" ++ inside ++ ")") =
      (parseGroup (maxGroupDepth + 1) 2 inside.toList).map .node := by
  have htext : ("?(" ++ inside ++ ")").toList = '?' :: '(' :: (inside.toList ++ [')']) := by
    simp
  rw [parse, htext, parseChars_filter]

/-- A filter that leaves room for one more group around it is read as its node one level further
down. -/
theorem exists_parseGroup_of_parse {inside : String}
    (hparse : ∃ query, parse ("?(" ++ inside ++ ")") = .ok query)
    (hnests : NestsWithin (maxGroupDepth - 1) inside.toList) :
    ∃ tree : Node, parse ("?(" ++ inside ++ ")") = .ok (.node tree) ∧
      (Query.node tree).isRange = false ∧
        ∀ position, parseGroup maxGroupDepth position inside.toList = .ok tree := by
  obtain ⟨query, hquery⟩ := hparse
  have hrange : query.isRange = false := by
    have hread : parseChars ('?' :: '(' :: (inside.toList ++ [')'])) = .ok query := by
      rw [← hquery, parse]
      simp
    exact isRange_of_parseChars (.inl rfl) hread
  rw [parse_filter] at hquery ⊢
  obtain ⟨tree, htree, rfl⟩ := Except.map_eq_ok_iff.mp hquery
  exact ⟨tree, hquery, hrange, parseGroup_of_nestsWithin htree hnests (by decide)⟩

/-- Two filters in parentheses with a connective between them are read as a group of their two
nodes. -/
theorem parse_connected
    (hleft : ∀ position, parseGroup maxGroupDepth position left.toList = .ok one)
    (hright : ∀ position, parseGroup maxGroupDepth position right.toList = .ok two)
    {connective : Connective}
    (htext : text.toList = '?' :: '(' :: ('(' :: (left.toList ++ ')' :: connective.sign :: '(' ::
      (right.toList ++ [')'])) ++ [')'])) :
    parse text = .ok (.node (.group [one, two] connective)) := by
  rw [parse, htext, parseChars_filter, parseGroup_connected hleft hright]
  rfl

/-- Running two filters that are connected finds, in increasing order, the candidates that both of
them find, or those that one of them finds. -/
theorem run_connected (hleft : ∃ query, parse ("?(" ++ left ++ ")") = .ok query)
    (hright : ∃ query, parse ("?(" ++ right ++ ")") = .ok query)
    (hnestsLeft : NestsWithin (maxGroupDepth - 1) left.toList)
    (hnestsRight : NestsWithin (maxGroupDepth - 1) right.toList)
    (predicate : Option NativePredicate) (candidates : List Value) :
    ∃ first second both either,
      run predicate candidates ("?(" ++ left ++ ")") = .ok first ∧
        run predicate candidates ("?(" ++ right ++ ")") = .ok second ∧
        run predicate candidates ("?((" ++ left ++ ")&(" ++ right ++ "))") = .ok both ∧
        run predicate candidates ("?((" ++ left ++ ")|(" ++ right ++ "))") = .ok either ∧
        both.Lists candidates
          (fun index ↦ index ∈ first.positions ∧ index ∈ second.positions) ∧
        either.Lists candidates
          (fun index ↦ index ∈ first.positions ∨ index ∈ second.positions) := by
  obtain ⟨one, hone, honeRange, honeInside⟩ := exists_parseGroup_of_parse hleft hnestsLeft
  obtain ⟨two, htwo, htwoRange, htwoInside⟩ := exists_parseGroup_of_parse hright hnestsRight
  have hall : parse ("?((" ++ left ++ ")&(" ++ right ++ "))") =
      .ok (.node (.group [one, two] .all)) :=
    parse_connected honeInside htwoInside (by simp [Connective.sign])
  have hany : parse ("?((" ++ left ++ ")|(" ++ right ++ "))") =
      .ok (.node (.group [one, two] .any)) :=
    parse_connected honeInside htwoInside (by simp [Connective.sign])
  obtain ⟨first, hfirst, hfirstLists⟩ := exists_run_filter hone honeRange predicate candidates
  obtain ⟨second, hsecond, hsecondLists⟩ := exists_run_filter htwo htwoRange predicate candidates
  obtain ⟨both, hboth, hbothLists⟩ := exists_run_filter hall rfl predicate candidates
  obtain ⟨either, heither, heitherLists⟩ := exists_run_filter hany rfl predicate candidates
  refine ⟨first, second, both, either, hfirst, hsecond, hboth, heither,
    hbothLists.imp fun index ↦ ?_, heitherLists.imp fun index ↦ ?_⟩
  · rw [hfirstLists.mem_iff, hsecondLists.mem_iff]
    cases candidates[index]? <;> simp [Node.holds_connected]
  · rw [hfirstLists.mem_iff, hsecondLists.mem_iff]
    cases candidates[index]? <;> simp [Node.holds_connected]

/-- Three candidates. -/
def letters : List Value := [.string "a", .string "b", .string "c"]

/-- One of the filters has a group in it. -/
theorem run_connected_letters :
    ∃ both either,
      run none letters "?((@=a|(@=b))&(@!=b))" = .ok both ∧
        run none letters "?((@=a|(@=b))|(@!=b))" = .ok either ∧
        both.Lists letters (fun index ↦ index ∈ [0, 1] ∧ index ∈ [0, 2]) ∧
        either.Lists letters (fun index ↦ index ∈ [0, 1] ∨ index ∈ [0, 2]) := by
  have hleft : parse ("?(" ++ "@=a|(@=b)" ++ ")") = .ok (.node (.group
      [.condition ⟨none, .equal, ⟨.text "a", "a", none⟩⟩,
        .condition ⟨none, .equal, ⟨.text "b", "b", none⟩⟩] .any)) := by
    with_unfolding_all rfl
  have hright : parse ("?(" ++ "@!=b" ++ ")") =
      .ok (.node (.condition ⟨none, .notEqual, ⟨.text "b", "b", none⟩⟩)) := by
    with_unfolding_all rfl
  have hfirst : (run none letters ("?(" ++ "@=a|(@=b)" ++ ")")).toOption.map Found.positions =
      some [0, 1] := by
    decide +kernel
  have hsecond : (run none letters ("?(" ++ "@!=b" ++ ")")).toOption.map Found.positions =
      some [0, 2] := by
    decide +kernel
  obtain ⟨first, second, both, either, hfound, hother, hboth, heither, hall, hany⟩ :=
    run_connected ⟨_, hleft⟩ ⟨_, hright⟩ (nestsWithin_of_count_le (by decide))
      (nestsWithin_of_count_le (by decide)) none letters
  rw [hfound] at hfirst
  rw [hother] at hsecond
  rw [Option.some.inj hfirst, Option.some.inj hsecond] at hall hany
  exact ⟨both, either, hboth, heither, hall, hany⟩

end Query

end DocTree
