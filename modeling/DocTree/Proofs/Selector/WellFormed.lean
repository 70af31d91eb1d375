import DocTree.Proofs.Query.Verdict
import DocTree.Proofs.Selector.Shape

/-!
# The selectors that are read

The queries in a selector that is read are read themselves, and so they are as well formed as a
query that stands alone (`wellFormed_of_parse`). None of them is a range.
-/

set_option autoImplicit false
set_option relaxedAutoImplicit false

namespace DocTree

/-- Every query that is read, alone or in a selector, is well formed, and its filter decides about
each candidate without a fallback; and no query in a selector is a range. -/
theorem wellFormed_of_parse :
    (∀ text query, Query.parse text = .ok query → query.WellFormed ∧ query.Decides) ∧
      ∀ text selector, Selector.parse text = .ok selector → ∀ filter ∈ selector,
        filter.rangeFree ∧
          ∀ query, filter.query? = some query → query.WellFormed ∧ query.Decides := by
  refine ⟨fun text query hread ↦ ?_, fun text selector hread filter hfilter ↦ ?_⟩
  · have hquery := Query.wellFormed_of_parseChars hread
    exact ⟨hquery, hquery.decides⟩
  · refine ⟨Selector.rangeFree_of_parse hread filter hfilter, fun query hquery ↦ ?_⟩
    obtain ⟨source, -, hparse⟩ := Selector.readsQuery_of_parse hread filter hfilter query hquery
    have hread := Query.wellFormed_of_parseChars hparse
    exact ⟨hread, hread.decides⟩

/-- A filter that looks for a match: candidates that match `b` and have a `c` above `x`. -/
def matchingFilter : Query :=
  .node (.group
    [.condition ⟨none, .matching, ⟨.text "b", "b", none⟩⟩,
      .condition ⟨some "c", .greater, ⟨.text "x", "x", none⟩⟩]
    .all)

theorem printable_matchingFilter : matchingFilter.Printable := by
  have hfirst : Condition.Printable ⟨none, .matching, ⟨.text "b", "b", none⟩⟩ :=
    ⟨by simp, by simp, by simp, Text.trim_eq_self_iff.mp rfl, by simp [Query.Plain],
      fun _ ↦ rfl⟩
  have hsecond : Condition.Printable ⟨some "c", .greater, ⟨.text "x", "x", none⟩⟩ :=
    ⟨by simp, by simp [Condition.isPropertyChar_of_ascii], by simp,
      Text.trim_eq_self_iff.mp rfl, by simp [Query.Plain], by simp⟩
  exact .group _ (by decide) (List.forall_mem_cons.mpr
    ⟨.condition hfirst, List.forall_mem_singleton.mpr (.condition hsecond)⟩)

/-- A filter with a pattern, and a filter in brackets. -/
theorem wellFormed_of_parse_matching :
    Query.parse "?(@ =~ b & @.c > x)" = .ok matchingFilter.coerced ∧
      matchingFilter.coerced.WellFormed ∧ matchingFilter.coerced.Decides ∧
      ∃ query, Selector.parse "rows[?(@=a|(@=b&@!=c))]" =
          .ok [.key "rows", .elementQuery query] ∧
        query.WellFormed ∧ query.Decides ∧ (Filter.elementQuery query).rangeFree := by
  have hgap : ∀ c ∈ [' '], Text.isBlank c = true := List.forall_mem_singleton.mpr (by decide)
  have hquery : Query.parse "?(@ =~ b & @.c > x)" = .ok matchingFilter.coerced :=
    Query.parseChars_render hgap printable_matchingFilter
  have hselector : Selector.parse "rows[?(@=a|(@=b&@!=c))]" =
      .ok [.key "rows", .elementQuery (.node (.group
        [.condition ⟨none, .equal, ⟨.text "a", "a", none⟩⟩,
          .group
            [.condition ⟨none, .equal, ⟨.text "b", "b", none⟩⟩,
              .condition ⟨none, .notEqual, ⟨.text "c", "c", none⟩⟩]
            .all]
        .any))] := by
    with_unfolding_all rfl
  obtain ⟨hformed, hdecides⟩ := wellFormed_of_parse.1 _ _ hquery
  obtain ⟨hrange, hheld⟩ := wellFormed_of_parse.2 _ _ hselector _
    (List.mem_cons_of_mem _ List.mem_cons_self)
  obtain ⟨hheldFormed, hheldDecides⟩ := hheld _ rfl
  exact ⟨hquery, hformed, hdecides, _, hselector, hheldFormed, hheldDecides, hrange⟩

end DocTree
