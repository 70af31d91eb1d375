import DocTree.Proofs.Query.Connected
import Mathlib.Data.Finset.Lattice.Fold
import Mathlib.Data.Finset.Range
import Mathlib.Order.Lattice.Nat

/-!
# Redundant parentheses

`wrap` puts a text in pairs of parentheses, and `nesting` is how many parentheses are open in a text
at once, at most. A filter in redundant parentheses is read as the same tree as long as the pairs
and the nesting together are no more than the limit, and is refused for its nesting as soon as they
are more (`parse_wrap`). With fewer levels a text that was read is read as the same node, or is
refused for its nesting and for nothing else (`parseGroup_of_fewer`); and an accepted text nests
within its levels (`Accepted.exists_nestsWithin`), so that the limit is exact.
-/

set_option autoImplicit false
set_option relaxedAutoImplicit false

namespace DocTree.Query

variable {text rest inside loose : List Char} {limit levels position : Nat} {node : Node}

/-! ### How deep a text nests -/

/-- How many parentheses are open in a text at once, at most. -/
def nesting (text : List Char) : Nat :=
  (Finset.range (text.length + 1)).sup fun count ↦
    (text.take count).count '(' - (text.take count).count ')'

theorem nesting_le_iff : nesting text ≤ limit ↔ NestsWithin limit text := by
  simp only [nesting, Finset.sup_le_iff, Finset.mem_range, Nat.sub_le_iff_le_add]
  constructor
  · intro hcounts front hfront
    have hlength := hfront.length_le
    have hcount := hcounts front.length (by omega)
    rw [← List.prefix_iff_eq_take.mp hfront] at hcount
    omega
  · intro hnests count _
    have hcount := hnests (text.take count) (List.take_prefix count text)
    omega

theorem NestsWithin.append (hbalanced : Balanced text) (htext : NestsWithin limit text)
    (hrest : NestsWithin limit rest) : NestsWithin limit (text ++ rest) := by
  intro front hfront
  rcases List.prefix_or_prefix_of_prefix hfront (List.prefix_append text rest) with
    hwithin | ⟨more, rfl⟩
  · exact htext front hwithin
  · have hcount := hrest more ((List.prefix_append_right_inj text).mp hfront)
    rw [List.count_append, List.count_append, hbalanced.count_eq]
    omega

/-- A group nests one deeper than its inside. -/
theorem NestsWithin.group (hbalanced : Balanced inside) (hinside : NestsWithin limit inside) :
    NestsWithin (limit + 1) ('(' :: (inside ++ [')'])) := by
  intro front hfront
  cases front with
  | nil => simp
  | cons c front =>
    obtain ⟨rfl, hrest⟩ := List.cons_prefix_cons.mp hfront
    have hcount : front.count '(' ≤ front.count ')' + limit := by
      rcases List.prefix_concat_iff.mp hrest with rfl | hwithin
      · have hlast : [')'].count '(' = 0 := rfl
        rw [List.count_append, List.count_append, hbalanced.count_eq]
        omega
      · exact hinside front hwithin
    rw [List.count_cons_self, List.count_cons_of_ne (by decide)]
    omega

theorem nestsWithin_other {c : Char} (hopen : c ≠ '(') : NestsWithin limit [c] := by
  have hcount : [c].count '(' = 0 := by simp [hopen]
  exact nestsWithin_of_count_le (by omega)

theorem Stretch.nestsWithin {inner : List Char → Prop}
    (hinner : ∀ inside, inner inside → Balanced inside ∧
      ∃ fewer, limit = fewer + 1 ∧ NestsWithin fewer inside)
    (hstretch : Stretch inner loose text) : NestsWithin limit text := by
  induction hstretch with
  | nil => exact nestsWithin_of_count_le (Nat.zero_le limit)
  | plain hc hrest ih => exact .append (.other hc.1 hc.2.1) (nestsWithin_other hc.1) ih
  | @group inside loose text hinside hrest ih =>
    obtain ⟨hbalanced, fewer, rfl, hnests⟩ := hinner inside hinside
    have hgroup := NestsWithin.append (.group hbalanced) (hnests.group hbalanced) ih
    rwa [List.cons_append, List.append_assoc] at hgroup

theorem Joined.nestsWithin {operand : List Char → Prop}
    (hoperand : ∀ text, operand text → Balanced text ∧ NestsWithin limit text)
    (hjoined : Joined operand text) : NestsWithin limit text := by
  induction hjoined with
  | one htext => exact (hoperand _ htext).2
  | @more first rest hfirst connective hrest ih =>
    obtain ⟨hbalanced, hnests⟩ := hoperand first hfirst
    have hsign : connective.sign ≠ '(' := by
      cases connective <;> decide
    have hafter := NestsWithin.append (balanced_sign connective) (nestsWithin_other hsign) ih
    exact .append hbalanced hnests hafter

/-- An accepted text nests one level less deep than its groups may. -/
theorem Accepted.exists_nestsWithin (haccepted : Accepted levels text) :
    ∃ fewer, levels = fewer + 1 ∧ NestsWithin fewer text := by
  induction levels generalizing text with
  | zero => exact haccepted.elim
  | succ levels ih =>
    refine ⟨levels, rfl, haccepted.1.nestsWithin fun operand hloose ↦ ⟨hloose.balanced, ?_⟩⟩
    obtain ⟨loose, hstretch, -⟩ := hloose
    exact hstretch.nestsWithin fun _ hinside ↦ ⟨hinside.balanced, ih hinside⟩

/-! ### Fewer levels -/

/-- With fewer levels a text is read as the same node, or refused for its nesting. -/
theorem parseGroup_of_fewer {fewer : Nat} (hlevels : fewer ≤ levels)
    (hread : parseGroup levels position text = .ok node) (later : Nat) :
    parseGroup fewer later text = .ok node ∨
      parseGroup fewer later text = .error (.nestingTooDeep maxGroupDepth) := by
  induction fewer generalizing levels position later text node with
  | zero => exact .inr rfl
  | succ fewer ih =>
    obtain ⟨levels, rfl⟩ : ∃ inner, levels = inner + 1 :=
      Nat.exists_eq_add_one_of_ne_zero (by omega)
    rw [parseGroup_succ] at hread
    obtain ⟨final, hscan, hnode⟩ := Except.bind_eq_ok_iff.mp hread
    have hinner : ∀ position inside node, parseGroup levels position inside = .ok node →
        ∀ later, parseGroup fewer later inside = .ok node ∨
          ∃ error, error = .nestingTooDeep maxGroupDepth ∧
            parseGroup fewer later inside = .error error := by
      intro position inside node hinside later
      simpa using ih (by omega) hinside later
    rw [parseGroup_succ]
    rcases scan_ok_or_refused hinner hscan later with hother | ⟨error, rfl, hother⟩
    · rw [hother]
      exact .inl hnode
    · rw [hother]
      exact .inr rfl

/-! ### Pairs of parentheses -/

/-- A text in so many pairs of parentheses. -/
def wrap : Nat → String → String
  | 0, text => text
  | pairs + 1, text => "(" ++ wrap pairs text ++ ")"

theorem toList_wrap_succ (pairs : Nat) (text : String) :
    (wrap (pairs + 1) text).toList = '(' :: ((wrap pairs text).toList ++ [')']) := by
  simp [wrap]

theorem wrap_wrap (outer inner : Nat) (text : String) :
    wrap outer (wrap inner text) = wrap (outer + inner) text := by
  induction outer with
  | zero => rw [Nat.zero_add]; rfl
  | succ outer ih => rw [Nat.succ_add, wrap, wrap, ih]

theorem balanced_wrap {text : String} (htext : Balanced text.toList) (pairs : Nat) :
    Balanced (wrap pairs text).toList := by
  induction pairs with
  | zero => exact htext
  | succ pairs ih =>
    rw [toList_wrap_succ]
    exact .group ih

/-- A group around the whole text is read as its inside, with one level fewer. -/
theorem parseGroup_group (hinside : Balanced inside) (levels position : Nat) :
    parseGroup (levels + 1) position ('(' :: (inside ++ [')'])) =
      parseGroup levels (position + 1) inside := by
  rw [parseGroup_succ, scan_open, closing?_of_balanced hinside]
  simp only [List.take_left, drop_closing, scan_nil]
  cases hread : parseGroup levels (position + 1) inside with
  | error error => rfl
  | ok child => rfl

theorem parseGroup_wrap {text : String} (htext : Balanced text.toList)
    (levels position pairs : Nat) :
    parseGroup (levels + pairs) position (wrap pairs text).toList =
      parseGroup levels (position + pairs) text.toList := by
  induction pairs generalizing position with
  | zero => rfl
  | succ pairs ih =>
    rw [toList_wrap_succ, ← Nat.add_assoc, parseGroup_group (balanced_wrap htext pairs), ih,
      Nat.add_assoc, Nat.add_comm 1 pairs]

/-- Redundant parentheses around an accepted filter change nothing up to the limit, and beyond it
the filter is refused for its nesting. -/
theorem parse_wrap {text : String} {query : Query}
    (hparse : parse ("?(" ++ text ++ ")") = .ok query) (pairs : Nat) :
    (pairs + nesting text.toList ≤ maxGroupDepth →
        parse ("?(" ++ wrap pairs text ++ ")") = .ok query) ∧
      (maxGroupDepth < pairs + nesting text.toList →
        parse ("?(" ++ wrap pairs text ++ ")") = .error (.nestingTooDeep maxGroupDepth)) := by
  rw [parse_filter] at hparse
  obtain ⟨node, hnode, rfl⟩ := Except.map_eq_ok_iff.mp hparse
  have hbalanced : Balanced text.toList :=
    ((isOk_parseGroup_iff _ 2 text.toList).mp ⟨node, hnode⟩).balanced
  simp only [parse_filter]
  constructor
  · intro hdepth
    obtain ⟨spare, hspare⟩ := Nat.exists_eq_add_of_le hdepth
    have hread := parseGroup_of_nestsWithin hnode
      (nesting_le_iff.mp (Nat.le_add_right _ spare)) (by omega) (2 + pairs)
    have hlevels : maxGroupDepth + 1 = nesting text.toList + spare + 1 + pairs := by omega
    rw [hlevels, parseGroup_wrap hbalanced, hread]
    rfl
  · intro hdepth
    have hrefused : parseGroup (maxGroupDepth + 1) 2 (wrap pairs text).toList =
        .error (.nestingTooDeep maxGroupDepth) := by
      rcases Nat.lt_or_ge maxGroupDepth pairs with hmany | hfew
      · -- The pairs alone are too many, whatever is in them.
        obtain ⟨more, rfl⟩ := Nat.exists_eq_add_of_lt hmany
        have hpairs : maxGroupDepth + more + 1 = maxGroupDepth + 1 + more := by omega
        have hread := parseGroup_wrap (balanced_wrap hbalanced more) 0 2 (maxGroupDepth + 1)
        rwa [Nat.zero_add, wrap_wrap, ← hpairs] at hread
      · -- The levels that the pairs leave are too few for the text, which is accepted with more.
        obtain ⟨levels, hlevels⟩ := Nat.exists_eq_add_of_le hfew
        have hpairs : maxGroupDepth + 1 = levels + 1 + pairs := by omega
        rw [hpairs, parseGroup_wrap hbalanced]
        refine (parseGroup_of_fewer (by omega) hnode _).resolve_left fun hread ↦ ?_
        have haccepted := (isOk_parseGroup_iff _ _ _).mp ⟨node, hread⟩
        obtain ⟨fewer, hfewer, hnests⟩ := haccepted.exists_nestsWithin
        have hnesting := nesting_le_iff.mpr hnests
        omega
    rw [hrefused]
    rfl

/-- A condition beside a group, in as many parentheses as are read, and in one pair more. -/
theorem parse_wrap_letters :
    parse ("?(" ++ wrap 63 "@=a|(@=b)" ++ ")") = .ok (.node (.group
        [.condition ⟨none, .equal, ⟨.text "a", "a", none⟩⟩,
          .condition ⟨none, .equal, ⟨.text "b", "b", none⟩⟩] .any)) ∧
      parse ("?(" ++ wrap 64 "@=a|(@=b)" ++ ")") = .error (.nestingTooDeep 64) := by
  have hparse : parse ("?(" ++ "@=a|(@=b)" ++ ")") = .ok (.node (.group
      [.condition ⟨none, .equal, ⟨.text "a", "a", none⟩⟩,
        .condition ⟨none, .equal, ⟨.text "b", "b", none⟩⟩] .any)) := by
    with_unfolding_all rfl
  have hnesting : nesting "@=a|(@=b)".toList = 1 := by decide
  exact ⟨(parse_wrap hparse 63).1 (by rw [hnesting]; decide),
    (parse_wrap hparse 64).2 (by rw [hnesting]; decide)⟩

end DocTree.Query
