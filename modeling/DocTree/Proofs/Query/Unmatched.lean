import DocTree.Proofs.Query.Nesting
import Mathlib.Order.Bounds.Defs

/-!
# Parentheses without a partner

An opening and a closing parenthesis are partners when what stands between them is balanced
(`Partners`). In a balanced text every parenthesis has a partner (`Balanced.not_unmatched`). A text
in `?(…)` whose parentheses are not balanced is refused, and when the reason given is an unmatched
parenthesis, its position is that of the first one without a partner
(`parse_unmatchedParenthesis`). A pass finds it because it leaves every group that is closed to its
inner reader, and the inside of such a group is balanced: what is before the fault is balanced, and
the fault is a parenthesis that closes nothing or that nothing closes (`Dangles`).
-/

set_option autoImplicit false
set_option relaxedAutoImplicit false

namespace DocTree.Query

variable {text front inside rest : List Char} {index opening closing : Nat}

/-! ### Partners -/

/-- Whether the parenthesis at one position of a text is closed by the one at another: what stands
between them is balanced. -/
def Partners (text : List Char) (opening closing : Nat) : Prop :=
  ∃ front inside back, text = front ++ '(' :: (inside ++ ')' :: back) ∧ Balanced inside ∧
    opening = front.length ∧ closing = front.length + inside.length + 1

/-- Whether a parenthesis stands at a position of a text and has no partner in it. -/
structure Unmatched (text : List Char) (index : Nat) : Prop where
  parenthesis : text[index]? = some '(' ∨ text[index]? = some ')'
  alone : ∀ other, ¬ Partners text index other ∧ ¬ Partners text other index

theorem Partners.append (hpartners : Partners text opening closing) (rest : List Char) :
    Partners (text ++ rest) opening closing := by
  obtain ⟨front, inside, back, rfl, hinside, hopening, hclosing⟩ := hpartners
  exact ⟨front, inside, back ++ rest, by simp, hinside, hopening, hclosing⟩

theorem Partners.shift (hpartners : Partners text opening closing) (front : List Char) :
    Partners (front ++ text) (front.length + opening) (front.length + closing) := by
  obtain ⟨before, inside, back, rfl, hinside, rfl, rfl⟩ := hpartners
  refine ⟨front ++ before, inside, back, by simp, hinside, by simp, ?_⟩
  rw [List.length_append]
  omega

/-- Every parenthesis of a balanced text has a partner. -/
theorem Balanced.exists_partner (htext : Balanced text)
    (hindex : text[index]? = some '(' ∨ text[index]? = some ')') :
    ∃ other, Partners text index other ∨ Partners text other index := by
  induction htext generalizing index with
  | nil => simp at hindex
  | @other c hopen hclose =>
    cases index with
    | zero => simp [hopen, hclose] at hindex
    | succ index => simp at hindex
  | @append first second hfirst hsecond ihFirst ihSecond =>
    by_cases hbefore : index < first.length
    · rw [List.getElem?_append_left hbefore] at hindex
      obtain ⟨other, hpartners⟩ := ihFirst hindex
      exact ⟨other, hpartners.imp (·.append second) (·.append second)⟩
    · obtain ⟨later, rfl⟩ := Nat.exists_eq_add_of_le (Nat.not_lt.mp hbefore)
      rw [List.getElem?_append_right (Nat.le_add_right _ _), Nat.add_sub_cancel_left] at hindex
      obtain ⟨other, hpartners⟩ := ihSecond hindex
      exact ⟨first.length + other, hpartners.imp (·.shift first) (·.shift first)⟩
  | @group inside hinside ih =>
    have hgroup : Partners ('(' :: (inside ++ [')'])) 0 (inside.length + 1) :=
      ⟨[], inside, [], rfl, hinside, rfl, by simp⟩
    cases index with
    | zero => exact ⟨_, .inl hgroup⟩
    | succ index =>
      rw [List.getElem?_cons_succ] at hindex
      by_cases hbefore : index < inside.length
      · rw [List.getElem?_append_left hbefore] at hindex
        obtain ⟨other, hpartners⟩ := ih hindex
        have hwithin : ∀ {first second}, Partners inside first second →
            Partners ('(' :: (inside ++ [')'])) (first + 1) (second + 1) := by
          intro first second hinner
          have hshifted := (hinner.append [')']).shift ['(']
          rwa [List.length_singleton, Nat.add_comm 1, Nat.add_comm 1] at hshifted
        exact ⟨other + 1, hpartners.imp hwithin hwithin⟩
      · obtain rfl : index = inside.length := by
          have hlength : index < (inside ++ [')']).length := by
            by_contra hbeyond
            rw [List.getElem?_eq_none (Nat.not_lt.mp hbeyond)] at hindex
            simp at hindex
          rw [List.length_append, List.length_singleton] at hlength
          omega
        exact ⟨0, .inr hgroup⟩

theorem Balanced.not_unmatched (htext : Balanced text) (index : Nat) : ¬ Unmatched text index := by
  intro hunmatched
  obtain ⟨other, hpartners⟩ := htext.exists_partner hunmatched.parenthesis
  exact hpartners.elim (hunmatched.alone other).1 (hunmatched.alone other).2

/-- Nowhere in a balanced text are more parentheses closed than opened. -/
theorem Balanced.count_le (htext : Balanced text) (hfront : front <+: text) :
    front.count ')' ≤ front.count '(' := by
  induction htext generalizing front with
  | nil => simp [List.prefix_nil.mp hfront]
  | @other c hopen hclose =>
    have hnone : ')' ∉ front := fun hmem ↦
      hclose (List.mem_singleton.mp (hfront.subset hmem)).symm
    simp [List.count_eq_zero_of_not_mem hnone]
  | @append first second hfirst hsecond ihFirst ihSecond =>
    rcases List.prefix_or_prefix_of_prefix hfront (List.prefix_append first second) with
      hwithin | ⟨more, rfl⟩
    · exact ihFirst hwithin
    · have hmore := ihSecond ((List.prefix_append_right_inj first).mp hfront)
      have hcount := hfirst.count_eq
      rw [List.count_append, List.count_append]
      omega
  | @group inside hinside ih =>
    cases front with
    | nil => simp
    | cons c front =>
      obtain ⟨rfl, hrest⟩ := List.cons_prefix_cons.mp hfront
      have hcount : front.count ')' ≤ front.count '(' + 1 := by
        rcases List.prefix_concat_iff.mp hrest with rfl | hwithin
        · have hequal := hinside.count_eq
          simp [hequal]
        · exact Nat.le_succ_of_le (ih hwithin)
      simpa using hcount

/-! ### The first parenthesis without a partner -/

/-- Whether `front` is what stands before a parenthesis of a text that closes nothing, or that
nothing closes. -/
inductive Dangles (front : List Char) : List Char → Prop where
  | close (rest : List Char) : Dangles front (front ++ ')' :: rest)
  | open {rest : List Char} (hopen : closing? 1 rest = none) : Dangles front (front ++ '(' :: rest)

/-- What is balanced before a text keeps its faults. -/
theorem Dangles.after (hdangles : Dangles front text) (before : List Char) :
    Dangles (before ++ front) (before ++ text) := by
  cases hdangles with
  | close rest =>
    rw [← List.append_assoc]
    exact .close rest
  | «open» hopen =>
    rw [← List.append_assoc]
    exact .open hopen

theorem Dangles.unmatched (hfront : Balanced front) (hdangles : Dangles front text) :
    Unmatched text front.length := by
  cases hdangles with
  | close rest =>
    refine ⟨by simp, fun other ↦ ⟨?_, ?_⟩⟩
    · rintro ⟨before, inside, back, heq, -, hlength, -⟩
      simpa using (List.append_inj heq hlength).2
    · rintro ⟨before, inside, back, heq, hinside, -, hlength⟩
      -- The partner would stand in `front`, with more closed than opened before it.
      have hsplit : front = before ++ '(' :: inside := by
        have hwhole : front ++ ')' :: rest = (before ++ '(' :: inside) ++ ')' :: back := by
          simpa using heq
        exact (List.append_inj hwhole (by simp [hlength, Nat.add_assoc])).1
      have hbefore := hfront.count_le (hsplit ▸ List.prefix_append before _)
      have hcount := hfront.count_eq
      rw [hsplit, List.count_append, List.count_append, List.count_cons_self,
        List.count_cons_of_ne (by decide), hinside.count_eq] at hcount
      omega
  | @«open» rest hopen =>
    refine ⟨by simp, fun other ↦ ⟨?_, ?_⟩⟩
    · rintro ⟨before, inside, back, heq, hinside, hlength, -⟩
      have hrest : rest = inside ++ ')' :: back := by
        simpa using (List.append_inj heq hlength).2
      rw [hrest, closing?_of_balanced hinside] at hopen
      cases hopen
    · rintro ⟨before, inside, back, heq, -, -, hlength⟩
      have hwhole : front ++ '(' :: rest = (before ++ '(' :: inside) ++ ')' :: back := by
        simpa using heq
      simpa using (List.append_inj hwhole (by simp [hlength, Nat.add_assoc])).2

/-- A parenthesis that dangles behind balanced text is the first without a partner. -/
theorem Dangles.isLeast (hfront : Balanced front) (hdangles : Dangles front text) :
    IsLeast {index | Unmatched text index} front.length := by
  refine ⟨hdangles.unmatched hfront, fun index hunmatched ↦ ?_⟩
  by_contra hbefore
  rw [Nat.not_le] at hbefore
  obtain ⟨rest, rfl⟩ : ∃ rest, text = front ++ rest := by
    cases hdangles <;> exact ⟨_, rfl⟩
  have hindex := hunmatched.parenthesis
  rw [List.getElem?_append_left hbefore] at hindex
  obtain ⟨other, hpartners⟩ := hfront.exists_partner hindex
  exact hpartners.elim (fun hthere ↦ (hunmatched.alone other).1 (hthere.append rest))
    fun hthere ↦ (hunmatched.alone other).2 (hthere.append rest)

/-! ### The inside of a group that is closed -/

/-- Whether a text closes so many groups that are open before it, each after something balanced. -/
inductive Closes : Nat → List Char → Prop where
  | balanced {text : List Char} (htext : Balanced text) : Closes 0 text
  | close {groups : Nat} {first rest : List Char} (hfirst : Balanced first)
    (hrest : Closes groups rest) : Closes (groups + 1) (first ++ ')' :: rest)

theorem Closes.prepend {groups : Nat} (hfront : Balanced front) (htext : Closes groups text) :
    Closes groups (front ++ text) := by
  cases htext with
  | balanced htext => exact .balanced (hfront.append htext)
  | close hfirst hrest =>
    rw [← List.append_assoc]
    exact .close (hfront.append hfirst) hrest

theorem Closes.open {groups : Nat} (htext : Closes (groups + 1) text) :
    Closes groups ('(' :: text) := by
  cases htext with
  | @close _ first rest hfirst hrest =>
    have hgroup := hrest.prepend (.group hfirst)
    rwa [List.cons_append, List.append_assoc] at hgroup

/-- What stands before the parenthesis that closes a group closes all groups inside it. -/
theorem closes_of_closing? {groups close : Nat} (hclose : closing? (groups + 1) text = some close) :
    Closes groups (text.take close) := by
  induction text generalizing groups close with
  | nil => cases hclose
  | cons c rest ih =>
    by_cases hopen : c = '('
    · subst hopen
      rw [closing?_open] at hclose
      obtain ⟨before, hbefore, rfl⟩ := Option.map_eq_some_iff.mp hclose
      exact (ih hbefore).open
    by_cases hclosing : c = ')'
    · subst hclosing
      cases groups with
      | zero =>
        obtain rfl : 0 = close := by simpa [closing?] using hclose
        exact .balanced .nil
      | succ groups =>
        rw [closing?_close] at hclose
        obtain ⟨before, hbefore, rfl⟩ := Option.map_eq_some_iff.mp hclose
        exact .close .nil (ih hbefore)
    · rw [closing?_other hopen hclosing] at hclose
      obtain ⟨before, hbefore, rfl⟩ := Option.map_eq_some_iff.mp hclose
      exact (ih hbefore).prepend (.other hopen hclosing)

/-- A group that is closed is balanced text up to its closing parenthesis. -/
theorem exists_of_closing? {close : Nat} (hclose : closing? 1 text = some close) :
    ∃ inside after, Balanced inside ∧ text = inside ++ ')' :: after ∧ close = inside.length := by
  have hsplit := eq_take_of_closing? Nat.one_ne_zero hclose
  refine ⟨text.take close, text.drop (close + 1), ?_, hsplit, ?_⟩
  · cases closes_of_closing? hclose with
    | balanced htext => exact htext
  · have hlength := congrArg List.length hsplit
    rw [List.length_append, List.length_cons, List.length_drop, List.length_take] at hlength
    rw [List.length_take]
    omega

/-! ### Where a pass finds the fault -/

/-- A condition is never refused for a parenthesis. -/
theorem parse_condition_ne_unmatched {source : List Char} {position : Nat} :
    Condition.parse source ≠ .error (.unmatchedParenthesis position) := by
  have hexpected : ∀ {comparison raw},
      Condition.expectedOf comparison raw ≠ .error (.unmatchedParenthesis position) := by
    intro comparison raw hread
    simp only [Condition.expectedOf] at hread
    split at hread
    · split at hread <;> cases hread
    · cases hread
  have hcomparison : ∀ {source property rest},
      Condition.parseComparison source property rest ≠ .error (.unmatchedParenthesis position) := by
    intro source property rest hread
    simp only [Condition.parseComparison] at hread
    split at hread
    · cases hread
    · split at hread
      · cases hread
      · exact hexpected (Except.map_eq_error_iff.mp hread)
  intro hread
  simp only [Condition.parse] at hread
  split at hread
  · split at hread
    · cases hread
    · exact hcomparison hread
  · exact hcomparison hread
  · cases hread

theorem Scan.flush_ne_unmatched (state : Scan) (position : Nat) :
    state.flush ≠ .error (.unmatchedParenthesis position) := by
  unfold Scan.flush
  intro hflush
  split at hflush
  · cases hflush
  · split at hflush
    · cases hflush
    · rename_i hparse
      exact absurd (Except.error.inj hflush ▸ hparse) parse_condition_ne_unmatched

variable {inner : Nat → List Char → Except QueryError Node} {position found : Nat} {state : Scan}

/-- Whether a position of a text, counted from `start`, is that of a parenthesis that dangles behind
balanced text. -/
def FaultAt (start found : Nat) (text : List Char) : Prop :=
  ∃ front, Balanced front ∧ Dangles front text ∧ found = start + front.length

/-- A fault stays where it is when balanced text is passed over. -/
theorem FaultAt.behind {start next : Nat} {before : List Char} (hbefore : Balanced before)
    (hnext : next = start + before.length) (hfault : FaultAt next found text) :
    FaultAt start found (before ++ text) := by
  obtain ⟨front, hfront, hdangles, rfl⟩ := hfault
  refine ⟨before ++ front, hbefore.append hfront, hdangles.after before, ?_⟩
  rw [hnext, List.length_append, Nat.add_assoc]

/-- A pass that finds an unmatched parenthesis finds one that dangles behind balanced text, if the
inner reader finds none in balanced text. -/
theorem faultAt_of_scan
    (hinner : ∀ {position inside found}, Balanced inside →
      inner position inside ≠ .error (.unmatchedParenthesis found))
    (hscan : scan inner position state text = .error (.unmatchedParenthesis found)) :
    FaultAt position found text := by
  fun_induction scan inner position state text with
  | case1 position state => exact absurd hscan (state.flush_ne_unmatched found)
  | case2 position state rest hclose =>
    cases hscan
    exact ⟨[], .nil, .open hclose, rfl⟩
  | case3 position state rest close hclose error hchild =>
    obtain ⟨inside, after, hinside, rfl, rfl⟩ := exists_of_closing? hclose
    obtain rfl := Except.error.inj hscan
    rw [List.take_left] at hchild
    exact absurd hchild (hinner hinside)
  | case4 position state rest close hclose child hchild ih =>
    obtain ⟨inside, after, hinside, rfl, rfl⟩ := exists_of_closing? hclose
    have hlength : position + inside.length + 2 =
        position + ('(' :: (inside ++ [')'])).length := by
      simp [Nat.add_assoc]
    have hgroup := (ih hscan).behind (.group hinside) hlength
    rwa [drop_closing, List.cons_append, List.append_assoc] at hgroup
  | case5 position state rest hclosing =>
    cases hscan
    exact ⟨[], .nil, .close rest, rfl⟩
  | case6 position state c rest hopen hclosing hsign error hconnect =>
    obtain rfl := Except.error.inj hscan
    rw [Scan.connect, Except.map_eq_error_iff] at hconnect
    exact absurd hconnect (state.flush_ne_unmatched found)
  | case7 position state c rest hopen hclosing hsign next hconnect ih =>
    exact (ih hscan).behind (.other hopen hclosing) rfl
  | case8 position state c rest hopen hclosing hsign ih =>
    exact (ih hscan).behind (.other hopen hclosing) rfl

theorem faultAt_of_parseGroup {levels : Nat}
    (hread : parseGroup levels position text = .error (.unmatchedParenthesis found)) :
    FaultAt position found text := by
  induction levels generalizing position text found with
  | zero => cases hread
  | succ levels ih =>
    rw [parseGroup_succ, Except.bind_eq_error_iff] at hread
    rcases hread with hscan | ⟨final, -, hnode⟩
    · refine faultAt_of_scan (fun hinside hfault ↦ ?_) hscan
      obtain ⟨front, hfront, hdangles, -⟩ := ih hfault
      exact hinside.not_unmatched _ (hdangles.unmatched hfront)
    · unfold Scan.node at hnode
      split at hnode <;> cases hnode

/-- A filter whose parentheses are not balanced is refused. When it is refused for an unmatched
parenthesis, they are not balanced, and the position, which counts characters from the start of the
trimmed query, is that of the first parenthesis without a partner. -/
theorem parse_unmatchedParenthesis {query : String}
    (htrim : Text.trim query.toList = '?' :: '(' :: (inside ++ [')'])) :
    (¬ Balanced inside → ∃ error, parse query = .error error) ∧
      ∀ position, parse query = .error (.unmatchedParenthesis position) →
        ¬ Balanced inside ∧ ∃ index, position = index + 2 ∧
          IsLeast {index | Unmatched inside index} index := by
  have hparse : parse query = (parseGroup (maxGroupDepth + 1) 2 inside).map .node := by
    rw [parse, ← parseChars_trim, htrim, parseChars_filter]
  rw [hparse]
  constructor
  · intro hinside
    cases hread : parseGroup (maxGroupDepth + 1) 2 inside with
    | error error => exact ⟨error, rfl⟩
    | ok node => exact absurd ((isOk_parseGroup_iff _ 2 inside).mp ⟨node, hread⟩).balanced hinside
  · intro position hposition
    rw [Except.map_eq_error_iff] at hposition
    obtain ⟨front, hfront, hdangles, rfl⟩ := faultAt_of_parseGroup hposition
    have hleast := hdangles.isLeast hfront
    exact ⟨fun hinside ↦ hinside.not_unmatched _ hleast.1, front.length, Nat.add_comm 2 _, hleast⟩

/-- The second group is not closed, and the one before it has a character of two bytes. -/
theorem parse_unmatchedParenthesis_letters :
    parse " ?((@=ü)((@=b)) " = .error (.unmatchedParenthesis 7) ∧
      ¬ Balanced "(@=ü)((@=b)".toList ∧
      IsLeast {index | Unmatched "(@=ü)((@=b)".toList index} 5 := by
  have htrim : Text.trim " ?((@=ü)((@=b)) ".toList =
      '?' :: '(' :: ("(@=ü)((@=b)".toList ++ [')']) := by
    decide
  have hparse : parse " ?((@=ü)((@=b)) " = .error (.unmatchedParenthesis 7) := by
    with_unfolding_all rfl
  obtain ⟨hbalanced, index, hindex, hleast⟩ := (parse_unmatchedParenthesis htrim).2 7 hparse
  obtain rfl : 5 = index := by omega
  exact ⟨hparse, hbalanced, hleast⟩

end DocTree.Query
