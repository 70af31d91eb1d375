import DocTree.Proofs.Outcome
import DocTree.Proofs.Query.Grammar

/-!
# The texts that are filters

A pass over the inside of a filter succeeds on exactly the accepted texts (`isOk_parseGroup_iff`,
`isOk_parse_filter_iff`). It is followed one character at a time: what it still takes depends on the
text that it has collected (`Continues`), with one equation for each kind of character, and it has
something to return unless all it met was white space and connectives (`nodes_eq_nil_of_scan`).

Some accepted texts are no expressions (`parse_beyond_expression`).
-/

set_option autoImplicit false
set_option relaxedAutoImplicit false

namespace DocTree.Query

variable {inner : List Char → Prop} {text rest collected : List Char}

/-! ### What a pass still takes -/

/-- Nothing, or a connective and what is accepted after it. -/
def Onward (inner : List Char → Prop) (text : List Char) : Prop :=
  text = [] ∨ ∃ connective rest, text = Connective.sign connective :: rest ∧
    Joined (Loose inner) rest

/-- What may follow once some text has been collected: the rest of a stretch and what is after
it. -/
def Continues (inner : List Char → Prop) (collected text : List Char) : Prop :=
  ∃ loose first last, first ++ last = text ∧ Stretch inner loose first ∧
    Settles (collected ++ loose) ∧ Onward inner last

theorem not_onward_cons {c : Char} (hall : c ≠ '&') (hany : c ≠ '|') :
    ¬ Onward inner (c :: text) := by
  rintro (hnil | ⟨connective, rest, heq, -⟩)
  · cases hnil
  · rcases sign_cases connective with hsign | hsign
    · exact hall ((List.cons.inj heq).1.trans hsign)
    · exact hany ((List.cons.inj heq).1.trans hsign)

theorem not_stretch_sign (connective : Connective) (loose : List Char) :
    ¬ Stretch inner loose (connective.sign :: text) := by
  intro hstretch
  generalize hsign : connective.sign = c at hstretch
  cases hstretch with
  | plain hc hrest =>
    rcases sign_cases connective with hall | hany
    · exact hc.2.2.1 (hsign ▸ hall)
    · exact hc.2.2.2 (hsign ▸ hany)
  | group => cases connective <;> cases hsign

theorem continues_start_iff : Continues inner [] text ↔ Joined (Loose inner) text := by
  constructor
  · rintro ⟨loose, first, last, rfl, hstretch, hsettles, rfl | ⟨connective, rest, rfl, hrest⟩⟩
    · rw [List.append_nil]
      exact .one ⟨loose, hstretch, hsettles⟩
    · exact .more ⟨loose, hstretch, hsettles⟩ connective hrest
  · intro hjoined
    cases hjoined with
    | one hoperand =>
      obtain ⟨loose, hstretch, hsettles⟩ := hoperand
      exact ⟨loose, text, [], List.append_nil text, hstretch, hsettles, .inl rfl⟩
    | more hfirst connective hrest =>
      obtain ⟨loose, hstretch, hsettles⟩ := hfirst
      exact ⟨loose, _, _, rfl, hstretch, hsettles, .inr ⟨connective, _, rfl, hrest⟩⟩

theorem continues_nil_iff : Continues inner collected [] ↔ Settles collected := by
  constructor
  · rintro ⟨loose, first, last, heq, hstretch, hsettles, -⟩
    obtain ⟨rfl, rfl⟩ := List.append_eq_nil_iff.mp heq
    cases hstretch
    rwa [List.append_nil] at hsettles
  · intro hsettles
    exact ⟨[], [], [], rfl, .nil, by rwa [List.append_nil], .inl rfl⟩

/-- A plain character is collected. -/
theorem continues_plain_iff {c : Char} (hc : Plain c) :
    Continues inner collected (c :: text) ↔ Continues inner (collected ++ [c]) text := by
  constructor
  · rintro ⟨loose, first, last, heq, hstretch, hsettles, hlast⟩
    cases hstretch with
    | nil =>
      obtain rfl : last = c :: text := heq
      exact absurd hlast (not_onward_cons hc.2.2.1 hc.2.2.2)
    | @plain d loose first hd hrest =>
      obtain ⟨rfl, rfl⟩ := List.cons.inj heq
      exact ⟨loose, first, last, rfl, hrest, by rwa [List.append_assoc], hlast⟩
    | group hinside hrest => exact absurd (List.cons.inj heq).1.symm hc.1
  · rintro ⟨loose, first, last, rfl, hstretch, hsettles, hlast⟩
    rw [List.append_assoc] at hsettles
    exact ⟨c :: loose, c :: first, last, rfl, .plain hc hstretch, hsettles, hlast⟩

/-- At a connective the collected text has to end. -/
theorem continues_sign_iff (connective : Connective) :
    Continues inner collected (connective.sign :: text) ↔
      Settles collected ∧ Joined (Loose inner) text := by
  constructor
  · rintro ⟨loose, first, last, heq, hstretch, hsettles, hlast⟩
    cases first with
    | nil =>
      obtain rfl : last = connective.sign :: text := heq
      cases hstretch
      rw [List.append_nil] at hsettles
      rcases hlast with hnil | ⟨other, rest, hrest, hjoined⟩
      · cases hnil
      · exact ⟨hsettles, (List.cons.inj hrest).2 ▸ hjoined⟩
    | cons c first =>
      rw [(List.cons.inj heq).1] at hstretch
      exact absurd hstretch (not_stretch_sign connective loose)
  · rintro ⟨hsettles, hjoined⟩
    refine ⟨[], [], _, rfl, .nil, ?_, .inr ⟨connective, text, rfl, hjoined⟩⟩
    rwa [List.append_nil]

theorem not_continues_close : ¬ Continues inner collected (')' :: text) := by
  rintro ⟨loose, first, last, heq, hstretch, -, hlast⟩
  cases hstretch with
  | nil =>
    obtain rfl : last = ')' :: text := heq
    exact absurd hlast (not_onward_cons (by decide) (by decide))
  | plain hc hrest => exact hc.2.1 (List.cons.inj heq).1
  | group hinside hrest => cases heq

/-- The parenthesis that closes a group stands where it was found. -/
theorem eq_take_of_closing? {opened close : Nat} (hopened : opened ≠ 0)
    (hclose : closing? opened text = some close) :
    text = text.take close ++ ')' :: text.drop (close + 1) := by
  induction text generalizing opened close with
  | nil => cases hclose
  | cons c rest ih =>
    have hcases : (c = ')' ∧ close = 0) ∨ ∃ next before, next ≠ 0 ∧
        closing? next rest = some before ∧ close = before + 1 := by
      unfold closing? at hclose
      split at hclose
      · obtain ⟨before, hbefore, rfl⟩ := Option.map_eq_some_iff.mp hclose
        exact .inr ⟨opened + 1, before, by omega, hbefore, rfl⟩
      · split at hclose
        · rename_i hc
          split at hclose
          · exact .inl ⟨hc, (Option.some_inj.mp hclose).symm⟩
          · obtain ⟨before, hbefore, rfl⟩ := Option.map_eq_some_iff.mp hclose
            exact .inr ⟨opened - 1, before, by omega, hbefore, rfl⟩
        · obtain ⟨before, hbefore, rfl⟩ := Option.map_eq_some_iff.mp hclose
          exact .inr ⟨opened, before, hopened, hbefore, rfl⟩
    rcases hcases with ⟨rfl, rfl⟩ | ⟨next, before, hnext, hbefore, rfl⟩
    · rfl
    · rw [List.take_succ_cons, List.drop_succ_cons, List.cons_append, ← ih hnext hbefore]

/-- A group reaches to the parenthesis that is found by counting, because its inside is balanced. -/
theorem continues_open_iff (hinner : ∀ inside, inner inside → Balanced inside) :
    Continues inner collected ('(' :: text) ↔ ∃ close, closing? 1 text = some close ∧
      inner (text.take close) ∧ Continues inner collected (text.drop (close + 1)) := by
  constructor
  · rintro ⟨loose, first, last, heq, hstretch, hsettles, hlast⟩
    cases hstretch with
    | nil =>
      obtain rfl : last = '(' :: text := heq
      exact absurd hlast (not_onward_cons (by decide) (by decide))
    | plain hc hrest => exact absurd (List.cons.inj heq).1 hc.1
    | @group inside loose tail hinside hrest =>
      obtain rfl : inside ++ ')' :: (tail ++ last) = text := by simpa using heq
      refine ⟨inside.length, closing?_of_balanced (hinner inside hinside) _, ?_, ?_⟩
      · rwa [List.take_left]
      · rw [drop_closing]
        exact ⟨_, tail, last, rfl, hrest, hsettles, hlast⟩
  · rintro ⟨close, hclose, hinside, loose, first, last, heq, hstretch, hsettles, hlast⟩
    refine ⟨loose, '(' :: (text.take close ++ ')' :: first), last, ?_, .group hinside hstretch,
      hsettles, hlast⟩
    rw [List.cons_append, List.append_assoc, List.cons_append, heq]
    exact congrArg ('(' :: ·) (eq_take_of_closing? (by decide) hclose).symm

/-! ### What a pass takes -/

variable {read : Nat → List Char → Except QueryError Node} {position : Nat} {state final : Scan}

/-- Collected text ends if it settles, and gives a node unless it is white space. -/
theorem Scan.flush_cases (state : Scan) :
    (Settles state.text ∧ ∃ flushed, state.flush = .ok flushed ∧ flushed.text = [] ∧
        (flushed.nodes = [] ↔ state.nodes = [] ∧ Blank state.text)) ∨
      ¬ Settles state.text ∧ ∃ error, state.flush = .error error := by
  unfold Scan.flush
  by_cases hblank : Blank state.text
  · have hempty : (Text.trim state.text).isEmpty = true := by
      rw [Text.trim_eq_nil_of_blank hblank]
      rfl
    rw [if_pos hempty]
    exact .inl ⟨.inl hblank, _, rfl, rfl, by simp [hblank]⟩
  · have hempty : ¬ (Text.trim state.text).isEmpty = true := by
      rwa [List.isEmpty_iff, Text.trim_eq_nil_iff]
    rw [if_neg hempty]
    cases hparse : Condition.parse state.text with
    | ok condition => exact .inl ⟨.inr ⟨condition, hparse⟩, _, rfl, rfl, by simp [hblank]⟩
    | error error =>
      refine .inr ⟨?_, error, rfl⟩
      rintro (hsettled | ⟨condition, hcondition⟩)
      · exact hblank hsettled
      · rw [hparse] at hcondition
        cases hcondition

theorem isOk_flush_iff (state : Scan) :
    (∃ flushed, state.flush = .ok flushed) ↔ Settles state.text := by
  rcases state.flush_cases with ⟨hsettles, flushed, hflush, -⟩ | ⟨hsettles, error, hflush⟩
  · exact iff_of_true ⟨flushed, hflush⟩ hsettles
  · refine iff_of_false ?_ hsettles
    rintro ⟨flushed, hflushed⟩
    rw [hflush] at hflushed
    cases hflushed

/-- A pass succeeds on the texts that may follow what it has collected. -/
theorem isOk_scan_iff
    (hread : ∀ position inside, (∃ node, read position inside = .ok node) ↔ inner inside)
    (hinner : ∀ inside, inner inside → Balanced inside) (position : Nat) (state : Scan)
    (text : List Char) :
    (∃ final, scan read position state text = .ok final) ↔ Continues inner state.text text := by
  induction hlength : text.length using Nat.strong_induction_on
    generalizing position state text with
  | _ length ih =>
    cases text with
    | nil => rw [scan_nil, continues_nil_iff, isOk_flush_iff]
    | cons c rest =>
      have hrest : ∀ later : List Char, later.length ≤ rest.length → ∀ position state,
          (∃ final, scan read position state later = .ok final) ↔
            Continues inner state.text later := fun later hlater position state ↦
        ih later.length (by rw [← hlength, List.length_cons]; omega) position state later rfl
      rcases char_cases c with rfl | rfl | ⟨connective, rfl⟩ | hc
      · rw [scan_open, continues_open_iff hinner]
        cases hclose : closing? 1 rest with
        | none => simp
        | some close =>
          have hdrop : (rest.drop (close + 1)).length ≤ rest.length := by
            rw [List.length_drop]
            omega
          simp only [Except.bind_eq_ok_iff, Option.some.injEq, exists_eq_left', ← hread
            (position + 1)]
          have hlater := fun child ↦ hrest (rest.drop (close + 1)) hdrop (position + close + 2)
            { state with nodes := state.nodes ++ [child] }
          constructor
          · rintro ⟨final, child, hchild, hscan⟩
            exact ⟨⟨child, hchild⟩, (hlater child).mp ⟨final, hscan⟩⟩
          · rintro ⟨⟨child, hchild⟩, hcontinues⟩
            obtain ⟨final, hscan⟩ := (hlater child).mpr hcontinues
            exact ⟨final, child, hchild, hscan⟩
      · simp [scan_close, not_continues_close]
      · rw [scan_sign, continues_sign_iff, ← continues_start_iff]
        rcases state.flush_cases with
          ⟨hsettles, flushed, hflush, htext, -⟩ | ⟨hsettles, error, hflush⟩
        · rw [hflush, Except.bind, hrest rest le_rfl, htext]
          simp [hsettles]
        · simp [hflush, hsettles, Except.bind]
      · rw [scan_cons_plain hc, continues_plain_iff hc, hrest rest le_rfl]

/-- A pass that succeeds has nodes unless it met nothing but white space and connectives. -/
theorem nodes_eq_nil_of_scan (hplain : ∀ c ∈ state.text, Plain c)
    (hscan : scan read position state text = .ok final) :
    final.nodes = [] ↔ state.nodes = [] ∧ Blank state.text ∧ ∀ c ∈ text, ¬ Solid c := by
  replace hscan := passes_of_scan hscan
  induction hscan with
  | @nil position state hflushed =>
    rcases state.flush_cases with ⟨-, flushed, hflush, -, hnodes⟩ | ⟨-, error, hflush⟩
    · obtain rfl := Except.ok.inj (hflush.symm.trans hflushed)
      simpa using hnodes
    · rw [hflush] at hflushed
      cases hflushed
  | @group position close state rest child hclose hchild hafter ih =>
    have hsolid : Solid '(' := ⟨by decide, by decide, by decide⟩
    simp [ih hplain, hsolid]
  | @sign position state flushed connective rest hflush hafter ih =>
    have hsign : ¬ Solid connective.sign := by
      rcases sign_cases connective with hsign | hsign <;> simp [Solid, hsign]
    rcases state.flush_cases with ⟨-, other, hother, htext, hcollected⟩ | ⟨-, error, herror⟩
    · obtain rfl := Except.ok.inj (hflush.symm.trans hother)
      have hnodes := ih (by simp [htext])
      change final.nodes = [] ↔ flushed.nodes = [] ∧ Blank flushed.text ∧
        ∀ c ∈ rest, ¬ Solid c at hnodes
      rw [hnodes, hcollected, htext, List.forall_mem_cons]
      simp [Blank, hsign, and_assoc]
    · rw [hflush] at herror
      cases herror
  | @plain position state c rest hc hafter ih =>
    have hnext : ∀ d ∈ state.text ++ [c], Plain d :=
      List.forall_mem_append.mpr ⟨hplain, List.forall_mem_singleton.mpr hc⟩
    have hnodes : final.nodes = [] ↔ state.nodes = [] ∧ Blank (state.text ++ [c]) ∧
        ∀ c ∈ rest, ¬ Solid c := ih hnext
    have hblank : Blank (state.text ++ [c]) ↔ Blank state.text ∧ ¬ Solid c := by
      have hsigns := hc.2.2
      simp [Blank, or_imp, forall_and, Solid, hsigns]
    rw [hnodes, hblank, List.forall_mem_cons, and_assoc]

/-- Reading the inside of a group succeeds on exactly the accepted texts. -/
theorem isOk_parseGroup_iff (levels position : Nat) (text : List Char) :
    (∃ node, parseGroup levels position text = .ok node) ↔ Accepted levels text := by
  induction levels generalizing position text with
  | zero => simp [parseGroup, Accepted]
  | succ levels ih =>
    have hscan := isOk_scan_iff ih (fun _ ↦ Accepted.balanced) position {} text
    rw [continues_start_iff] at hscan
    have hnode : ∀ final : Scan, (∃ node, final.node = .ok node) ↔ final.nodes ≠ [] := by
      intro final
      unfold Scan.node
      split <;> simp_all
    have hsolid : ∀ final, scan (parseGroup levels) position {} text = .ok final →
        ((∃ node, final.node = .ok node) ↔ ∃ c ∈ text, Solid c) := by
      intro final hfinal
      rw [hnode, ne_eq, nodes_eq_nil_of_scan (List.forall_mem_nil _) hfinal]
      simp [Blank]
    rw [parseGroup, Accepted, ← hscan]
    cases hfinal : scan (parseGroup levels) position {} text with
    | ok final => simpa using hsolid final hfinal
    | error error => simp

/-- A text in `?(…)` is read as a filter exactly when its inside is accepted, and every expression
is. -/
theorem isOk_parse_filter_iff (inside : List Char) :
    ((∃ query, parse (String.ofList ('?' :: '(' :: (inside ++ [')']))) = .ok query) ↔
        Accepted (maxGroupDepth + 1) inside) ∧
      (Expression (maxGroupDepth + 1) inside → Accepted (maxGroupDepth + 1) inside) := by
  refine ⟨?_, Expression.accepted⟩
  rw [parse, String.toList_ofList, parseChars_filter, ← isOk_parseGroup_iff _ 2]
  simp only [Except.map_eq_ok_iff]
  constructor
  · rintro ⟨query, node, hnode, -⟩
    exact ⟨node, hnode⟩
  · rintro ⟨node, hnode⟩
    exact ⟨_, node, hnode, rfl⟩

/-- A dangling connective is accepted, and so is a condition with a group inside it. -/
theorem parse_beyond_expression :
    ((∃ query, parse "?(@=a&)" = .ok query) ∧
        ¬ Expression (maxGroupDepth + 1) "@=a&".toList) ∧
      (∃ query, parse "?(@=(@=x)b)" = .ok query) ∧
        ¬ Expression (maxGroupDepth + 1) "@=(@=x)b".toList := by
  have hdangling : parse "?(@=a&)" =
      .ok (.node (.condition ⟨none, .equal, ⟨.text "a", "a", none⟩⟩)) := by
    with_unfolding_all rfl
  have hsplit : parse "?(@=(@=x)b)" =
      .ok (.node (.group
        [.condition ⟨none, .equal, ⟨.text "x", "x", none⟩⟩,
          .condition ⟨none, .equal, ⟨.text "b", "b", none⟩⟩] .all)) := by
    with_unfolding_all rfl
  refine ⟨⟨⟨_, hdangling⟩, fun hexpression ↦ ?_⟩, ⟨_, hsplit⟩, fun hexpression ↦ ?_⟩
  · have hlast : '&' ∈ "@=a&".toList.getLast? := rfl
    exact (hexpression.ne_sign_of_getLast? hlast).1 rfl
  · have hplain : Plain '(' := hexpression.plain_of_head? (by decide) rfl (by decide)
      (by decide) '(' (by decide)
    exact hplain.1 rfl

end DocTree.Query
