import DocTree.Proofs.Query.Accepted

/-!
# Groups one level further down

A filter may be put in parentheses and written inside another one, if that does not nest its groups
too deep. `NestsWithin` counts the parentheses that are open in the text, without looking at what is
between them: an accepted text in which few are open is accepted with few levels
(`Accepted.of_nestsWithin`). What a text is read as depends neither on the levels that are left nor
on where it stands (`parseGroup_mono`), so the node of a filter is found again as a child of the
group around it (`parseGroup_connected`).
-/

set_option autoImplicit false
set_option relaxedAutoImplicit false

namespace DocTree.Query

variable {text rest inside loose : List Char} {limit levels : Nat}

/-! ### Open parentheses -/

/-- Nowhere in a text are more than `limit` parentheses open. -/
def NestsWithin (limit : Nat) (text : List Char) : Prop :=
  ∀ front, front <+: text → front.count '(' ≤ front.count ')' + limit

/-- Every parenthesis that is opened in a balanced text is closed in it. -/
theorem Balanced.count_eq (htext : Balanced text) : text.count '(' = text.count ')' := by
  induction htext with
  | nil => rfl
  | other hopen hclose => simp [hopen, hclose]
  | append hfirst hsecond ihFirst ihSecond =>
    rw [List.count_append, List.count_append, ihFirst, ihSecond]
  | group hinside ih => simp [ih]

theorem NestsWithin.left (htext : NestsWithin limit (text ++ rest)) : NestsWithin limit text :=
  fun front hfront ↦ htext front (hfront.trans (List.prefix_append text rest))

theorem NestsWithin.right (hbalanced : Balanced text) (htext : NestsWithin limit (text ++ rest)) :
    NestsWithin limit rest := by
  intro front hfront
  have hcount := htext (text ++ front) ((List.prefix_append_right_inj text).mpr hfront)
  rw [List.count_append, List.count_append, hbalanced.count_eq] at hcount
  omega

/-- No more parentheses are open than are opened at all. -/
theorem nestsWithin_of_count_le (htext : text.count '(' ≤ limit) : NestsWithin limit text := by
  intro front hfront
  have hcount := hfront.sublist.count_le '('
  omega

/-- Inside a group one parenthesis fewer may be open. -/
theorem NestsWithin.exists_group (htext : NestsWithin limit ('(' :: (inside ++ ')' :: rest))) :
    ∃ fewer, limit = fewer + 1 ∧ NestsWithin fewer inside := by
  have hopened := htext ['('] (List.prefix_append ['('] _)
  obtain ⟨fewer, rfl⟩ : ∃ fewer, limit = fewer + 1 :=
    Nat.exists_eq_add_one_of_ne_zero (by rintro rfl; simp at hopened)
  refine ⟨fewer, rfl, fun front hfront ↦ ?_⟩
  have hcount := htext ('(' :: front)
    (List.cons_prefix_cons.mpr ⟨rfl, hfront.trans (List.prefix_append inside _)⟩)
  rw [List.count_cons_self, List.count_cons_of_ne (by decide)] at hcount
  omega

/-! ### Few open parentheses need few levels -/

theorem Loose.balanced (htext : Loose (Accepted levels) text) : Balanced text := by
  obtain ⟨loose, hstretch, -⟩ := htext
  exact hstretch.balanced fun _ ↦ Accepted.balanced

theorem Stretch.of_nestsWithin
    (hinner : ∀ fewer inside, NestsWithin fewer inside → Accepted levels inside →
      Accepted (fewer + 1) inside)
    (hstretch : Stretch (Accepted levels) loose text) (htext : NestsWithin limit text) :
    Stretch (Accepted limit) loose text := by
  induction hstretch with
  | nil => exact .nil
  | @plain c loose text hc hrest ih =>
    have hone : Balanced [c] := .other hc.1 hc.2.1
    exact .plain hc (ih (NestsWithin.right hone htext))
  | @group inside loose text hinside hrest ih =>
    have hgroup : Balanced ('(' :: (inside ++ [')'])) := .group hinside.balanced
    have hafter : NestsWithin limit text := by
      refine NestsWithin.right hgroup ?_
      rwa [List.cons_append, List.append_assoc]
    obtain ⟨fewer, rfl, hfewer⟩ := htext.exists_group
    exact .group (hinner fewer inside hfewer hinside) (ih hafter)

/-- An accepted text is accepted with one level more than parentheses are open in it. -/
theorem Accepted.of_nestsWithin (haccepted : Accepted levels text)
    (htext : NestsWithin limit text) : Accepted (limit + 1) text := by
  induction levels generalizing limit text with
  | zero => exact haccepted.elim
  | succ levels ih =>
    have hloose : ∀ {text}, Loose (Accepted levels) text → NestsWithin limit text →
        Loose (Accepted limit) text := by
      rintro text ⟨loose, hstretch, hsettles⟩ hnests
      exact ⟨loose, hstretch.of_nestsWithin (fun _ _ hfewer hinside ↦ ih hinside hfewer) hnests,
        hsettles⟩
    obtain ⟨hjoined, hsolid⟩ := haccepted
    refine ⟨?_, hsolid⟩
    clear hsolid
    induction hjoined with
    | one hoperand => exact .one (hloose hoperand htext)
    | @more first rest hfirst connective hrest ihRest =>
      have hafter : NestsWithin limit rest :=
        NestsWithin.right (balanced_sign connective) (NestsWithin.right hfirst.balanced htext)
      exact .more (hloose hfirst htext.left) connective (ihRest hafter)

/-! ### What is read does not depend on the level -/

variable {read other : Nat → List Char → Except QueryError Node} {refused : QueryError → Prop}
  {position : Nat} {state final : Scan} {node : Node}

/-- If an inner reader differs from another one only in what it refuses, a pass does too. -/
theorem scan_ok_or_refused
    (hread : ∀ position inside node, read position inside = .ok node → ∀ later,
      other later inside = .ok node ∨ ∃ error, refused error ∧ other later inside = .error error)
    (hscan : scan read position state text = .ok final) (later : Nat) :
    scan other later state text = .ok final ∨
      ∃ error, refused error ∧ scan other later state text = .error error := by
  replace hscan := passes_of_scan hscan
  induction hscan generalizing later with
  | nil hflush => exact .inl (by rwa [scan_nil])
  | @group position close state rest child hclose hchild hafter ih =>
    rw [scan_open, hclose]
    rcases hread _ _ _ hchild (later + 1) with hother | ⟨error, herror, hother⟩
    · simp only [hother, Except.bind]
      exact ih _
    · exact .inr ⟨error, herror, by simp only [hother, Except.bind]⟩
  | @sign position state flushed connective rest hflush hafter ih =>
    rw [scan_sign, hflush]
    exact ih _
  | plain hc hafter ih =>
    rw [scan_cons_plain hc]
    exact ih _

/-- A pass reads the same with an inner reader that reads at least as much, wherever it starts. -/
theorem scan_mono
    (hread : ∀ position inside node, read position inside = .ok node →
      ∀ later, other later inside = .ok node)
    (hscan : scan read position state text = .ok final) (later : Nat) :
    scan other later state text = .ok final := by
  have hnever : ∀ position inside node, read position inside = .ok node → ∀ later,
      other later inside = .ok node ∨ ∃ error, False ∧ other later inside = .error error :=
    fun position inside node hinside later ↦ .inl (hread position inside node hinside later)
  simpa using scan_ok_or_refused hnever hscan later

/-- A text is read as the same node with more levels left, wherever it stands. -/
theorem parseGroup_mono {more : Nat} (hlevels : levels ≤ more)
    (hread : parseGroup levels position text = .ok node) (later : Nat) :
    parseGroup more later text = .ok node := by
  induction levels generalizing more position later text node with
  | zero => cases hread
  | succ levels ih =>
    obtain ⟨more, rfl⟩ : ∃ fewer, more = fewer + 1 :=
      Nat.exists_eq_add_one_of_ne_zero (by omega)
    rw [parseGroup_succ] at hread ⊢
    obtain ⟨final, hscan, hnode⟩ := Except.bind_eq_ok_iff.mp hread
    have hinner : ∀ position inside node, parseGroup levels position inside = .ok node →
        ∀ later, parseGroup more later inside = .ok node :=
      fun _ _ _ hinside later ↦ ih (by omega) hinside later
    exact Except.bind_eq_ok_iff.mpr ⟨final, scan_mono hinner hscan later, hnode⟩

/-- A text in which few parentheses are open is read as the same node with few levels left. -/
theorem parseGroup_of_nestsWithin (hread : parseGroup levels position text = .ok node)
    (htext : NestsWithin limit text) (hlimit : limit < levels) (later : Nat) :
    parseGroup (limit + 1) later text = .ok node := by
  have haccepted : Accepted levels text := (isOk_parseGroup_iff levels position text).mp ⟨_, hread⟩
  obtain ⟨found, hfound⟩ :=
    (isOk_parseGroup_iff (limit + 1) later text).mpr (haccepted.of_nestsWithin htext)
  have hsame := parseGroup_mono hlimit hfound position
  rw [hread, Except.ok.injEq] at hsame
  rw [hfound, hsame]

/-! ### Two groups with a connective between them -/

/-- Two groups with a connective between them become a group of the two nodes that their insides are
read as. -/
theorem parseGroup_connected {first second : List Char} {one two : Node}
    (hfirst : ∀ position, parseGroup levels position first = .ok one)
    (hsecond : ∀ position, parseGroup levels position second = .ok two) (connective : Connective)
    (position : Nat) :
    parseGroup (levels + 1) position
        ('(' :: (first ++ ')' :: connective.sign :: '(' :: (second ++ [')']))) =
      .ok (.group [one, two] connective) := by
  have hbalanced : ∀ {text node}, (∀ position, parseGroup levels position text = .ok node) →
      Balanced text := fun {text node} hread ↦
    ((isOk_parseGroup_iff levels 0 text).mp ⟨node, hread 0⟩).balanced
  have hblank : ∀ state : Scan, state.text = [] →
      state.flush = .ok ⟨state.nodes, state.connective, []⟩ := fun state htext ↦
    Scan.flush_blank (by simp [htext])
  rw [parseGroup_succ, scan_group (hbalanced hfirst) (hfirst _), scan_connective (hblank _ rfl),
    scan_group (hbalanced hsecond) (hsecond _), scan_nil, hblank _ rfl]
  rfl

end DocTree.Query
