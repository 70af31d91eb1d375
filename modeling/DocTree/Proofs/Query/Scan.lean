import DocTree.Proofs.Outcome
import DocTree.Proofs.Query.Condition
import DocTree.Query.Parser

/-!
# One pass over a group

What a pass does with the pieces of a group: it collects plain text, leaves a group in parentheses
to its inner reader, and ends a condition at a connective. A group is found by counting parentheses,
so its inside has to be `Balanced`; then the parenthesis that closes it is the one behind it
(`closing?_of_balanced`). What holds of a pass that succeeds is shown along its steps, `Passes`.
-/

set_option autoImplicit false
set_option relaxedAutoImplicit false

namespace DocTree.Query

/-! ### Parentheses -/

/-- A text in which each parenthesis has its partner. -/
inductive Balanced : List Char → Prop where
  | nil : Balanced []
  | other {c : Char} (hopen : c ≠ '(') (hclose : c ≠ ')') : Balanced [c]
  | append {first second : List Char} (hfirst : Balanced first) (hsecond : Balanced second) :
    Balanced (first ++ second)
  | group {inside : List Char} (hinside : Balanced inside) : Balanced ('(' :: (inside ++ [')']))

theorem balanced_of_plain {text : List Char} (htext : ∀ c ∈ text, Plain c) : Balanced text := by
  induction text with
  | nil => exact .nil
  | cons c text ih =>
    obtain ⟨⟨hopen, hclose, -⟩, hrest⟩ := List.forall_mem_cons.mp htext
    exact .append (.other hopen hclose) (ih hrest)

theorem balanced_sign (connective : Connective) : Balanced [connective.sign] := by
  cases connective <;> exact .other (by decide) (by decide)

theorem closing?_other {c : Char} (hopen : c ≠ '(') (hclose : c ≠ ')') (opened : Nat)
    (rest : List Char) : closing? opened (c :: rest) = (closing? opened rest).map (· + 1) := by
  simp [closing?, hopen, hclose]

theorem closing?_open (opened : Nat) (rest : List Char) :
    closing? opened ('(' :: rest) = (closing? (opened + 1) rest).map (· + 1) := by
  simp [closing?]

theorem closing?_close (opened : Nat) (rest : List Char) :
    closing? (opened + 2) (')' :: rest) = (closing? (opened + 1) rest).map (· + 1) := by
  simp [closing?]

/-- A balanced text closes none of the groups that were open before it. -/
theorem closing?_append {text : List Char} (htext : Balanced text) (opened : Nat)
    (rest : List Char) :
    closing? (opened + 1) (text ++ rest) =
      (closing? (opened + 1) rest).map (· + text.length) := by
  induction htext generalizing opened rest with
  | nil => simp
  | other hopen hclose => exact closing?_other hopen hclose (opened + 1) rest
  | append hfirst hsecond ihFirst ihSecond =>
    rw [List.append_assoc, ihFirst, ihSecond, Option.map_map, List.length_append]
    exact congrArg (Option.map · _) (funext fun position ↦ by simp; omega)
  | group hinside ih =>
    rw [List.cons_append, List.append_assoc, List.singleton_append, closing?_open, ih,
      closing?_close, Option.map_map, Option.map_map]
    exact congrArg (Option.map · _) (funext fun position ↦ by simp; omega)

/-- The parenthesis behind a balanced text closes the group around it. -/
theorem closing?_of_balanced {inside : List Char} (hinside : Balanced inside)
    (rest : List Char) : closing? 1 (inside ++ ')' :: rest) = some inside.length := by
  rw [closing?_append hinside]
  simp [closing?]

/-! ### What is collected -/

variable {state : Scan}

theorem Scan.flush_blank (htext : ∀ c ∈ state.text, Text.isBlank c = true) :
    state.flush = .ok ⟨state.nodes, state.connective, []⟩ := by
  simp [flush, Text.trim_eq_nil_of_blank htext]

theorem Scan.flush_condition {condition : Condition} (hprintable : condition.Printable)
    {front back : List Char} (htext : state.text = front ++ condition.render ++ back)
    (hfront : ∀ c ∈ front, Text.isBlank c = true) (hback : ∀ c ∈ back, Text.isBlank c = true) :
    state.flush =
      .ok ⟨state.nodes ++ [.condition condition.coerced], state.connective, []⟩ := by
  have htrim : Text.trim state.text = condition.render := by
    rw [htext, Text.trim_pad hfront hback (Condition.trimmed_render hprintable)]
  have hne : condition.render.isEmpty = false := by
    simp [Condition.render]
  have hparse : Condition.parse state.text = .ok condition.coerced := by
    rw [htext, Condition.parse_pad hprintable hfront hback]
  simp [flush, htrim, hne, hparse]

/-! ### The pieces of a group -/

variable {inner : Nat → List Char → Except QueryError Node}

theorem scan_nil (position : Nat) : scan inner position state [] = state.flush := by
  rw [scan]

/-- Plain text is collected. -/
theorem scan_plain {text : List Char} (htext : ∀ c ∈ text, Plain c) (position : Nat)
    (state : Scan) (rest : List Char) :
    scan inner position state (text ++ rest) =
      scan inner (position + text.length) { state with text := state.text ++ text } rest := by
  induction text generalizing position state with
  | nil => simp
  | cons c text ih =>
    obtain ⟨⟨hopen, hclose, hall, hany⟩, hrest⟩ := List.forall_mem_cons.mp htext
    rw [List.cons_append, scan]
    simp only [hopen, hclose, hall, hany, or_self, if_false, ih hrest, List.length_cons,
      List.append_assoc, List.singleton_append]
    congr 1
    omega

theorem drop_closing (inside rest : List Char) :
    (inside ++ ')' :: rest).drop (inside.length + 1) = rest := by
  simp [List.drop_append]

/-- A group in parentheses becomes the node that its inside is read as. -/
theorem scan_group {inside : List Char} (hinside : Balanced inside) {position : Nat}
    {child : Node} (hread : inner (position + 1) inside = .ok child) (rest : List Char) :
    scan inner position state ('(' :: (inside ++ ')' :: rest)) =
      scan inner (position + inside.length + 2) { state with nodes := state.nodes ++ [child] }
        rest := by
  rw [scan]
  simp only [if_true, closing?_of_balanced hinside, List.take_left, hread, drop_closing]

/-- A connective ends what was collected before it. -/
theorem scan_connective {flushed : Scan} (hflush : state.flush = .ok flushed)
    (connective : Connective) (position : Nat) (rest : List Char) :
    scan inner position state (connective.sign :: rest) =
      scan inner (position + 1)
        { flushed with connective := flushed.connective.or (some connective) } rest := by
  rw [scan]
  cases connective <;> simp [Connective.sign, Scan.connect, hflush, Except.map]

/-! ### A pass, character by character -/

variable {position : Nat} {final : Scan}

/-- A character opens or closes a group, connects two operands, or is plain. -/
theorem char_cases (c : Char) :
    c = '(' ∨ c = ')' ∨ (∃ connective : Connective, c = connective.sign) ∨ Plain c := by
  by_cases hopen : c = '('
  · exact .inl hopen
  by_cases hclose : c = ')'
  · exact .inr (.inl hclose)
  by_cases hall : c = '&'
  · exact .inr (.inr (.inl ⟨.all, hall⟩))
  by_cases hany : c = '|'
  · exact .inr (.inr (.inl ⟨.any, hany⟩))
  exact .inr (.inr (.inr ⟨hopen, hclose, hall, hany⟩))

theorem scan_open (rest : List Char) :
    scan inner position state ('(' :: rest) =
      match closing? 1 rest with
      | none => .error (.unmatchedParenthesis position)
      | some close =>
        (inner (position + 1) (rest.take close)).bind fun child ↦
          scan inner (position + close + 2) { state with nodes := state.nodes ++ [child] }
            (rest.drop (close + 1)) := by
  rw [scan]
  simp only [if_true]
  cases closing? 1 rest with
  | none => rfl
  | some close => cases hread : inner (position + 1) (rest.take close) <;> simp [hread, Except.bind]

theorem scan_close (rest : List Char) :
    scan inner position state (')' :: rest) = .error (.unmatchedParenthesis position) := by
  rw [scan]
  simp

theorem scan_sign (connective : Connective) (rest : List Char) :
    scan inner position state (connective.sign :: rest) =
      state.flush.bind fun flushed ↦
        scan inner (position + 1)
          { flushed with connective := flushed.connective.or (some connective) } rest := by
  cases hflush : state.flush with
  | ok flushed => exact scan_connective hflush connective position rest
  | error error =>
    rw [scan]
    cases connective <;> simp [Connective.sign, Scan.connect, hflush, Except.map, Except.bind]

theorem scan_cons_plain {c : Char} (hc : Plain c) (rest : List Char) :
    scan inner position state (c :: rest) =
      scan inner (position + 1) { state with text := state.text ++ [c] } rest :=
  scan_plain (List.forall_mem_singleton.mpr hc) position state rest

/-- The steps of a pass that succeeds with `final`: it is at a position, with what it has collected
so far and the text that is left. -/
inductive Passes (inner : Nat → List Char → Except QueryError Node) (final : Scan) :
    Nat → Scan → List Char → Prop where
  | nil {position : Nat} {state : Scan} (hflush : state.flush = .ok final) :
    Passes inner final position state []
  | group {position close : Nat} {state : Scan} {rest : List Char} {child : Node}
    (hclose : closing? 1 rest = some close)
    (hchild : inner (position + 1) (rest.take close) = .ok child)
    (hafter : Passes inner final (position + close + 2)
      { state with nodes := state.nodes ++ [child] } (rest.drop (close + 1))) :
    Passes inner final position state ('(' :: rest)
  | sign {position : Nat} {state flushed : Scan} {connective : Connective} {rest : List Char}
    (hflush : state.flush = .ok flushed)
    (hafter : Passes inner final (position + 1)
      { flushed with connective := flushed.connective.or (some connective) } rest) :
    Passes inner final position state (connective.sign :: rest)
  | plain {position : Nat} {state : Scan} {c : Char} {rest : List Char} (hc : Plain c)
    (hafter : Passes inner final (position + 1) { state with text := state.text ++ [c] } rest) :
    Passes inner final position state (c :: rest)

theorem passes_of_scan {text : List Char} (hscan : scan inner position state text = .ok final) :
    Passes inner final position state text := by
  induction hlength : text.length using Nat.strong_induction_on
    generalizing position state text with
  | _ length ih =>
    cases text with
    | nil =>
      rw [scan_nil] at hscan
      exact .nil hscan
    | cons c rest =>
      have hshorter : rest.length < length := by
        rw [← hlength, List.length_cons]
        exact Nat.lt_succ_self _
      rcases char_cases c with rfl | rfl | ⟨connective, rfl⟩ | hc
      · rw [scan_open] at hscan
        cases hclose : closing? 1 rest with
        | none =>
          rw [hclose] at hscan
          cases hscan
        | some close =>
          rw [hclose] at hscan
          obtain ⟨child, hchild, hafter⟩ := Except.bind_eq_ok_iff.mp hscan
          have hdrop : (rest.drop (close + 1)).length < length := by
            rw [List.length_drop]
            omega
          exact .group hclose hchild (ih _ hdrop hafter rfl)
      · rw [scan_close] at hscan
        cases hscan
      · rw [scan_sign] at hscan
        obtain ⟨flushed, hflush, hafter⟩ := Except.bind_eq_ok_iff.mp hscan
        exact .sign hflush (ih _ hshorter hafter rfl)
      · rw [scan_cons_plain hc] at hscan
        exact .plain hc (ih _ hshorter hscan rfl)

/-- A group is the node for what one pass over its text collects. -/
theorem parseGroup_succ (levels position : Nat) (text : List Char) :
    parseGroup (levels + 1) position text =
      (scan (parseGroup levels) position {} text).bind Scan.node := by
  rw [parseGroup]
  cases scan (parseGroup levels) position {} text <;> rfl

end DocTree.Query
