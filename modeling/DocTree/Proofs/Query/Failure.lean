import DocTree.Proofs.Outcome
import DocTree.Query.Eval

/-!
# Native queries that cannot be run

A native query needs a predicate, and the predicate has to have an answer for every candidate.
`Query.FailsAt` says at which candidates a run can fail and why. The run fails at the first of them
(`positions_native_eq_error_iff`), and no other query fails.
-/

set_option autoImplicit false
set_option relaxedAutoImplicit false

namespace DocTree.Query

/-- Why a native query cannot be run at a candidate. Without a predicate it cannot be run at all, so
that it fails at the start even if there are no candidates. -/
inductive FailsAt (predicate : Option NativePredicate) (text : String) (candidates : List Value) :
    Nat → QueryError → Prop where
  | unavailable (hpredicate : predicate = none) :
    FailsAt predicate text candidates 0 (.predicateUnavailable text)
  | refused {accepts : NativePredicate} {index : Nat} {candidate : Value} {reason : String}
    (hpredicate : predicate = some accepts) (hcandidate : candidates[index]? = some candidate)
    (hrefused : accepts text candidate = .error reason) :
    FailsAt predicate text candidates index (.predicateFailed reason)

variable {predicate : Option NativePredicate} {text : String} {candidate : Value}
  {candidates : List Value} {index : Nat} {cause : QueryError}

theorem failsAt_none_iff :
    FailsAt none text candidates index cause ↔ index = 0 ∧ cause = .predicateUnavailable text := by
  constructor
  · rintro (hpredicate | ⟨hpredicate, hcandidate, hrefused⟩)
    · exact ⟨rfl, rfl⟩
    · cases hpredicate
  · rintro ⟨rfl, rfl⟩
    exact .unavailable rfl

section Predicate

variable {accepts : NativePredicate}

theorem failsAt_some_iff :
    FailsAt (some accepts) text candidates index cause ↔
      ∃ candidate reason, candidates[index]? = some candidate ∧
        accepts text candidate = .error reason ∧ cause = .predicateFailed reason := by
  constructor
  · rintro (hpredicate | ⟨hpredicate, hcandidate, hrefused⟩)
    · cases hpredicate
    · cases hpredicate
      exact ⟨_, _, hcandidate, hrefused, rfl⟩
  · rintro ⟨candidate, reason, hcandidate, hrefused, rfl⟩
    exact .refused rfl hcandidate hrefused

theorem failsAt_cons_zero_iff :
    FailsAt (some accepts) text (candidate :: candidates) 0 cause ↔
      ∃ reason, accepts text candidate = .error reason ∧ cause = .predicateFailed reason := by
  simp [failsAt_some_iff]

theorem failsAt_cons_succ_iff :
    FailsAt (some accepts) text (candidate :: candidates) (index + 1) cause ↔
      FailsAt (some accepts) text candidates index cause := by
  simp [failsAt_some_iff]

/-- A run with a predicate fails at the first candidate that the predicate refuses. -/
theorem nativePositions_eq_error_iff {position : Nat} :
    nativePositions (accepts text) position candidates = .error cause ↔
      ∃ index, FailsAt (some accepts) text candidates index cause ∧
        ∀ earlier < index, ∀ other, ¬ FailsAt (some accepts) text candidates earlier other := by
  induction candidates generalizing position with
  | nil => simp [nativePositions, failsAt_some_iff]
  | cons candidate rest ih =>
    cases hanswer : accepts text candidate with
    | error reason =>
      have hfails : FailsAt (some accepts) text (candidate :: rest) 0 (.predicateFailed reason) :=
        failsAt_cons_zero_iff.mpr ⟨reason, hanswer, rfl⟩
      simp only [nativePositions, hanswer, Except.error.injEq]
      constructor
      · rintro rfl
        exact ⟨0, hfails, fun earlier hearlier ↦ absurd hearlier (Nat.not_lt_zero earlier)⟩
      · rintro ⟨index, hindex, hfirst⟩
        cases index with
        | zero =>
          obtain ⟨other, hother, rfl⟩ := failsAt_cons_zero_iff.mp hindex
          rw [hanswer, Except.error.injEq] at hother
          rw [hother]
        | succ index => exact absurd hfails (hfirst 0 (Nat.succ_pos index) _)
    | ok verdict =>
      have hpasses : ∀ other, ¬ FailsAt (some accepts) text (candidate :: rest) 0 other := by
        simp [failsAt_cons_zero_iff, hanswer]
      simp only [nativePositions, hanswer, Except.map_eq_error_iff, ih]
      constructor
      · rintro ⟨index, hindex, hfirst⟩
        refine ⟨index + 1, failsAt_cons_succ_iff.mpr hindex, fun earlier hearlier other ↦ ?_⟩
        cases earlier with
        | zero => exact hpasses other
        | succ earlier =>
          rw [failsAt_cons_succ_iff]
          exact hfirst earlier (Nat.lt_of_succ_lt_succ hearlier) other
      · rintro ⟨index, hindex, hfirst⟩
        cases index with
        | zero => exact absurd hindex (hpasses cause)
        | succ index =>
          refine ⟨index, failsAt_cons_succ_iff.mp hindex, fun earlier hearlier other hother ↦ ?_⟩
          exact hfirst (earlier + 1) (Nat.succ_lt_succ hearlier) other
            (failsAt_cons_succ_iff.mpr hother)

end Predicate

/-- A native query fails at the first candidate at which it can. -/
theorem positions_native_eq_error_iff :
    (Query.native text).positions predicate candidates = .error cause ↔
      ∃ index, FailsAt predicate text candidates index cause ∧
        ∀ earlier < index, ∀ other, ¬ FailsAt predicate text candidates earlier other := by
  cases predicate with
  | some accepts => exact nativePositions_eq_error_iff
  | none =>
    simp only [positions, Except.error.injEq]
    constructor
    · rintro rfl
      exact ⟨0, .unavailable rfl, fun earlier hearlier ↦ absurd hearlier (Nat.not_lt_zero earlier)⟩
    · rintro ⟨index, hfails, -⟩
      cases hfails with
      | unavailable => rfl
      | refused hpredicate => cases hpredicate

theorem positions_node_ne_error (node : Node) :
    (Query.node node).positions predicate candidates ≠ .error cause := by
  cases node <;> exact fun hrun ↦ by cases hrun

end DocTree.Query
