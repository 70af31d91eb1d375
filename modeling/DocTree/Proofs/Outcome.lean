/-!
# Runs that succeed and runs that fail

A run that may fail succeeds exactly when each of its parts does, with the parts' results put
together, and fails with the error of the first part that does not.
-/

set_option autoImplicit false
set_option relaxedAutoImplicit false

namespace Except

variable {ε η α β : Type}

theorem map_eq_ok_iff {run : Except ε α} {change : α → β} {result : β} :
    run.map change = .ok result ↔ ∃ part, run = .ok part ∧ result = change part := by
  cases run <;> simp [Except.map, eq_comm]

theorem bind_eq_ok_iff {run : Except ε α} {next : α → Except ε β} {result : β} :
    run.bind next = .ok result ↔ ∃ part, run = .ok part ∧ next part = .ok result := by
  cases run <;> simp [Except.bind]

theorem mapError_eq_ok_iff {run : Except ε α} {wrap : ε → η} {result : α} :
    run.mapError wrap = .ok result ↔ run = .ok result := by
  cases run with
  | error error =>
    have hwrapped : (Except.error error : Except ε α).mapError wrap = .error (wrap error) := rfl
    simp [hwrapped]
  | ok value =>
    have hkept : (Except.ok value : Except ε α).mapError wrap = .ok value := rfl
    simp [hkept]

theorem map_eq_error_iff {run : Except ε α} {change : α → β} {error : ε} :
    run.map change = .error error ↔ run = .error error := by
  cases run <;> simp [Except.map]

theorem bind_eq_error_iff {run : Except ε α} {next : α → Except ε β} {error : ε} :
    run.bind next = .error error ↔
      run = .error error ∨ ∃ part, run = .ok part ∧ next part = .error error := by
  cases run <;> simp [Except.bind]

theorem mapError_eq_error_iff {run : Except ε α} {wrap : ε → η} {error : η} :
    run.mapError wrap = .error error ↔ ∃ cause, run = .error cause ∧ error = wrap cause := by
  cases run with
  | error cause =>
    have hwrapped : (Except.error cause : Except ε α).mapError wrap = .error (wrap cause) := rfl
    simp [hwrapped, eq_comm]
  | ok value =>
    have hkept : (Except.ok value : Except ε α).mapError wrap = .ok value := rfl
    simp [hkept]

theorem mapError_map {run : Except ε α} {change : α → β} {wrap : ε → η} :
    (run.map change).mapError wrap = (run.mapError wrap).map change := by
  cases run <;> rfl

theorem mapError_bind {run : Except ε α} {next : α → Except ε β} {wrap : ε → η} :
    (run.bind next).mapError wrap =
      (run.mapError wrap).bind fun part ↦ (next part).mapError wrap := by
  cases run <;> rfl

theorem toOption_eq_some_iff {run : Except ε α} {result : α} :
    run.toOption = some result ↔ run = .ok result := by
  cases run <;> simp [Except.toOption]

end Except
