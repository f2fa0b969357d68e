import Mathlib

/-! # Mapped results

When a result that was mapped is a success, and when an error. -/

namespace CommandConsole

theorem map_eq_ok {ε α β : Type*} {f : α → β} {r : Except ε α} {y : β} :
    r.map f = .ok y ↔ ∃ x, r = .ok x ∧ f x = y := by
  cases r with
  | error e => simp [Except.map]
  | ok x => simp [Except.map]

theorem map_eq_error {ε α β : Type*} {f : α → β} {r : Except ε α} {e : ε} :
    r.map f = .error e ↔ r = .error e := by
  cases r with
  | error e' => simp [Except.map]
  | ok x => simp [Except.map]

theorem mapError_eq_ok {ε ε' α : Type*} {f : ε → ε'} {r : Except ε α} {x : α} :
    r.mapError f = .ok x ↔ r = .ok x := by
  cases r with
  | error e => simp [Except.mapError]
  | ok x' => simp [Except.mapError]

theorem mapError_eq_error {ε ε' α : Type*} {f : ε → ε'} {r : Except ε α} {e : ε'} :
    r.mapError f = .error e ↔ ∃ e', r = .error e' ∧ f e' = e := by
  cases r with
  | error e' => simp [Except.mapError]
  | ok x => simp [Except.mapError]

end CommandConsole
