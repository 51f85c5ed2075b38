import Mathlib.Init

/-! How a computation that may fail ends: what its value satisfies, and what its
failure does. -/

set_option autoImplicit false

namespace Outcomes

variable {Error Cause First Second : Type}

/-- The computation returns a value as promised or fails in a way that is allowed. -/
def Settles (promised : First → Prop) (allowed : Error → Prop) : Except Error First → Prop
  | .ok value => promised value
  | .error error => allowed error

variable {promised weaker : First → Prop} {expected : Second → Prop} {allowed : Error → Prop}

theorem Settles.bind {first : Except Error First} {next : First → Except Error Second}
    (settles : Settles promised allowed first)
    (later : ∀ value, promised value → Settles expected allowed (next value)) :
    Settles expected allowed (first >>= next) := by
  cases first with
  | ok value => exact later value settles
  | error error => exact settles

theorem Settles.weaken {attempt : Except Error First} (settles : Settles promised allowed attempt)
    (implies : ∀ value, promised value → weaker value) : Settles weaker allowed attempt := by
  cases attempt with
  | ok value => exact implies value settles
  | error error => exact settles

theorem settles_iff {attempt : Except Error First} :
    Settles promised allowed attempt ↔
      (∀ value, attempt = .ok value → promised value) ∧
        ∀ error, attempt = .error error → allowed error := by
  cases attempt with
  | ok value => simp [Settles]
  | error error => simp [Settles]

/-- A sequence succeeds as a successful first part and a successful rest. -/
theorem bind_eq_ok {attempt : Except Error First} {next : First → Except Error Second}
    {result : Second} :
    (attempt >>= next) = .ok result ↔ ∃ value, attempt = .ok value ∧ next value = .ok result := by
  cases attempt with
  | ok value => simp [bind, Except.bind]
  | error error => simp [bind, Except.bind]

/-- What is made of a value adds no failure. -/
theorem bind_pure_eq_error {attempt : Except Error First} {make : First → Second} {error : Error} :
    (attempt >>= fun value => pure (make value)) = .error error ↔ attempt = .error error := by
  cases attempt with
  | ok value => simp [bind, Except.bind, pure, Except.pure]
  | error other => simp [bind, Except.bind]

/-- Renaming failures commutes with sequencing. -/
theorem mapError_bind (name : Error → Cause) (first : Except Error First)
    (next : First → Except Error Second) :
    (first >>= next).mapError name = first.mapError name >>= fun value => (next value).mapError name := by
  cases first with
  | ok value => rfl
  | error error => rfl

end Outcomes
