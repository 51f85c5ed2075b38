import Mathlib.Logic.Function.Basic

/-! Transactions under way, each known by a number, and what is found of them after one
has entered or left. -/

set_option autoImplicit false

namespace Sessions

variable {Session : Type} {sessions : Nat → Option Session} {id other : Nat} {session found : Session}

theorem entered (here : Function.update sessions id (some session) other = some found) :
    other = id ∧ found = session ∨ other ≠ id ∧ sessions other = some found := by
  by_cases same : other = id
  · rw [same, Function.update_self] at here
    exact .inl ⟨same, (Option.some.inj here).symm⟩
  · rw [Function.update_of_ne same] at here
    exact .inr ⟨same, here⟩

theorem left (here : Function.update sessions id none other = some found) :
    other ≠ id ∧ sessions other = some found := by
  by_cases same : other = id
  · rw [same, Function.update_self] at here
    cases here
  · rw [Function.update_of_ne same] at here
    exact ⟨same, here⟩

end Sessions
