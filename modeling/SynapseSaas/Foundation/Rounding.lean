import Mathlib.Algebra.BigOperators.Group.Finset.Basic
import Mathlib.Algebra.Order.BigOperators.Group.Finset
import Mathlib.Algebra.Order.Field.Basic
import Mathlib.Algebra.Order.Field.Rat
import Mathlib.Tactic.Ring
import Mathlib.Tactic.Linarith
import Mathlib.Tactic.FieldSimp

/-! Integer quotients rounded to nearest, and weighted sums of step functions.

The two rounding rules differ only on ties. Both stay in the integers, so a
fixed-point computation evaluates without rational arithmetic.
-/

set_option autoImplicit false

namespace Rounding

/-- `a / b` to the nearest integer, ties away from zero. -/
def divHalfUp (a b : Int) : Int :=
  if 0 ≤ a then (2 * a + b) / (2 * b) else -((2 * -a + b) / (2 * b))

/-- `a / b` to the nearest integer, ties to the even neighbour. -/
def divHalfEven (a b : Int) : Int :=
  if 2 * (a % b) < b then a / b
  else if b < 2 * (a % b) then a / b + 1
  else if a / b % 2 = 0 then a / b
  else a / b + 1

/-- What both rules promise: the remainder is at most half the divisor. -/
def Nearest (a b q : Int) : Prop := 2 * |a - b * q| ≤ b

theorem divHalfUp_nearest (a b : Int) (positive : 0 < b) : Nearest a b (divHalfUp a b) := by
  have split_off (n : Int) : n - b ≤ 2 * b * (n / (2 * b)) + b ∧ 2 * b * (n / (2 * b)) ≤ n := by
    have low := Int.mul_ediv_add_emod n (2 * b)
    have nonneg := Int.emod_nonneg n (show 2 * b ≠ 0 by omega)
    have small := Int.emod_lt_of_pos n (show 0 < 2 * b by omega)
    omega
  simp only [Nearest, divHalfUp]
  rw [← Int.natCast_natAbs]
  split
  · have bounds := split_off (2 * a + b)
    rw [mul_assoc] at bounds
    omega
  · have bounds := split_off (2 * -a + b)
    rw [mul_assoc] at bounds
    rw [mul_neg]
    omega

theorem divHalfEven_nearest (a b : Int) (positive : 0 < b) : Nearest a b (divHalfEven a b) := by
  have whole := Int.mul_ediv_add_emod a b
  have nonneg := Int.emod_nonneg a (show b ≠ 0 by omega)
  have small := Int.emod_lt_of_pos a positive
  simp only [Nearest, divHalfEven]
  rw [← Int.natCast_natAbs]
  split
  · omega
  · split
    · rw [mul_add]
      omega
    · split
      · omega
      · rw [mul_add]
        omega

theorem Nearest.abs_sub_le {a b q : Int} (near : Nearest a b q) (positive : 0 < b) :
    |(a : ℚ) / b - q| ≤ 1 / 2 := by
  have cast_pos : (0 : ℚ) < b := by exact_mod_cast positive
  have cast_near : 2 * |(a : ℚ) - b * q| ≤ b := by exact_mod_cast near
  have quotient : (a : ℚ) / b - q = (a - b * q) / b := by field_simp
  rw [quotient, abs_div, abs_of_pos cast_pos, div_le_iff₀ cast_pos]
  linarith

end Rounding

namespace StepFunction

/-- Summation by parts for a function that steps through `values` at `times`:
its integral is the last value over the whole span, corrected at every step by
the drop times the span already elapsed. -/
theorem integral_eq {K : Type} [CommRing K] (values times : Nat → K) (n : Nat) :
    ∑ i ∈ Finset.range (n + 1), values i * (times (i + 1) - times i) =
      values n * (times (n + 1) - times 0) +
        ∑ i ∈ Finset.range n, (values i - values (i + 1)) * (times (i + 1) - times 0) := by
  induction n with
  | zero => simp
  | succ n ih =>
      rw [Finset.sum_range_succ, ih, Finset.sum_range_succ _ n]
      ring

/-- Replacing each correction by an approximation costs at most the sum of the errors. -/
theorem integral_near {K : Type} [CommRing K] [LinearOrder K] [IsStrictOrderedRing K]
    (values times approx error : Nat → K) (n : Nat)
    (close : ∀ i < n,
      |(values i - values (i + 1)) * (times (i + 1) - times 0) - approx i| ≤ error i) :
    |values n * (times (n + 1) - times 0) + ∑ i ∈ Finset.range n, approx i -
        ∑ i ∈ Finset.range (n + 1), values i * (times (i + 1) - times i)| ≤
      ∑ i ∈ Finset.range n, error i := by
  rw [integral_eq, add_sub_add_left_eq_sub, ← Finset.sum_sub_distrib]
  refine (Finset.abs_sum_le_sum_abs _ _).trans (Finset.sum_le_sum fun i member => ?_)
  rw [abs_sub_comm]
  exact close i (Finset.mem_range.mp member)

end StepFunction
