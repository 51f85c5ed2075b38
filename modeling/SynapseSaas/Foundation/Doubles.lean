import SynapseSaas.Foundation.Rounding
import Mathlib.Data.Nat.Log

/-! Quotients as double-precision numbers, and decimal fractions read back from them. -/

set_option autoImplicit false

namespace Rounding

/-- What lies less than half the divisor from a multiple is rounded to it. -/
theorem divHalfEven_eq_of_near {a b q : Int} (positive : 0 < b) (near : 2 * |a - b * q| < b) :
    divHalfEven a b = q := by
  have rounded := divHalfEven_nearest a b positive
  rw [Nearest] at rounded
  generalize divHalfEven a b = r at *
  have close : |b * (q - r)| < b := by
    have split_off : b * (q - r) = (a - b * r) - (a - b * q) := by ring
    have triangle := abs_sub (a - b * r) (a - b * q)
    rw [split_off]
    omega
  rw [abs_mul, abs_of_pos positive] at close
  have least : |q - r| < 1 := by
    by_contra large
    have grows := Int.mul_le_mul_of_nonneg_left (not_lt.mp large) positive.le
    omega
  have same : q - r = 0 := Int.abs_lt_one_iff.mp least
  omega

end Rounding

namespace Doubles

open Rounding

/-- A mantissa and the power of two it counts. -/
structure Double where
  mantissa : Int
  exponent : Int
  deriving DecidableEq

/-- The power of two a positive quotient lies at or above. -/
def binade (numerator denominator : Nat) : Int :=
  if denominator ≤ numerator then Nat.log 2 (numerator / denominator)
  else -Nat.clog 2 ((denominator + numerator - 1) / numerator)

/-- A fraction of a power of two, to the nearest integer. -/
def scale (numerator denominator : Int) (exponent : Int) : Int :=
  divHalfEven (numerator * 2 ^ exponent.toNat) (denominator * 2 ^ (-exponent).toNat)

/-- The double nearest to a positive quotient, of 53 binary digits. -/
def ofRatio (numerator denominator : Nat) : Double :=
  let exponent := binade numerator denominator - 52
  ⟨scale numerator denominator (-exponent), exponent⟩

/-- A multiple of the double, to the nearest integer. -/
def Double.times (value : Double) (factor : Nat) : Int :=
  scale (value.mantissa * factor) 1 value.exponent

theorem binade_lt {numerator denominator bits : Nat} (nonzero : 0 < bits)
    (small : numerator < denominator * 2 ^ bits) :
    binade numerator denominator < bits := by
  unfold binade
  split
  · have quotient : numerator / denominator < 2 ^ bits := Nat.div_lt_of_lt_mul small
    exact_mod_cast Nat.log_lt_of_lt_pow' (by omega) quotient
  · omega

/-- A fraction whose denominator is less than two to the bits a quotient leaves unused is read
back from the double. -/
theorem times_ofRatio {numerator denominator spare : Nat} (positive : 0 < denominator)
    (fine : denominator < 2 ^ spare) (room : spare < 53)
    (small : numerator < denominator * 2 ^ (53 - spare)) :
    (ofRatio numerator denominator).times denominator = numerator := by
  have below := binade_lt (by omega) small
  simp only [ofRatio, Double.times]
  generalize binade numerator denominator = top at below
  -- The unit of the mantissa is a negative power of two.
  obtain ⟨digits, unit⟩ : ∃ digits : Nat, top - 52 = -(digits : Int) :=
    ⟨(52 - top).toNat, by omega⟩
  have enough : spare ≤ digits := by omega
  have whole : (-(digits : Int)).toNat = 0 := by omega
  simp only [unit, scale, neg_neg, Int.toNat_natCast, whole, pow_zero, mul_one, one_mul]
  have divisor : (0 : Int) < denominator := by exact_mod_cast positive
  have rounded := divHalfEven_nearest ((numerator : Int) * 2 ^ digits) denominator divisor
  rw [Nearest] at rounded
  generalize divHalfEven ((numerator : Int) * 2 ^ digits) denominator = mantissa at rounded
  apply divHalfEven_eq_of_near (by positivity)
  have finer : (denominator : Int) < 2 ^ digits := by
    exact_mod_cast lt_of_lt_of_le fine (Nat.pow_le_pow_right (by omega) enough)
  have turned : mantissa * denominator - 2 ^ digits * numerator =
      -((numerator : Int) * 2 ^ digits - denominator * mantissa) := by ring
  rw [turned, abs_neg]
  omega

end Doubles
