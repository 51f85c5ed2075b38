import SynapseSaas.Foundation.Rounding

/-! Proration of a plan change inside a billing period.

Fractions are kept in millionths, the six places the code quantizes them to.
The quotient of the two durations is exact before it is quantized.
-/

set_option autoImplicit false

namespace SynapseSaas

def millionths : Int := 1000000

structure Proration where
  creditCents : Int             -- unused portion of the old plan
  chargeCents : Int             -- same portion at the new price
  fractionRemaining : Int       -- millionths
  deriving DecidableEq, Repr

namespace Proration

/-- In-advance view: positive means the organization owes this much now. -/
def netCents (proration : Proration) : Int := proration.chargeCents - proration.creditCents

def elapsedFraction (proration : Proration) : Int := millionths - proration.fractionRemaining

end Proration

/-- A fraction of an amount, rounded half up to whole cents. -/
def centsOf (amount fraction : Int) : Int := Rounding.divHalfUp (amount * fraction) millionths

/-- The quantized fraction of the period left at `now`. -/
def fractionRemaining (periodStart periodEnd now : Int) : Int :=
  let total := periodEnd - periodStart
  let remaining := min (max (periodEnd - now) 0) total
  Rounding.divHalfEven (remaining * millionths) total

def prorate (oldCents newCents periodStart periodEnd now : Int) : Proration :=
  if periodEnd - periodStart ≤ 0 then ⟨0, 0, 0⟩
  else
    let fraction := fractionRemaining periodStart periodEnd now
    ⟨centsOf oldCents fraction, centsOf newCents fraction, fraction⟩

/-- Correction line for a period invoiced in arrears at the new price: the
elapsed fraction at the price difference. -/
def arrearsAdjustmentCents (oldCents newCents periodStart periodEnd now : Int) : Int :=
  centsOf (oldCents - newCents) (prorate oldCents newCents periodStart periodEnd now).elapsedFraction

example : arrearsAdjustmentCents 1000 4000 0 30 10 = -1000 := by decide

theorem centsOf_near (amount fraction : Int) :
    |(amount : ℚ) * (fraction / 1000000) - centsOf amount fraction| ≤ 1 / 2 := by
  have near := (Rounding.divHalfUp_nearest (amount * fraction) millionths (by decide)).abs_sub_le
    (by decide)
  simpa only [millionths, Int.cast_mul, Int.cast_ofNat, mul_div_assoc, centsOf] using near

/-- Quantizing moves the remaining fraction by at most half a millionth. -/
theorem fractionRemaining_near {periodStart periodEnd now : Int} (started : periodStart ≤ now)
    (live : now ≤ periodEnd) (positive : periodStart < periodEnd) :
    |((periodEnd - now : Int) : ℚ) / (periodEnd - periodStart : Int) -
        fractionRemaining periodStart periodEnd now / 1000000| ≤ 5 / 10000000 := by
  have clamped : min (max (periodEnd - now) 0) (periodEnd - periodStart) = periodEnd - now := by
    omega
  have near := (Rounding.divHalfEven_nearest ((periodEnd - now) * millionths)
    (periodEnd - periodStart) (by omega)).abs_sub_le (by omega)
  have scaled : ((periodEnd - now : Int) : ℚ) / (periodEnd - periodStart : Int) -
      fractionRemaining periodStart periodEnd now / 1000000 =
      ((((periodEnd - now) * millionths : Int) : ℚ) / (periodEnd - periodStart : Int) -
        fractionRemaining periodStart periodEnd now) / 1000000 := by
    simp only [millionths, Int.cast_mul, Int.cast_ofNat]
    ring
  rw [scaled, abs_div, abs_of_pos (show (0 : ℚ) < 1000000 by norm_num),
    div_le_iff₀ (by norm_num)]
  simp only [fractionRemaining, clamped]
  linarith

/-- Inside the period the correction is the time-weighted price difference, off
by the rounding to cents and the quantized fraction at the price difference. -/
theorem arrearsAdjustmentCents_near (oldCents newCents : Int) {periodStart periodEnd now : Int}
    (started : periodStart ≤ now) (live : now ≤ periodEnd) (positive : periodStart < periodEnd) :
    |((oldCents : ℚ) - newCents) * ((now - periodStart : Int) / (periodEnd - periodStart : Int)) -
        arrearsAdjustmentCents oldCents newCents periodStart periodEnd now| ≤
      1 / 2 + |(newCents : ℚ) - oldCents| * (5 / 10000000) := by
  set fraction := fractionRemaining periodStart periodEnd now with fraction_eq
  set difference : ℚ := (oldCents : ℚ) - newCents
  have total : (0 : ℚ) < (periodEnd - periodStart : Int) := by
    exact_mod_cast (show (0 : Int) < periodEnd - periodStart by omega)
  have quantized := fractionRemaining_near started live positive
  have rounded := centsOf_near (oldCents - newCents) (millionths - fraction)
  have unfolded : arrearsAdjustmentCents oldCents newCents periodStart periodEnd now =
      centsOf (oldCents - newCents) (millionths - fraction) := by
    rw [arrearsAdjustmentCents, prorate, if_neg (by omega)]
    rfl
  have elapsed : ((now - periodStart : Int) : ℚ) / (periodEnd - periodStart : Int) =
      1 - ((periodEnd - now : Int) : ℚ) / (periodEnd - periodStart : Int) := by
    field_simp
    push_cast
    ring
  -- The fraction is off by half a millionth at most, scaled by the price difference.
  have weight : |difference * (1 - ((periodEnd - now : Int) : ℚ) / (periodEnd - periodStart : Int)) -
      difference * (((millionths - fraction : Int) : ℚ) / 1000000)| ≤
      |(newCents : ℚ) - oldCents| * (5 / 10000000) := by
    have cancel : difference * (1 - ((periodEnd - now : Int) : ℚ) / (periodEnd - periodStart : Int)) -
        difference * (((millionths - fraction : Int) : ℚ) / 1000000) =
        -difference * (((periodEnd - now : Int) : ℚ) / (periodEnd - periodStart : Int) -
          fraction / 1000000) := by
      simp only [millionths]
      push_cast
      ring
    rw [cancel, abs_mul, neg_sub]
    exact mul_le_mul_of_nonneg_left quantized (abs_nonneg _)
  rw [unfolded, elapsed]
  rw [Int.cast_sub oldCents newCents] at rounded
  -- Two roundings: of the fraction, and of the amount to a cent.
  calc |difference * (1 - ((periodEnd - now : Int) : ℚ) / (periodEnd - periodStart : Int)) -
        centsOf (oldCents - newCents) (millionths - fraction)|
      ≤ |difference * (1 - ((periodEnd - now : Int) : ℚ) / (periodEnd - periodStart : Int)) -
            difference * (((millionths - fraction : Int) : ℚ) / 1000000)| +
          |difference * (((millionths - fraction : Int) : ℚ) / 1000000) -
            centsOf (oldCents - newCents) (millionths - fraction)| := abs_sub_le _ _ _
    _ ≤ |(newCents : ℚ) - oldCents| * (5 / 10000000) + 1 / 2 := add_le_add weight rounded
    _ = 1 / 2 + |(newCents : ℚ) - oldCents| * (5 / 10000000) := add_comm _ _

end SynapseSaas
