import SynapseSaas.Billing.DraftLedger

/-! A kept period and the rates of the two plans it was spent on: the proration takes
both prices to be for the period, whatever their intervals. -/

set_option autoImplicit false

namespace SynapseSaas

/-- What a subscription costs for some time, at its price per 30 or 365 days. -/
def Subscription.costOf (subscription : Subscription) (time : Int) : ℚ :=
  subscription.priceCents * (time / subscription.renewalInterval)

/-- The price as if it were for the whole of its current period. -/
def Subscription.shareOf (subscription : Subscription) (time : Int) : ℚ :=
  subscription.priceCents *
    (time / (subscription.currentPeriodEnd - subscription.currentPeriodStart : Int))

/-- The time spent in the period before a change. -/
def Subscription.timeBefore (existing : Subscription) (now : Int) : Int :=
  max now existing.currentPeriodStart - existing.currentPeriodStart

/-- The time of the period that is left after it. -/
def Subscription.timeAfter (existing : Subscription) (now : Int) : Int :=
  existing.currentPeriodEnd - max now existing.currentPeriodStart

/-- The plan line of the new snapshot and the correction the change queued. -/
def billedForKept (existing changed : Subscription) : Int :=
  totalOf (planLines changed) +
    (queuedCents changed.pendingAdjustments - queuedCents existing.pendingAdjustments)

/-- Each plan at its own rate for the time on it. -/
def owedAtOwnRates (existing changed : Subscription) (now : Int) : ℚ :=
  existing.costOf (existing.timeBefore now) + changed.costOf (existing.timeAfter now)

/-- How far the prices per interval are from prices per kept period. -/
def unitGap (existing changed : Subscription) (now : Int) : ℚ :=
  existing.costOf (existing.timeBefore now) - existing.shareOf (existing.timeBefore now) +
    (changed.costOf (existing.timeAfter now) - changed.shareOf (existing.timeAfter now))

/-- What the quantized fraction of the period can move the correction by. -/
def quantizationGap (existing changed : Subscription) : ℚ :=
  |(changed.priceCents : ℚ) - existing.priceCents| * (5 / 10000000)

/-- A cent of rounding. -/
def BilledAtOwnRates (existing changed : Subscription) (now : Int) : Prop :=
  |(billedForKept existing changed : ℚ) - owedAtOwnRates existing changed now| ≤ 1

section Gaps

variable {existing changed : Subscription} {now : Int}

/-- Where both intervals have the length of the period there is no gap. -/
theorem unitGap_eq_zero
    (own : existing.renewalInterval = existing.currentPeriodEnd - existing.currentPeriodStart)
    (other : changed.renewalInterval = changed.currentPeriodEnd - changed.currentPeriodStart) :
    unitGap existing changed now = 0 := by
  simp only [unitGap, Subscription.costOf, Subscription.shareOf, own, other, sub_self, add_zero]

/-- Before its start a period is whole. -/
theorem arrearsAdjustmentCents_clamped (oldCents newCents periodStart periodEnd now : Int)
    (positive : periodStart < periodEnd) :
    arrearsAdjustmentCents oldCents newCents periodStart periodEnd now =
      arrearsAdjustmentCents oldCents newCents periodStart periodEnd (max now periodStart) := by
  have clamped : min (max (periodEnd - now) 0) (periodEnd - periodStart) =
      min (max (periodEnd - max now periodStart) 0) (periodEnd - periodStart) := by omega
  have same : fractionRemaining periodStart periodEnd now =
      fractionRemaining periodStart periodEnd (max now periodStart) := by
    simp only [fractionRemaining, clamped]
  unfold arrearsAdjustmentCents prorate
  rw [same]

/-- The bill is what both prices would be for the period, up to its roundings. -/
theorem billed_near_shares {periodStart periodEnd price : Int} {next : Int} (live : now < periodEnd)
    (positive : periodStart < periodEnd) :
    |((next + arrearsAdjustmentCents price next periodStart periodEnd now : Int) : ℚ) -
        (price * ((max now periodStart - periodStart : Int) / (periodEnd - periodStart : Int)) +
          next * ((periodEnd - max now periodStart : Int) / (periodEnd - periodStart : Int)))| ≤
      1 / 2 + |(next : ℚ) - price| * (5 / 10000000) := by
  have length : ((periodEnd - periodStart : Int) : ℚ) ≠ 0 := by
    exact_mod_cast (show periodEnd - periodStart ≠ 0 by omega)
  have near := arrearsAdjustmentCents_near price next (le_max_right now periodStart)
    (show max now periodStart ≤ periodEnd by omega) positive
  rw [← arrearsAdjustmentCents_clamped price next periodStart periodEnd now positive, abs_sub_comm]
    at near
  -- The time before and the time after are the whole period.
  have whole : ((periodEnd - max now periodStart : Int) : ℚ) / (periodEnd - periodStart : Int) =
      1 - ((max now periodStart - periodStart : Int) : ℚ) / (periodEnd - periodStart : Int) := by
    field_simp
    push_cast
    ring
  have same : ((next + arrearsAdjustmentCents price next periodStart periodEnd now : Int) : ℚ) -
      (price * ((max now periodStart - periodStart : Int) / (periodEnd - periodStart : Int)) +
        next * ((periodEnd - max now periodStart : Int) / (periodEnd - periodStart : Int))) =
      arrearsAdjustmentCents price next periodStart periodEnd now -
        ((price : ℚ) - next) *
          ((max now periodStart - periodStart : Int) / (periodEnd - periodStart : Int)) := by
    rw [whole]
    push_cast
    ring
  rw [same]
  exact near

end Gaps

section Changes

variable {env : Env} {provider : Provider} {db next : Db} {organization : Nat}
  {existing changed : Subscription} {adjustment : Option Adjustment} {plan : Plan}

/-- What a change with its period kept bills is what both prices would be for the period. -/
theorem billedForKept_near (locally : .recurringHosted ∉ provider.supports)
    (current : db.currentForOrg organization = some existing) (active : existing.status = .active)
    (paid : 0 < existing.priceCents)
    (positive : existing.currentPeriodStart < existing.currentPeriodEnd)
    (live : env.now < existing.currentPeriodEnd) (found : db.planByKey plan.key = .ok plan)
    (priced : 0 < plan.priceCents.getD 0)
    (done : BillingService.changePlan env provider db organization plan.key =
      .ok (changed, adjustment, next)) :
    |(billedForKept existing changed : ℚ) -
        (existing.shareOf (existing.timeBefore env.now) + changed.shareOf (existing.timeAfter env.now))| ≤
      1 / 2 + quantizationGap existing changed := by
  obtain ⟨-, ⟨-, starts, ends⟩, price, -, queued⟩ :=
    changePlan_kept locally current ⟨active, rfl, rfl⟩ paid live found done
  have charge : changed.planCharge = changed.priceCents := by
    unfold Subscription.planCharge
    omega
  have billed : billedForKept existing changed = changed.priceCents +
      arrearsAdjustmentCents existing.priceCents changed.priceCents existing.currentPeriodStart
        existing.currentPeriodEnd env.now := by
    rw [billedForKept, totalOf_planLines, charge, queued, price]
    ring
  rw [billed]
  simp only [Subscription.shareOf, starts, ends]
  exact billed_near_shares live positive

/-- A kept period is billed at each plan's own rate where the intervals of both plans are
close to the period for their prices; where they are not, it is not. -/
theorem billedAtOwnRates_of_unitGap (locally : .recurringHosted ∉ provider.supports)
    (current : db.currentForOrg organization = some existing) (active : existing.status = .active)
    (paid : 0 < existing.priceCents)
    (positive : existing.currentPeriodStart < existing.currentPeriodEnd)
    (live : env.now < existing.currentPeriodEnd) (found : db.planByKey plan.key = .ok plan)
    (priced : 0 < plan.priceCents.getD 0)
    (done : BillingService.changePlan env provider db organization plan.key =
      .ok (changed, adjustment, next)) :
    (|unitGap existing changed env.now| + quantizationGap existing changed ≤ 1 / 2 →
        BilledAtOwnRates existing changed env.now) ∧
      (BilledAtOwnRates existing changed env.now →
        |unitGap existing changed env.now| ≤ 3 / 2 + quantizationGap existing changed) := by
  have near := billedForKept_near locally current active paid positive live found priced done
  set billed : ℚ := (billedForKept existing changed : ℚ)
  set shares : ℚ := existing.shareOf (existing.timeBefore env.now) +
    changed.shareOf (existing.timeAfter env.now) with shares_eq
  have owed : owedAtOwnRates existing changed env.now = shares + unitGap existing changed env.now := by
    rw [owedAtOwnRates, unitGap, shares_eq]
    ring
  unfold BilledAtOwnRates
  rw [owed]
  constructor
  · intro close
    calc |billed - (shares + unitGap existing changed env.now)|
        = |billed - shares - unitGap existing changed env.now| := by rw [sub_add_eq_sub_sub]
      _ ≤ |billed - shares| + |unitGap existing changed env.now| := abs_sub _ _
      _ ≤ 1 := by linarith
  · intro cent
    calc |unitGap existing changed env.now|
        = |(billed - shares) - (billed - (shares + unitGap existing changed env.now))| := by
          congr 1
          ring
      _ ≤ |billed - shares| + |billed - (shares + unitGap existing changed env.now)| := abs_sub _ _
      _ ≤ 3 / 2 + quantizationGap existing changed := by linarith

end Changes

/-- The monthly catalog with a yearly plan. -/
def yearlyPlan : Plan :=
  { samplePlan with id := 3, key := "yearly", name := "Yearly", priceCents := some 12000,
                    interval := some .year }

def mixedCatalog : Db :=
  { sampleDb (sampleSubscription 0) with plans := [samplePlan, proPlan, yearlyPlan] }

def tenDaysIn : Env := { now := 10 * day }

/-- What a change is compared by. -/
def changedTo (price interval billed : Int) (outcome : Subscription × Option Adjustment × Db) : Prop :=
  outcome.1.priceCents = price ∧ outcome.1.renewalInterval = interval ∧
    outcome.1.currentPeriodStart = 0 ∧ outcome.1.currentPeriodEnd = 30 * day ∧
    billedForKept (sampleSubscription 0) outcome.1 = billed

instance (price interval billed : Int) : DecidablePred (changedTo price interval billed) := fun _ =>
  inferInstanceAs (Decidable (_ ∧ _))

/-- From one monthly plan to another ten days into the period. -/
theorem billedAtOwnRates_monthly :
    ∃ changed adjustment next,
      BillingService.changePlan tenDaysIn (manualProvider noApi) mixedCatalog 1 "pro" =
        .ok (changed, adjustment, next) ∧
      BilledAtOwnRates (sampleSubscription 0) changed tenDaysIn.now := by
  obtain ⟨⟨changed, adjustment, next⟩, done, price, interval, starts, ends, -⟩ :
      ∃ outcome, BillingService.changePlan tenDaysIn (manualProvider noApi) mixedCatalog 1 "pro" =
        .ok outcome ∧ changedTo 4000 (30 * day) 3000 outcome := Result.exists_ok (by decide +kernel)
  have current : mixedCatalog.currentForOrg 1 = some (sampleSubscription 0) := by decide
  have found : mixedCatalog.planByKey proPlan.key = .ok proPlan := by decide
  have gap : unitGap (sampleSubscription 0) changed tenDaysIn.now = 0 :=
    unitGap_eq_zero rfl (by rw [interval, starts, ends]; rfl)
  have small : quantizationGap (sampleSubscription 0) changed ≤ 1 / 2 := by
    have before : (sampleSubscription 0).priceCents = 1000 := by decide
    rw [quantizationGap, price, before]
    norm_num
  refine ⟨changed, adjustment, next, done, ?_⟩
  exact (billedAtOwnRates_of_unitGap (by decide) current rfl (by decide) (by decide) (by decide) found
    (by decide) done).1 (by rw [gap, abs_zero, zero_add]; exact small)

/-- From a monthly plan to a yearly one: the year's price for the rest of the month. -/
theorem month_billed_a_year :
    ∃ changed adjustment next,
      BillingService.changePlan tenDaysIn (manualProvider noApi) mixedCatalog 1 "yearly" =
        .ok (changed, adjustment, next) ∧
      billedForKept (sampleSubscription 0) changed = 8333 ∧
      ¬ BilledAtOwnRates (sampleSubscription 0) changed tenDaysIn.now := by
  obtain ⟨⟨changed, adjustment, next⟩, done, price, interval, starts, ends, billed⟩ :
      ∃ outcome, BillingService.changePlan tenDaysIn (manualProvider noApi) mixedCatalog 1 "yearly" =
        .ok outcome ∧ changedTo 12000 (365 * day) 8333 outcome := Result.exists_ok (by decide +kernel)
  refine ⟨changed, adjustment, next, done, billed, ?_⟩
  have before : (sampleSubscription 0).priceCents = 1000 := by decide
  have month : (sampleSubscription 0).renewalInterval = 30 * day := by decide
  have spent : (sampleSubscription 0).timeBefore tenDaysIn.now = 10 * day := by decide
  have left : (sampleSubscription 0).timeAfter tenDaysIn.now = 20 * day := by decide
  have nonzero : (day : ℚ) ≠ 0 := by norm_num [day, second]
  -- 333.33 for the ten days, 657.53 for the twenty.
  have owed : owedAtOwnRates (sampleSubscription 0) changed tenDaysIn.now ≤ 1000 := by
    rw [owedAtOwnRates, Subscription.costOf, Subscription.costOf, price, interval, before, month,
      spent, left]
    push_cast
    rw [mul_div_mul_right _ _ nonzero, mul_div_mul_right _ _ nonzero]
    norm_num
  unfold BilledAtOwnRates
  rw [billed, abs_le]
  rintro ⟨-, above⟩
  push_cast at above
  linarith

end SynapseSaas
