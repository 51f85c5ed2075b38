import SynapseSaas.Billing.Service

/-! Plan changes inside one billing period: the queued corrections telescope to
the time-weighted price. -/

set_option autoImplicit false

namespace SynapseSaas

def queuedCents (adjustments : List Adjustment) : Int := (adjustments.map (·.amountCents)).sum

/-- `count` plan changes of one organization, the i-th to `keys i` under `envs i`. -/
def changePlans (provider : Provider) (organization : Nat) (envs : Nat → Env)
    (keys : Nat → String) (db : Db) : Nat → Result Db
  | 0 => .ok db
  | count + 1 => do
      let db ← changePlans provider organization envs keys db count
      let (_, _, db) ← BillingService.changePlan (envs count) provider db organization (keys count)
      return db

/-- A paid subscription inside its billing period. -/
structure PaidUntil (subscription : Subscription) (periodStart periodEnd : Int) : Prop where
  active : subscription.status = .active
  starts : subscription.currentPeriodStart = periodStart
  ends : subscription.currentPeriodEnd = periodEnd

theorem priceCents_switched (existing : Subscription) (now : Int) (plan : Plan)
    (provider providerSubscriptionId : Option String) (keepPeriod : Bool) :
    (existing.switched now plan provider providerSubscriptionId keepPeriod).priceCents =
      plan.priceCents.getD 0 := by
  simp [Subscription.switched, Subscription.priceCents, snapshot]

/-- The correction queued by a switch that kept the period. -/
theorem prorationAdjustment_kept {now : Int} {previous : PeriodSnapshot}
    {subscription : Subscription} {plan : Plan}
    (kept : subscription.currentPeriodEnd = previous.periodEnd) :
    ((prorationAdjustment now (some previous) subscription plan).map (·.amountCents)).getD 0 =
      arrearsAdjustmentCents previous.priceCents (plan.priceCents.getD 0) previous.periodStart
        previous.periodEnd now := by
  simp only [prorationAdjustment, kept, ne_eq, not_true_eq_false, if_false]
  split
  · next nothing => simp [nothing]
  · rfl

/-- One change of a paid subscription inside its period keeps the period and
queues the correction for the price difference. -/
theorem changePlan_kept {env : Env} {provider : Provider} {db next : Db} {organization : Nat}
    {existing subscription : Subscription} {adjustment : Option Adjustment} {plan : Plan}
    {periodStart periodEnd : Int} (locally : .recurringHosted ∉ provider.supports)
    (current : db.currentForOrg organization = some existing)
    (inside : PaidUntil existing periodStart periodEnd) (paid : 0 < existing.priceCents)
    (live : env.now < periodEnd) (found : db.planByKey plan.key = .ok plan)
    (changed : BillingService.changePlan env provider db organization plan.key =
      .ok (subscription, adjustment, next)) :
    next.currentForOrg organization = some subscription ∧ PaidUntil subscription periodStart periodEnd ∧
      subscription.priceCents = plan.priceCents.getD 0 ∧ next.plans = db.plans ∧
      queuedCents subscription.pendingAdjustments = queuedCents existing.pendingAdjustments +
        arrearsAdjustmentCents existing.priceCents (plan.priceCents.getD 0) periodStart periodEnd
          env.now := by
  obtain ⟨active, rfl, rfl⟩ := inside
  have mine := (Db.currentForOrg_eq_some.mp current).2.1
  set previous : PeriodSnapshot := ⟨(existing.planSnapshot.map (·.key)).getD "",
    existing.priceCents, existing.currentPeriodStart, existing.currentPeriodEnd⟩
  have snapshot_eq : periodSnapshot (some existing) = some previous := if_pos active
  rw [BillingService.changePlan_locally locally found] at changed
  obtain ⟨keepPeriod, moved, mid, keep_eq, switched, adjustment_eq, outcome⟩ :=
    BillingService.changePlanLocally_cases changed
  rw [current, snapshot_eq] at keep_eq adjustment_eq
  have keep : keepPeriod = true := by simpa [previous, paid] using keep_eq
  subst keep
  obtain ⟨other, found', ⟨vacant, -⟩ | ⟨old, current', writes, moved_eq⟩⟩ :=
    SubscriptionService.changePlan_cases switched
  · rw [current] at vacant
    cases vacant
  rw [current] at current'
  cases current'
  rw [found] at found'
  cases found'
  have kept : PaidUntil moved existing.currentPeriodStart existing.currentPeriodEnd := by
    subst moved_eq
    exact ⟨rfl, by simp [Subscription.switched, live], by simp [Subscription.switched, live]⟩
  have price : moved.priceCents = plan.priceCents.getD 0 := by
    rw [moved_eq, priceCents_switched]
  have plans : mid.plans = db.plans := by rw [writes.rest]
  have waiting : moved.pendingAdjustments = existing.pendingAdjustments := by rw [moved_eq]; rfl
  have organization_eq : moved.organizationId = organization := by rw [moved_eq, ← mine]; rfl
  have amount : (adjustment.map (·.amountCents)).getD 0 =
      arrearsAdjustmentCents existing.priceCents (plan.priceCents.getD 0)
        existing.currentPeriodStart existing.currentPeriodEnd env.now := by
    rw [adjustment_eq, if_pos rfl]
    exact prorationAdjustment_kept kept.ends
  rcases outcome with ⟨rfl, rfl, rfl⟩ | ⟨queued, rfl, queues, rfl⟩
  · refine ⟨organization_eq ▸ writes.current (by rw [kept.active]; rfl), kept, price, plans, ?_⟩
    rw [waiting, ← amount]
    exact (add_zero _).symm
  · refine ⟨organization_eq ▸ queues.current (by simp [kept.active, Status.occupying]),
      ⟨kept.active, kept.starts, kept.ends⟩, price, ?_, ?_⟩
    · rw [queues.rest, plans]
    · rw [← amount, ← waiting]
      simp [queuedCents]

section Telescoping

variable {provider : Provider} {db final : Db} {organization n : Nat} {subscription : Subscription}
  {envs : Nat → Env} {plans : Nat → Plan} {price time : Nat → Int}

/-- After each change the subscription carries the price it was changed to and
the sum of the corrections so far. -/
theorem changePlans_kept (locally : .recurringHosted ∉ provider.supports)
    (current : db.currentForOrg organization = some subscription)
    (active : subscription.status = .active)
    (catalog : ∀ i < n, db.planByKey (plans i).key = .ok (plans i))
    (price_zero : price 0 = subscription.priceCents)
    (price_succ : ∀ i < n, price (i + 1) = (plans i).priceCents.getD 0)
    (paid : ∀ i < n, 0 < price i) (time_succ : ∀ i < n, time (i + 1) = (envs i).now)
    (inside : ∀ i < n, time (i + 1) < subscription.currentPeriodEnd)
    (run : changePlans provider organization envs (fun i => (plans i).key) db n = .ok final) :
    ∃ last, final.currentForOrg organization = some last ∧
      PaidUntil last subscription.currentPeriodStart subscription.currentPeriodEnd ∧
      last.priceCents = price n ∧ final.plans = db.plans ∧
      queuedCents last.pendingAdjustments = queuedCents subscription.pendingAdjustments +
        ∑ i ∈ Finset.range n, arrearsAdjustmentCents (price i) (price (i + 1))
          subscription.currentPeriodStart subscription.currentPeriodEnd (time (i + 1)) := by
  induction n generalizing final with
  | zero =>
      cases run
      exact ⟨subscription, current, ⟨active, rfl, rfl⟩, price_zero.symm, rfl, by simp⟩
  | succ n ih =>
      obtain ⟨before, earlier, run⟩ := Result.bind_eq_ok.mp run
      obtain ⟨⟨changed, adjustment, next⟩, change, done⟩ := Result.bind_eq_ok.mp run
      cases done
      -- The step is `changePlan_kept` at the subscription the earlier changes left.
      obtain ⟨last, last_current, kept, last_price, same_plans, queued⟩ :=
        ih (fun i less => catalog i (by omega)) (fun i less => price_succ i (by omega))
          (fun i less => paid i (by omega)) (fun i less => time_succ i (by omega))
          (fun i less => inside i (by omega)) earlier
      have found : before.planByKey (plans n).key = .ok (plans n) := by
        rw [Db.planByKey, same_plans]
        exact catalog n (by omega)
      obtain ⟨now_current, still, now_price, now_plans, now_queued⟩ :=
        changePlan_kept locally last_current kept (last_price ▸ paid n (by omega))
          (time_succ n (by omega) ▸ inside n (by omega)) found change
      refine ⟨changed, now_current, still, ?_, now_plans.trans same_plans, ?_⟩
      · rw [now_price, price_succ n (by omega)]
      · rw [now_queued, queued, last_price, Finset.sum_range_succ, price_succ n (by omega),
          time_succ n (by omega), add_assoc]

/-- The final price and the corrections queued on the way are the time-weighted
price of the period, up to the rounding of each correction. -/
theorem corrections_near_weighted_price {periodStart periodEnd : Int}
    (positive : periodStart < periodEnd) (time_zero : time 0 = periodStart)
    (time_last : time (n + 1) = periodEnd) (ordered : ∀ i < n, time i ≤ time (i + 1))
    (inside : ∀ i < n, time (i + 1) < periodEnd) :
    |(price n : ℚ) + ∑ i ∈ Finset.range n,
          (arrearsAdjustmentCents (price i) (price (i + 1)) periodStart periodEnd (time (i + 1)) : ℚ) -
        ∑ i ∈ Finset.range (n + 1),
          (price i : ℚ) * ((time (i + 1) - time i : Int) / (periodEnd - periodStart : Int))| ≤
      ∑ i ∈ Finset.range n, (1 / 2 + |(price (i + 1) : ℚ) - price i| * (5 / 10000000)) := by
  have length : (0 : ℚ) < (periodEnd - periodStart : Int) := by
    exact_mod_cast (show (0 : Int) < periodEnd - periodStart by omega)
  have started : ∀ i ≤ n, periodStart ≤ time i := by
    intro i
    induction i with
    | zero => exact fun _ => time_zero.ge
    | succ i ih => exact fun less => (ih (by omega)).trans (ordered i (by omega))
  -- The error of one correction: rounding to a cent, and the fraction to millionths.
  have close : ∀ i < n, |((price i : ℚ) - price (i + 1)) *
        ((time (i + 1) : ℚ) / (periodEnd - periodStart : Int) -
          (time 0 : ℚ) / (periodEnd - periodStart : Int)) -
        (arrearsAdjustmentCents (price i) (price (i + 1)) periodStart periodEnd (time (i + 1)) : ℚ)| ≤
      1 / 2 + |(price (i + 1) : ℚ) - price i| * (5 / 10000000) := by
    intro i less
    have near := arrearsAdjustmentCents_near (price i) (price (i + 1)) (started (i + 1) (by omega))
      (inside i less).le positive
    rwa [← sub_div, ← Int.cast_sub (time (i + 1)) (time 0), time_zero]
  have near := StepFunction.integral_near (fun i => (price i : ℚ))
    (fun i => (time i : ℚ) / (periodEnd - periodStart : Int)) _ _ n close
  -- Over the whole period the weights add up to one.
  have whole : (time (n + 1) : ℚ) / (periodEnd - periodStart : Int) -
      (time 0 : ℚ) / (periodEnd - periodStart : Int) = 1 := by
    rw [← sub_div, time_last, time_zero, ← Int.cast_sub, div_self length.ne']
  simp only [whole, mul_one, ← sub_div] at near
  simpa only [Int.cast_sub (time _) (time _)] using near

/-- Plan changes inside one kept period telescope. -/
theorem plan_changes_telescope (locally : .recurringHosted ∉ provider.supports)
    (current : db.currentForOrg organization = some subscription)
    (active : subscription.status = .active)
    (positive : subscription.currentPeriodStart < subscription.currentPeriodEnd)
    (catalog : ∀ i < n, db.planByKey (plans i).key = .ok (plans i))
    (price_zero : price 0 = subscription.priceCents)
    (price_succ : ∀ i < n, price (i + 1) = (plans i).priceCents.getD 0)
    (paid : ∀ i < n, 0 < price i)
    (time_zero : time 0 = subscription.currentPeriodStart)
    (time_succ : ∀ i < n, time (i + 1) = (envs i).now)
    (time_last : time (n + 1) = subscription.currentPeriodEnd)
    (ordered : ∀ i < n, time i ≤ time (i + 1))
    (inside : ∀ i < n, time (i + 1) < subscription.currentPeriodEnd)
    (run : changePlans provider organization envs (fun i => (plans i).key) db n = .ok final) :
    (∃ last, final.currentForOrg organization = some last ∧ last.priceCents = price n ∧
      queuedCents last.pendingAdjustments = queuedCents subscription.pendingAdjustments +
        ∑ i ∈ Finset.range n, arrearsAdjustmentCents (price i) (price (i + 1))
          subscription.currentPeriodStart subscription.currentPeriodEnd (time (i + 1))) ∧
    |(price n : ℚ) + ∑ i ∈ Finset.range n, (arrearsAdjustmentCents (price i) (price (i + 1))
          subscription.currentPeriodStart subscription.currentPeriodEnd (time (i + 1)) : ℚ) -
        ∑ i ∈ Finset.range (n + 1), (price i : ℚ) * ((time (i + 1) - time i : Int) /
          (subscription.currentPeriodEnd - subscription.currentPeriodStart : Int))| ≤
      ∑ i ∈ Finset.range n, (1 / 2 + |(price (i + 1) : ℚ) - price i| * (5 / 10000000)) := by
  obtain ⟨last, last_current, -, last_price, -, queued⟩ := changePlans_kept locally current active
    catalog price_zero price_succ paid time_succ inside run
  exact ⟨⟨last, last_current, last_price, queued⟩,
    corrections_near_weighted_price positive time_zero time_last ordered inside⟩

end Telescoping

/-! Up to a dearer plan after a third of the period, and back after two thirds. -/

def proPlan : Plan := { samplePlan with id := 2, key := "pro", name := "Pro", priceCents := some 4000 }

def upAndDownCatalog : Db := { sampleDb (sampleSubscription 0) with plans := [samplePlan, proPlan] }
def upAndDownPlans (i : Nat) : Plan := [proPlan, samplePlan].getD i samplePlan
def upAndDownPrices (i : Nat) : Int := [1000, 4000, 1000].getD i 0
def upAndDownTimes (i : Nat) : Int := [0, 10 * day, 20 * day, 30 * day].getD i 0
def upAndDownEnvs (i : Nat) : Env := { now := upAndDownTimes (i + 1) }

theorem plan_changes_telescope_up_and_down :
    ∃ final last, changePlans (manualProvider noApi) 1 upAndDownEnvs (fun i => (upAndDownPlans i).key)
        upAndDownCatalog 2 = .ok final ∧
      final.currentForOrg 1 = some last ∧ last.priceCents = upAndDownPrices 2 ∧
      queuedCents last.pendingAdjustments = queuedCents (sampleSubscription 0).pendingAdjustments +
        ∑ i ∈ Finset.range 2, arrearsAdjustmentCents (upAndDownPrices i) (upAndDownPrices (i + 1))
          (sampleSubscription 0).currentPeriodStart (sampleSubscription 0).currentPeriodEnd
          (upAndDownTimes (i + 1)) := by
  obtain ⟨final, run, -⟩ : ∃ final, changePlans (manualProvider noApi) 1 upAndDownEnvs
      (fun i => (upAndDownPlans i).key) upAndDownCatalog 2 = .ok final ∧ True :=
    Result.exists_ok (by decide)
  have current : upAndDownCatalog.currentForOrg 1 = some (sampleSubscription 0) := by decide
  obtain ⟨⟨last, last_current, last_price, queued⟩, -⟩ :=
    plan_changes_telescope (by decide) current rfl (by decide) (by decide)
      (show upAndDownPrices 0 = _ from rfl) (by decide) (by decide)
      (show upAndDownTimes 0 = _ from rfl) (by decide) rfl (by decide) (by decide) run
  exact ⟨final, last, run, last_current, last_price, queued⟩

end SynapseSaas
