import SynapseSaas.Entitlements.Limits
import SynapseSaas.Subscriptions.Service
import SynapseSaas.Usage.Attempts
import SynapseSaas.Usage.LimitEnforcement

/-! What consumption is bounded by after an organization has lost its plan. -/

set_option autoImplicit false

namespace SynapseSaas

open ReadCommitted UsageService

/-! Consumption against the entitlements the database gives. -/

/-- A consumption of the metric, run alone, ends with this total. -/
def Consumes (env : Env) (db : Db) (organization : Nat) (metric : String) (store : UsageStore)
    (total : Int) : Prop :=
  ∃ call : UsageCall, call.metric = metric ∧ 1 ≤ call.quantity ∧
    call.readings.kind = some .counter ∧
    call.readings.entitlements = computeEntitlements env db organization ∧
    Completes store (fun _ => True)
      (fun result _ => result.deduplicated = false ∧ result.total = total)
      (consume organization call) Draft.empty

/-- Whatever has been consumed so far, no consumption passes a finite limit. -/
def ConsumeBounded (env : Env) (db : Db) (organization : Nat) (metric : String)
    (store : UsageStore) : Prop :=
  ∃ limit, ∀ total, Consumes env db organization metric store total → total ≤ limit

section Consumption

variable {committed : UsageStore} {draft : UsageDraft} {organization : Nat} {call : UsageCall}
  {free : UsageKey → Prop} {total : Int}

/-- The tail of a consumption changes nothing about its total. -/
theorem total_of_answer {counted : Int} {eventId : Nat}
    (completes : Completes committed free
      (fun result _ => result.deduplicated = false ∧ result.total = total)
      (do
        maybeEmitSoftLimit organization call counted
        emitHardLimit organization call counted
        settle organization call eventId counted
        return withLimit call
          { metric := call.metric, quantity := call.quantity, total := counted
            deduplicated := false }) draft) : total = counted := by
  obtain ⟨_, draft, hard⟩ := completes.of_bind.reached
  obtain ⟨_, draft, settled⟩ := hard.of_bind.reached
  obtain ⟨_, draft, answered⟩ := settled.of_bind.reached
  exact answered.2.symm

theorem total_le_of_fresh {limit occurredAt : Int} (limited : limitValue call = some limit)
    (completes : Completes committed free
      (fun result _ => result.deduplicated = false ∧ result.total = total)
      (do
        let eventId ← insertEvent organization call occurredAt
        let total ← incrementCounter organization call.metric call.quantity occurredAt
        enforceLimit call total
        maybeEmitSoftLimit organization call total
        emitHardLimit organization call total
        settle organization call eventId total
        return withLimit call
          { metric := call.metric, quantity := call.quantity, total, deduplicated := false }) draft) :
    total ≤ limit := by
  obtain ⟨eventId, draft, inserted⟩ := completes.of_bind.reached
  obtain ⟨counted, draft, incremented⟩ := inserted.of_bind.reached
  have enforced := incremented.of_bind
  simp only [enforceLimit, limited] at enforced
  split at enforced
  · -- a breach raises
    exact enforced.elim
  · next within =>
      rw [total_of_answer enforced]
      omega

/-- A consumption that counts ends within the limit it found. -/
theorem total_le_limit {limit : Int} (limited : limitValue call = some limit)
    (completes : Completes committed free
      (fun result _ => result.deduplicated = false ∧ result.total = total)
      (consume organization call) draft) : total ≤ limit := by
  obtain ⟨_, draft, accepted⟩ := completes.of_bind.reached
  unfold unlessReplayed at accepted
  split at accepted
  · exact total_le_of_fresh limited accepted
  · next key _ =>
      obtain ⟨first, draft, reserved⟩ := accepted.of_bind.reached
      cases first with
      | true => exact total_le_of_fresh limited reserved
      | false =>
          -- a replay says so
          obtain ⟨row, draft, replayed⟩ := reserved.of_bind.of_bind.reached
          cases row with
          | none => exact replayed.elim
          | some row => cases replayed.1

/-- Without a limit every quantity is consumed. -/
theorem completes_unlimited (unlimited : limitValue call = none)
    (keyless : call.idempotencyKey = none) (counts : call.readings.kind = some .counter) :
    Completes committed (fun _ => True)
      (fun result _ => result.deduplicated = false ∧
        result.total = counterTotal committed.rows
          ⟨organization, call.metric, monthBucket call.readings.now⟩ + call.quantity)
      (consume organization call) Draft.empty := by
  apply completes_assertCounterMetric counts
  unfold unlessReplayed
  rw [keyless]
  have inserted : Completes committed (fun _ => True)
      (fun _ draft => ∀ counter, draft.rows (.counter counter) = none)
      (insertEvent organization call call.readings.now) Draft.empty := fun _ => rfl
  apply Completes.bind inserted
  intro eventId draft untouched
  apply Completes.bind
    (completes_incrementCounter Lasting.trivial (fun _ => True.intro) True.intro untouched)
  rintro counted draft ⟨rfl, -⟩
  -- Without a limit there is nothing to enforce, whatever the total.
  simp only [enforceLimit, unlimited]
  apply Completes.bind (completes_maybeEmitSoftLimit Lasting.trivial (fun _ => True.intro) True.intro)
  intro _ draft _
  apply Completes.bind (completes_emitHardLimit Lasting.trivial True.intro)
  intro _ draft _
  simp only [settle, keyless]
  exact ⟨rfl, rfl⟩

end Consumption

/-! Bounded is what has a limit. -/

section Bounds

variable {env : Env} {db next : Db} {organization : Nat} {metric : String} {store : UsageStore}

def effectiveLimit (env : Env) (db : Db) (organization : Nat) (metric : String) : Option Int :=
  ((computeEntitlements env db organization).limits.lookup metric).bind (·.value)

/-- A consumption of so much, and what it reads at one instant. -/
def plainCall (env : Env) (db : Db) (organization : Nat) (metric : String) (quantity : Int) :
    UsageCall where
  metric := metric
  quantity := quantity
  readings :=
    { kind := some .counter
      now := env.now
      entitlements := computeEntitlements env db organization
      nowLater := env.now
      entitlementsLater := computeEntitlements env db organization
      transactionStart := env.now
      softThreshold := fun value ratio => value * ratio / 100
      eventId := 0
      aggregateIds := (0, 0) }

theorem consumeBounded_iff :
    ConsumeBounded env db organization metric store ↔
      (effectiveLimit env db organization metric).isSome := by
  constructor
  · intro bounded
    by_contra unlimited
    obtain ⟨limit, bounded⟩ := bounded
    have none_left : effectiveLimit env db organization metric = none := by
      simpa using unlimited
    let used := counterTotal store.rows ⟨organization, metric, monthBucket env.now⟩
    -- enough for one call to pass any bound
    let quantity := max 1 (limit + 1 - used)
    have completes := @completes_unlimited store organization
      (plainCall env db organization metric quantity) none_left rfl rfl
    have consumed : Consumes env db organization metric store (used + quantity) :=
      ⟨_, rfl, le_max_left .., rfl, rfl, completes⟩
    have within := bounded (used + quantity) consumed
    have enough : limit + 1 - used ≤ quantity := le_max_right ..
    omega
  · intro limited
    obtain ⟨limit, limited⟩ := Option.isSome_iff_exists.mp limited
    refine ⟨limit, ?_⟩
    rintro total ⟨call, rfl, -, -, read, completes⟩
    apply total_le_limit _ completes
    rw [limitValue, EffectiveEntitlements.limit, read]
    exact limited

/-! Losing the plan. -/

/-- A write that takes the organization's subscription out of force. -/
def LosesPlan (env : Env) (organization : Nat) (db next : Db) : Prop :=
  ∃ old new : Subscription, db.currentForOrg organization = some old ∧
    inForce env.settings old.status ∧ db.WritesSubscription old new next ∧
    new.organizationId = organization ∧ ¬ inForce env.settings new.status

/-- An active enabled `limit:<metric>` grant with a value. -/
def CappedByGrant (env : Env) (db : Db) (organization : Nat) (metric : String) : Prop :=
  ∃ row ∈ db.entitlements, row.organizationId = organization ∧ row.grant.isActive env.now ∧
    row.enabled ∧ row.grant.limitMetric = some metric ∧ row.limitValue.isSome

def Plan.limitOn (plan : Plan) (metric : String) : Option Int :=
  ((plan.limits.map fun row => (row.metric, row.limit)).lookup metric).bind (·.value)

theorem cancel_losesPlan {old canceled : Subscription} {now : Int}
    (current : db.currentForOrg organization = some old) (was : inForce env.settings old.status)
    (ran : SubscriptionService.cancel db now organization false = .ok (canceled, next)) :
    LosesPlan env organization db next := by
  obtain ⟨existing, found, writes, ended⟩ := SubscriptionService.cancel_cases ran
  rw [current] at found
  cases found
  cases ended
  refine ⟨old, _, current, was, writes, (Db.currentForOrg_eq_some.mp current).2.1, ?_⟩
  simp [Subscription.ended, inForce]

/-- A status a provider reports: unpaid, incomplete, canceled, or past due where
there is no grace. -/
theorem applyProviderTransition_losesPlan {old moved : Subscription} {target : String}
    {currentPeriodEnd : Option Int} (current : db.currentForOrg organization = some old)
    (was : inForce env.settings old.status)
    (ran : SubscriptionService.applyProviderTransition db old target currentPeriodEnd =
      .ok (moved, next)) (lost : ¬ inForce env.settings moved.status) :
    LosesPlan env organization db next := by
  obtain ⟨here, mine, -⟩ := Db.currentForOrg_eq_some.mp current
  obtain ⟨status, -, writes, rfl⟩ := SubscriptionService.applyProviderTransition_eq_ok here ran
  exact ⟨old, _, current, was, writes, mine, lost⟩

/-- No occupying subscription, or one that is past due without grace. -/
theorem LosesPlan.inactive (lost : LosesPlan env organization db next) :
    (entitlementInputs env next organization).planActive = false := by
  obtain ⟨old, new, current, was, writes, same, gone⟩ := lost
  obtain ⟨-, mine, occupied⟩ := Db.currentForOrg_eq_some.mp current
  cases status : new.status with
  | trialing => simp [status, inForce] at gone
  | active => simp [status, inForce] at gone
  | pastDue =>
      have found := writes.current (by rw [status]; rfl)
      rw [same] at found
      simp only [status, inForce] at gone
      simpa [EntitlementInputs.planActive, entitlementInputs, found, status] using gone
  | incomplete | unpaid | canceled =>
      have vacant := writes.vacated occupied (by rw [status]; decide)
      rw [mine] at vacant
      simp [EntitlementInputs.planActive, entitlementInputs, vacant]

theorem LosesPlan.entitlements (lost : LosesPlan env organization db next) :
    next.entitlements = db.entitlements := by
  obtain ⟨old, new, -, -, writes, -, -⟩ := lost
  rw [writes.rest]

/-- The values the grants of a metric cap it at, in their order. -/
def capValues (env : Env) (db : Db) (organization : Nat) (metric : String) : List Int :=
  ((entitlementInputs env db organization).capsOn metric).filterMap (·.limitValue)

theorem capValues_ne_nil_iff :
    capValues env db organization metric ≠ [] ↔ CappedByGrant env db organization metric := by
  constructor
  · intro nonempty
    obtain ⟨value, capping⟩ := List.exists_mem_of_ne_nil _ nonempty
    obtain ⟨grant, selected, valued⟩ := List.mem_filterMap.mp capping
    obtain ⟨granted, active⟩ := List.mem_filter.mp selected
    obtain ⟨row, kept, rfl⟩ := List.mem_map.mp granted
    obtain ⟨here, mine⟩ := List.mem_filter.mp kept
    obtain ⟨active, enabled, named⟩ := of_decide_eq_true active
    have valued : row.limitValue = some value := valued
    exact ⟨row, here, (of_decide_eq_true mine).1, active, enabled, named, by simp [valued]⟩
  · rintro ⟨row, here, mine, active, enabled, named, valued⟩
    obtain ⟨value, valued⟩ := Option.isSome_iff_exists.mp valued
    have unrevoked : row.revokedAt.isNone := by
      simp only [EntitlementGrant.isActive, decide_eq_true_eq] at active
      exact active.1
    have capping : value ∈ capValues env db organization metric := by
      refine List.mem_filterMap.mpr ⟨row.grant, List.mem_filter.mpr ⟨?_, ?_⟩, valued⟩
      · exact List.mem_map_of_mem (List.mem_filter.mpr ⟨here, decide_eq_true ⟨mine, unrevoked⟩⟩)
      · exact decide_eq_true ⟨active, enabled, named⟩
    exact List.ne_nil_of_mem capping

theorem capValues_congr (same : next.entitlements = db.entitlements) :
    capValues env next organization metric = capValues env db organization metric := by
  unfold capValues EntitlementInputs.capsOn entitlementInputs
  rw [same]

/-- What is left of a limit once the plan is lost: the caps of the grants alone. -/
theorem LosesPlan.effectiveLimit (lost : LosesPlan env organization db next) :
    effectiveLimit env next organization metric =
      (capValues env db organization metric).getLast? := by
  rw [← capValues_congr lost.entitlements, SynapseSaas.effectiveLimit, computeEntitlements_eq,
    limit_value_unplanned lost.inactive]
  rfl

def defaultLimit (env : Env) (db : Db) (metric : String) : Option Int :=
  match db.planByKey env.settings.defaultPlanKey with
  | .ok plan => plan.limitOn metric
  | .error _ => none

/-- The limit the resolution rules promise: the default plan's, overridden by grants. -/
def promisedLimit (env : Env) (db : Db) (organization : Nat) (metric : String) : Option Int :=
  (capValues env db organization metric).getLast? <|> defaultLimit env db metric

/-- An organization that has lost its plan keeps a bound on what it may consume,
and the limit the default plan gives it, exactly where a grant caps the metric:
the default plan's limits are read and then dropped, as no plan is in force. -/
theorem plan_loss_capped_iff (lost : LosesPlan env organization db next)
    (limited : (defaultLimit env db metric).isSome) (store : UsageStore) :
    (ConsumeBounded env next organization metric store ↔
      CappedByGrant env db organization metric) ∧
    (effectiveLimit env next organization metric = promisedLimit env db organization metric ↔
      CappedByGrant env db organization metric) := by
  rw [consumeBounded_iff, lost.effectiveLimit, ← capValues_ne_nil_iff, promisedLimit]
  constructor
  · rw [List.getLast?_isSome]
  · cases values : capValues env db organization metric with
    | nil =>
        obtain ⟨limit, limited⟩ := Option.isSome_iff_exists.mp limited
        simp [limited]
    | cons value rest => simp [List.getLast?_cons]

/-! An organization on the starter plan cancels. The default plan would allow it
50 calls. -/

def defaultPlan : Plan :=
  { samplePlan with
    id := 2
    key := "free"
    limits := [⟨"api_calls", some 50, none, none⟩] }

def subscribedDb : Db := { sampleDb (sampleSubscription 0) with plans := [samplePlan, defaultPlan] }

theorem subscribedDb_canceled :
    ∃ canceled next, SubscriptionService.cancel subscribedDb day 1 false = .ok (canceled, next) ∧
      LosesPlan { now := day } 1 subscribedDb next := by
  have succeeds : ∃ canceled next,
      SubscriptionService.cancel subscribedDb day 1 false = .ok (canceled, next) := ⟨_, _, rfl⟩
  have current : subscribedDb.currentForOrg 1 = some (sampleSubscription 0) := by decide
  obtain ⟨canceled, next, ran⟩ := succeeds
  exact ⟨canceled, next, ran, cancel_losesPlan current (by decide) ran⟩

theorem plan_loss_capped_iff_canceled :
    ∃ canceled next, SubscriptionService.cancel subscribedDb day 1 false = .ok (canceled, next) ∧
      (ConsumeBounded { now := day } next 1 "api_calls" emptyUsage ↔
        CappedByGrant { now := day } subscribedDb 1 "api_calls") ∧
      (effectiveLimit { now := day } next 1 "api_calls" =
          promisedLimit { now := day } subscribedDb 1 "api_calls" ↔
        CappedByGrant { now := day } subscribedDb 1 "api_calls") := by
  obtain ⟨canceled, next, ran, lost⟩ := subscribedDb_canceled
  exact ⟨canceled, next, ran, plan_loss_capped_iff lost (by decide) emptyUsage⟩

/-- Its plans both limit the metric, and once it has canceled nothing does. -/
theorem cancel_lifts_cap :
    ∃ canceled next, SubscriptionService.cancel subscribedDb day 1 false = .ok (canceled, next) ∧
      LosesPlan { now := day } 1 subscribedDb next ∧
      samplePlan.limitOn "api_calls" = some 100 ∧
      defaultLimit { now := day } subscribedDb "api_calls" = some 50 ∧
      ¬ ConsumeBounded { now := day } next 1 "api_calls" emptyUsage := by
  obtain ⟨canceled, next, ran, lost⟩ := subscribedDb_canceled
  refine ⟨canceled, next, ran, lost, by decide, by decide, ?_⟩
  rw [consumeBounded_iff, lost.effectiveLimit]
  decide

end Bounds

end SynapseSaas
