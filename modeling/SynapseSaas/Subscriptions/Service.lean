import SynapseSaas.Core.Db

/-! The subscription lifecycle: create, trial, plan change, cancel and resume,
and the status changes a provider reports. -/

set_option autoImplicit false

namespace SynapseSaas

def month : Int := 30 * day
def year : Int := 365 * day

def Plan.intervalDelta (plan : Plan) : Int := if plan.interval = some .year then year else month

def Db.emit (db : Db) (eventType : String) (subscription : Subscription) (plan : Option Plan)
    (extra : List (String × Value)) : Db :=
  db.appendOutbox eventType "subscription" subscription.id (some subscription.organizationId)
    ([("subscription_id", .str (toString subscription.id)),
      ("organization_id", .str (toString subscription.organizationId)),
      ("plan_key", .ofOption (plan.map (·.key))),
      ("status", .str subscription.status.name)] ++ extra)

def newSubscription (now : Int) (organization : Nat) (plan : Plan) (status : Status)
    (currentPeriodStart currentPeriodEnd trialEndsAt : Option Int)
    (provider providerSubscriptionId : Option String) (id : Nat) : Subscription where
  id := id
  organizationId := organization
  planId := plan.id
  status := status
  currentPeriodStart := currentPeriodStart.getD now
  currentPeriodEnd := currentPeriodEnd.getD (currentPeriodStart.getD now + plan.intervalDelta)
  trialEndsAt := trialEndsAt
  cancelAtPeriodEnd := false
  canceledAt := none
  provider := provider
  providerSubscriptionId := providerSubscriptionId
  planSnapshot := some (snapshot plan)
  pendingAdjustments := []
  createdAt := now

/-- The occupying subscription as `startTrial` and an immediate cancel leave it. -/
def Subscription.ended (subscription : Subscription) (now : Int) : Subscription :=
  { subscription with status := .canceled, canceledAt := some now }

/-- The occupying subscription switched to a plan. The period is kept only when
the caller asks for it and it has not ended; the status is active by then. -/
def Subscription.switched (existing : Subscription) (now : Int) (plan : Plan)
    (provider providerSubscriptionId : Option String) (keepPeriod : Bool) : Subscription :=
  let keeps := keepPeriod ∧ now < existing.currentPeriodEnd
  { existing with
    status := .active
    planId := plan.id
    planSnapshot := some (snapshot plan)
    currentPeriodStart := if keeps then existing.currentPeriodStart else now
    currentPeriodEnd := if keeps then existing.currentPeriodEnd else now + plan.intervalDelta
    cancelAtPeriodEnd := false
    canceledAt := none
    provider := provider <|> existing.provider
    providerSubscriptionId := providerSubscriptionId <|> existing.providerSubscriptionId }

def Db.requireCurrent (db : Db) (organization : Nat) : Result Subscription :=
  match db.currentForOrg organization with
  | some subscription => .ok subscription
  | none => raise .subscriptionNotFound "No active subscription for this organization"

namespace SubscriptionService

def createSubscription (db : Db) (now : Int) (organization : Nat) (plan : Plan) (status : Status)
    (currentPeriodStart currentPeriodEnd trialEndsAt : Option Int)
    (provider providerSubscriptionId : Option String) : Result (Subscription × Db) := do
  let (subscription, db) ← db.insertSubscription
    (newSubscription now organization plan status currentPeriodStart currentPeriodEnd trialEndsAt
      provider providerSubscriptionId)
  let event := if status = .trialing then "subscription.trial_started" else "subscription.activated"
  return (subscription, db.emit event subscription (some plan) [])

/-- End the occupying subscription, if any, before a trial replaces it. -/
def endCurrent (db : Db) (now : Int) (organization : Nat) : Result Db :=
  match db.currentForOrg organization with
  | none => .ok db
  | some existing =>
      if existing.status = .trialing then
        raise .trialNotAllowed "A trial is already in progress for this organization"
      else do
        let _ ← assertTransition existing.status "canceled"
        db.putSubscription (existing.ended now)

/-- Replace the occupying subscription with a trialing one. -/
def startTrial (db : Db) (now : Int) (organization : Nat) (planKey : String)
    (trialDays : Option Nat) : Result (Subscription × Db) := do
  let plan ← db.planByKey planKey
  if plan.trialDays = 0 ∧ trialDays.isNone then
    raise .trialNotAllowed ("Plan " ++ quoted planKey ++ " has no trial period")
  else
    let trialEnd := now + (trialDays.getD plan.trialDays) * day
    let db ← endCurrent db now organization
    createSubscription db now organization plan .trialing (some now) (some trialEnd) (some trialEnd)
      none none

def changePlan (db : Db) (now : Int) (organization : Nat) (planKey : String)
    (provider providerSubscriptionId : Option String) (keepPeriod : Bool) :
    Result (Subscription × Db) := do
  let plan ← db.planByKey planKey
  match db.currentForOrg organization with
  | none =>
      createSubscription db now organization plan .active none none none provider
        providerSubscriptionId
  | some existing =>
      let changed := existing.switched now plan provider providerSubscriptionId keepPeriod
      let db ← db.putSubscription changed
      let fromPlan := (existing.planSnapshot.map (·.key)).getD "None"
      return (changed, db.emit "subscription.plan_changed" changed (some plan)
        [("from_plan", .str fromPlan), ("to_plan", .str plan.key)])

def cancel (db : Db) (now : Int) (organization : Nat) (atPeriodEnd : Bool) :
    Result (Subscription × Db) := do
  let subscription ← db.requireCurrent organization
  let _ ← assertTransition subscription.status "canceled"
  let canceled :=
    if atPeriodEnd then { subscription with cancelAtPeriodEnd := true } else subscription.ended now
  let plan := db.planOf subscription
  let db ← db.putSubscription canceled
  return (canceled, db.emit "subscription.canceled" canceled plan [])

def resume (db : Db) (organization : Nat) : Result (Subscription × Db) := do
  let subscription ← db.requireCurrent organization
  if subscription.cancelAtPeriodEnd then
    let resumed := { subscription with cancelAtPeriodEnd := false }
    let plan := db.planOf subscription
    let db ← db.putSubscription resumed
    return (resumed, db.emit "subscription.resumed" resumed plan [])
  else raise .subscriptionNotFound "Subscription is not scheduled for cancellation"

/-- A status change reported by a provider: idempotent and transition-checked. -/
def applyProviderTransition (db : Db) (subscription : Subscription) (targetStatus : String)
    (currentPeriodEnd : Option Int) : Result (Subscription × Db) := do
  let status ← assertTransition subscription.status targetStatus
  let moved := { subscription with
    status := status
    currentPeriodEnd := currentPeriodEnd.getD subscription.currentPeriodEnd }
  let db ← db.putSubscription moved
  return (moved, db)

section Specifications

variable {db next : Db} {now : Int} {organization : Nat} {subscription : Subscription}

theorem createSubscription_inserts {plan : Plan} {status : Status}
    {currentPeriodStart currentPeriodEnd trialEndsAt : Option Int}
    {provider providerSubscriptionId : Option String}
    (created : createSubscription db now organization plan status currentPeriodStart
      currentPeriodEnd trialEndsAt provider providerSubscriptionId = .ok (subscription, next)) :
    db.InsertsSubscription subscription next ∧
      subscription = newSubscription now organization plan status currentPeriodStart
        currentPeriodEnd trialEndsAt provider providerSubscriptionId db.subscriptions.next := by
  obtain ⟨⟨row, mid⟩, insert, done⟩ := Result.bind_eq_ok.mp created
  cases done
  obtain ⟨inserts, eq⟩ := Db.insertSubscription_inserts insert
  exact ⟨inserts.outbox _ _ _ _ _, eq⟩

/-- A plan change creates a subscription or switches the occupying one. -/
theorem changePlan_cases {planKey : String} {provider providerSubscriptionId : Option String}
    {keepPeriod : Bool} (changed : changePlan db now organization planKey provider
      providerSubscriptionId keepPeriod = .ok (subscription, next)) :
    ∃ plan, db.planByKey planKey = .ok plan ∧
      ((db.currentForOrg organization = none ∧ db.InsertsSubscription subscription next ∧
          subscription = newSubscription now organization plan .active none none none provider
            providerSubscriptionId db.subscriptions.next) ∨
        ∃ existing, db.currentForOrg organization = some existing ∧
          db.WritesSubscription existing subscription next ∧
          subscription = existing.switched now plan provider providerSubscriptionId keepPeriod) := by
  obtain ⟨plan, found, changed⟩ := Result.bind_eq_ok.mp changed
  refine ⟨plan, found, ?_⟩
  cases current : db.currentForOrg organization with
  | none =>
      rw [current] at changed
      exact .inl ⟨rfl, createSubscription_inserts changed⟩
  | some existing =>
      rw [current] at changed
      obtain ⟨mid, put, done⟩ := Result.bind_eq_ok.mp changed
      cases done
      have member := (Db.currentForOrg_eq_some.mp current).1
      exact .inr ⟨existing, rfl, (Db.putSubscription_writes put member rfl).outbox _ _ _ _ _, rfl⟩

theorem requireCurrent_eq_ok {existing : Subscription} :
    db.requireCurrent organization = .ok existing ↔ db.currentForOrg organization = some existing := by
  unfold Db.requireCurrent
  split
  · next found => simp [found]
  · next vacant => simp [vacant, raise]

theorem cancel_cases {atPeriodEnd : Bool}
    (canceled : cancel db now organization atPeriodEnd = .ok (subscription, next)) :
    ∃ existing, db.currentForOrg organization = some existing ∧
      db.WritesSubscription existing subscription next ∧
      subscription = if atPeriodEnd then { existing with cancelAtPeriodEnd := true }
        else existing.ended now := by
  obtain ⟨existing, current, canceled⟩ := Result.bind_eq_ok.mp canceled
  obtain ⟨-, -, canceled⟩ := Result.bind_eq_ok.mp canceled
  obtain ⟨mid, put, done⟩ := Result.bind_eq_ok.mp canceled
  cases done
  have current := requireCurrent_eq_ok.mp current
  have member := (Db.currentForOrg_eq_some.mp current).1
  have same : (if atPeriodEnd then { existing with cancelAtPeriodEnd := true }
      else existing.ended now : Subscription).id = existing.id := by
    split <;> rfl
  exact ⟨existing, current, (Db.putSubscription_writes put member same).outbox _ _ _ _ _, rfl⟩

/-- A trial ends the occupying subscription, if any, and creates a trialing one. -/
theorem startTrial_cases {planKey : String} {trialDays : Option Nat}
    (started : startTrial db now organization planKey trialDays = .ok (subscription, next)) :
    ∃ plan mid, db.planByKey planKey = .ok plan ∧ (plan.trialDays ≠ 0 ∨ trialDays.isSome) ∧
      (db.currentForOrg organization = none ∧ mid = db ∨
        ∃ existing, db.currentForOrg organization = some existing ∧ existing.status ≠ .trialing ∧
          db.WritesSubscription existing (existing.ended now) mid) ∧
      mid.InsertsSubscription subscription next ∧ subscription.organizationId = organization ∧
      subscription.status = .trialing ∧ subscription.pendingAdjustments = [] := by
  obtain ⟨plan, found, started⟩ := Result.bind_eq_ok.mp started
  split at started
  · cases started
  · next allowed =>
    obtain ⟨mid, ended, created⟩ := Result.bind_eq_ok.mp started
    obtain ⟨inserts, eq⟩ := createSubscription_inserts created
    have permitted : plan.trialDays ≠ 0 ∨ trialDays.isSome := by
      cases trialDays <;> simp_all
    refine ⟨plan, mid, found, permitted, ?_, inserts, eq ▸ rfl, eq ▸ rfl, eq ▸ rfl⟩
    -- What ends is the row that occupies the organization, if there is one.
    cases current : db.currentForOrg organization with
    | none =>
        rw [endCurrent, current] at ended
        cases ended
        exact .inl ⟨rfl, rfl⟩
    | some existing =>
        simp only [endCurrent, current] at ended
        split at ended
        · cases ended
        · next fresh =>
            obtain ⟨-, -, put⟩ := Result.bind_eq_ok.mp ended
            have member := (Db.currentForOrg_eq_some.mp current).1
            exact .inr ⟨existing, rfl, fresh, Db.putSubscription_writes put member rfl⟩

theorem applyProviderTransition_eq_ok {existing : Subscription} {target : String}
    {currentPeriodEnd : Option Int} (member : existing ∈ db.subscriptions.rows)
    (applied : applyProviderTransition db existing target currentPeriodEnd =
      .ok (subscription, next)) :
    ∃ status, assertTransition existing.status target = .ok status ∧
      db.WritesSubscription existing subscription next ∧
      subscription = { existing with
        status := status, currentPeriodEnd := currentPeriodEnd.getD existing.currentPeriodEnd } := by
  obtain ⟨status, legal, applied⟩ := Result.bind_eq_ok.mp applied
  obtain ⟨mid, put, done⟩ := Result.bind_eq_ok.mp applied
  cases done
  exact ⟨status, legal, Db.putSubscription_writes put member rfl, rfl⟩

end Specifications

end SubscriptionService

end SynapseSaas
