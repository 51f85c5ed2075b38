import SynapseSaas.Billing.Service
import SynapseSaas.Subscriptions.Progress
import SynapseSaas.Subscriptions.Refusals
import SynapseSaas.Worker.Lifecycle

/-! The operations that write subscriptions, with their writes explained: a refusal says
which index refused. Callers see the operations of the services, and none of them meets
an organization that is occupied already. -/

set_option autoImplicit false

namespace SynapseSaas

open Outcomes

namespace Explained

def createSubscription (db : Db) (now : Int) (organization : Nat) (plan : Plan) (status : Status)
    (currentPeriodStart currentPeriodEnd trialEndsAt : Option Int)
    (provider providerSubscriptionId : Option String) : Explained (Subscription × Db) := do
  let (subscription, db) ← db.explainInsert
    (newSubscription now organization plan status currentPeriodStart currentPeriodEnd trialEndsAt
      provider providerSubscriptionId)
  let event := if status = .trialing then "subscription.trial_started" else "subscription.activated"
  return (subscription, db.emit event subscription (some plan) [])

def endCurrent (db : Db) (now : Int) (organization : Nat) : Explained Db :=
  match db.currentForOrg organization with
  | none => .ok db
  | some existing =>
      if existing.status = .trialing then
        elsewhere (raise .trialNotAllowed "A trial is already in progress for this organization")
      else do
        let _ ← elsewhere (assertTransition existing.status "canceled")
        db.explainPut (existing.ended now)

def startTrial (db : Db) (now : Int) (organization : Nat) (planKey : String)
    (trialDays : Option Nat) : Explained (Subscription × Db) := do
  let plan ← elsewhere (db.planByKey planKey)
  if plan.trialDays = 0 ∧ trialDays.isNone then
    elsewhere (raise .trialNotAllowed ("Plan " ++ quoted planKey ++ " has no trial period"))
  else
    let trialEnd := now + (trialDays.getD plan.trialDays) * day
    let db ← endCurrent db now organization
    createSubscription db now organization plan .trialing (some now) (some trialEnd) (some trialEnd)
      none none

def changePlan (db : Db) (now : Int) (organization : Nat) (planKey : String)
    (provider providerSubscriptionId : Option String) (keepPeriod : Bool) :
    Explained (Subscription × Db) := do
  let plan ← elsewhere (db.planByKey planKey)
  match db.currentForOrg organization with
  | none =>
      createSubscription db now organization plan .active none none none provider
        providerSubscriptionId
  | some existing =>
      let changed := existing.switched now plan provider providerSubscriptionId keepPeriod
      let db ← db.explainPut changed
      let fromPlan := (existing.planSnapshot.map (·.key)).getD "None"
      return (changed, db.emit "subscription.plan_changed" changed (some plan)
        [("from_plan", .str fromPlan), ("to_plan", .str plan.key)])

def cancel (db : Db) (now : Int) (organization : Nat) (atPeriodEnd : Bool) :
    Explained (Subscription × Db) := do
  let subscription ← elsewhere (db.requireCurrent organization)
  let _ ← elsewhere (assertTransition subscription.status "canceled")
  let canceled :=
    if atPeriodEnd then { subscription with cancelAtPeriodEnd := true } else subscription.ended now
  let plan := db.planOf subscription
  let db ← db.explainPut canceled
  return (canceled, db.emit "subscription.canceled" canceled plan [])

def resume (db : Db) (organization : Nat) : Explained (Subscription × Db) := do
  let subscription ← elsewhere (db.requireCurrent organization)
  if subscription.cancelAtPeriodEnd then
    let resumed := { subscription with cancelAtPeriodEnd := false }
    let plan := db.planOf subscription
    let db ← db.explainPut resumed
    return (resumed, db.emit "subscription.resumed" resumed plan [])
  else
    elsewhere (raise .subscriptionNotFound "Subscription is not scheduled for cancellation")

def applyProviderTransition (db : Db) (subscription : Subscription) (targetStatus : String)
    (currentPeriodEnd : Option Int) : Explained (Subscription × Db) := do
  let status ← elsewhere (assertTransition subscription.status targetStatus)
  let moved := { subscription with
    status := status
    currentPeriodEnd := currentPeriodEnd.getD subscription.currentPeriodEnd }
  let db ← db.explainPut moved
  return (moved, db)

def completeCheckout (env : Env) (provider : Provider) (db : Db) (organization : Organization)
    (plan : Plan) (providerSubscriptionId : Option String) (contactUser : Option User)
    (source : CheckoutSource) : Explained (Subscription × Option Invoice × Db) := do
  if source = .clientConfirm ∧ BillingCapability.clientConfirm ∉ provider.supports then
    elsewhere (raise .checkoutConfirmNotAllowed
      (provider.name ++ " verifies payment via its own callback; activation " ++
        "happens when the provider webhook arrives, not on client confirmation")
      [("provider", .str provider.name)])
  else
    let (customer, db) ← elsewhere (BillingService.ensureCustomer env provider db organization
      contactUser)
    let (subscription, db) ← changePlan db env.now organization.id plan.key (some provider.name)
      providerSubscriptionId false
    let (invoice, db) ← elsewhere (BillingService.recordInvoice env provider db customer plan)
    return (subscription, invoice, db)

def changePlanLocally (env : Env) (provider : Provider) (db : Db) (organization : Nat)
    (plan : Plan) : Explained (Subscription × Option Adjustment × Db) := do
  let previous := periodSnapshot (db.currentForOrg organization)
  let keepPeriod := previous.any fun previous => 0 < previous.priceCents
  let (subscription, db) ← changePlan db env.now organization plan.key (some provider.name) none
    keepPeriod
  match if keepPeriod then prorationAdjustment env.now previous subscription plan else none with
  | none => return (subscription, none, db)
  | some adjustment =>
      let queued := { subscription with
        pendingAdjustments := subscription.pendingAdjustments ++ [adjustment] }
      let db ← db.explainPut queued
      return (queued, some adjustment, db)

def changePlanHosted (env : Env) (provider : Provider) (db : Db) (organization : Nat)
    (plan : Plan) : Explained (Subscription × Option Adjustment × Db) := do
  match (db.currentForOrg organization).bind (·.providerSubscriptionId.filter (· ≠ "")) with
  | none =>
      elsewhere (raise .checkoutRequired
        ("Plan changes on " ++ provider.name ++ " require a subscription purchased through it")
        [("plan_key", .str plan.key), ("checkout_url", .str "/v1/billing/checkout")])
  | some reference =>
      let ref ← elsewhere (provider.changePlan reference
        ⟨plan.key, plan.priceCents.getD 0, plan.currency,
          (plan.interval.map Interval.name).getD "month"⟩)
      let (subscription, db) ← changePlan db env.now organization plan.key (some provider.name)
        (some ref.providerSubscriptionId) true
      return (subscription, none, db)

def changeBilledPlan (env : Env) (provider : Provider) (db : Db) (organization : Nat)
    (planKey : String) : Explained (Subscription × Option Adjustment × Db) := do
  let plan ← elsewhere (db.planByKey planKey)
  if BillingCapability.recurringHosted ∈ provider.supports then
    changePlanHosted env provider db organization plan
  else changePlanLocally env provider db organization plan

def draftForOrg (env : Env) (db : Db) (organization : Nat) (period : Option Int) :
    Explained (Invoice × Db) := do
  let periodStart := period.getD (monthBucket env.now)
  match ← elsewhere (db.findDraft organization periodStart) with
  | some existing => return (existing, db)
  | none =>
      let subscription ← elsewhere (db.activeSubscription organization)
      let lines := draftLines (effectiveForOrg env db organization) db subscription periodStart
      let db ← db.explainPut
        { subscription with pendingAdjustments := carryover env.now lines }
      elsewhere (db.insertInvoice (draftInvoice env.now subscription periodStart lines))

def billEndedPeriod (env : Env) (db : Db) (subscription : Subscription) : Explained Db := do
  if subscription.billable then
    let (invoice, db) ← draftForOrg env db subscription.organizationId
      (some subscription.billedPeriod)
    if invoice.status = .draft then
      let (_, db) ← elsewhere (InvoicingService.finalize env.now db invoice.id
        subscription.organizationId)
      return db
    else return db
  else return db

def renewLocallyBilled (env : Env) (db : Db) (subscription : Subscription) : Explained Db := do
  let db ← billEndedPeriod env db subscription
  match db.subscriptions.get subscription.id with
  | some current => db.explainPut current.rolled
  | none => elsewhere (.error (.other .noResult))

def bootstrapSubscription (settings : Settings) (now : Int) (db : Db) (organization : Nat) :
    Explained Db :=
  match db.plans.find? (·.key = settings.defaultPlanKey) with
  | none => .ok db
  | some plan => do
      let (_, db) ← createSubscription db now organization plan .active (some now)
        (some (now + 30 * day)) none none none
      return db

/-! Callers see the operations of the services. -/

section Results

variable {env : Env} {provider : Provider} {db : Db} {now : Int} {organization : Nat}

@[simp] theorem result_createSubscription {plan : Plan} {status : Status}
    {currentPeriodStart currentPeriodEnd trialEndsAt : Option Int}
    {provider providerSubscriptionId : Option String} :
    (createSubscription db now organization plan status currentPeriodStart currentPeriodEnd
      trialEndsAt provider providerSubscriptionId).result =
      SubscriptionService.createSubscription db now organization plan status currentPeriodStart
        currentPeriodEnd trialEndsAt provider providerSubscriptionId := by
  rw [createSubscription, result_bind, Db.result_explainInsert]
  rfl

@[simp] theorem result_endCurrent :
    (endCurrent db now organization).result =
      SubscriptionService.endCurrent db now organization := by
  unfold endCurrent SubscriptionService.endCurrent
  cases db.currentForOrg organization with
  | none => rfl
  | some existing =>
      dsimp only
      split
      · rw [result_elsewhere]
      · rw [result_bind, result_elsewhere]
        simp only [Db.result_explainPut]

@[simp] theorem result_startTrial {planKey : String} {trialDays : Option Nat} :
    (startTrial db now organization planKey trialDays).result =
      SubscriptionService.startTrial db now organization planKey trialDays := by
  unfold startTrial SubscriptionService.startTrial
  rw [result_bind, result_elsewhere]
  congr 1
  funext plan
  split
  · rw [result_elsewhere]
  · rw [result_bind, result_endCurrent]
    simp only [result_createSubscription]

@[simp] theorem result_changePlan {planKey : String}
    {provider providerSubscriptionId : Option String} {keepPeriod : Bool} :
    (changePlan db now organization planKey provider providerSubscriptionId keepPeriod).result =
      SubscriptionService.changePlan db now organization planKey provider providerSubscriptionId
        keepPeriod := by
  unfold changePlan SubscriptionService.changePlan
  rw [result_bind, result_elsewhere]
  congr 1
  funext plan
  cases db.currentForOrg organization with
  | none => rw [result_createSubscription]
  | some existing =>
      dsimp only
      rw [result_bind, Db.result_explainPut]
      rfl

@[simp] theorem result_cancel {atPeriodEnd : Bool} :
    (cancel db now organization atPeriodEnd).result =
      SubscriptionService.cancel db now organization atPeriodEnd := by
  unfold cancel SubscriptionService.cancel
  simp only [result_bind, result_elsewhere, Db.result_explainPut, result_pure]

@[simp] theorem result_resume :
    (resume db organization).result = SubscriptionService.resume db organization := by
  unfold resume SubscriptionService.resume
  rw [result_bind, result_elsewhere]
  congr 1
  funext subscription
  split
  · rw [result_bind, Db.result_explainPut]
    rfl
  · rw [result_elsewhere]

@[simp] theorem result_applyProviderTransition {subscription : Subscription}
    {targetStatus : String} {currentPeriodEnd : Option Int} :
    (applyProviderTransition db subscription targetStatus currentPeriodEnd).result =
      SubscriptionService.applyProviderTransition db subscription targetStatus
        currentPeriodEnd := by
  unfold applyProviderTransition SubscriptionService.applyProviderTransition
  simp only [result_bind, result_elsewhere, Db.result_explainPut, result_pure]

@[simp] theorem result_completeCheckout {row : Organization} {plan : Plan}
    {providerSubscriptionId : Option String} {contactUser : Option User} {source : CheckoutSource} :
    (completeCheckout env provider db row plan providerSubscriptionId contactUser source).result =
      BillingService.completeCheckout env provider db row plan providerSubscriptionId contactUser
        source := by
  unfold completeCheckout BillingService.completeCheckout
  split
  · rw [result_elsewhere]
  · simp only [result_bind, result_elsewhere, result_changePlan, result_pure]

@[simp] theorem result_changePlanLocally {plan : Plan} :
    (changePlanLocally env provider db organization plan).result =
      BillingService.changePlanLocally env provider db organization plan := by
  unfold changePlanLocally BillingService.changePlanLocally
  simp only [result_bind, result_changePlan]
  congr 1
  funext moved
  cases (if (periodSnapshot (db.currentForOrg organization)).any (0 < ·.priceCents) then
    prorationAdjustment env.now (periodSnapshot (db.currentForOrg organization)) moved.1 plan
    else none) with
  | none => rfl
  | some adjustment =>
      dsimp only
      rw [result_bind, Db.result_explainPut]
      rfl

@[simp] theorem result_changePlanHosted {plan : Plan} :
    (changePlanHosted env provider db organization plan).result =
      BillingService.changePlanHosted env provider db organization plan := by
  unfold changePlanHosted BillingService.changePlanHosted
  cases (db.currentForOrg organization).bind (·.providerSubscriptionId.filter (· ≠ "")) with
  | none => rw [result_elsewhere]
  | some reference =>
      simp only [result_bind, result_elsewhere, result_changePlan, result_pure]

@[simp] theorem result_changeBilledPlan {planKey : String} :
    (changeBilledPlan env provider db organization planKey).result =
      BillingService.changePlan env provider db organization planKey := by
  unfold changeBilledPlan BillingService.changePlan
  rw [result_bind, result_elsewhere]
  congr 1
  funext plan
  split
  · rw [result_changePlanHosted]
  · rw [result_changePlanLocally]

@[simp] theorem result_draftForOrg {period : Option Int} :
    (draftForOrg env db organization period).result =
      InvoicingService.draftForOrg env db organization period := by
  unfold draftForOrg InvoicingService.draftForOrg
  rw [result_bind, result_elsewhere]
  congr 1
  funext found
  cases found with
  | some existing => rfl
  | none => simp only [result_bind, result_elsewhere, Db.result_explainPut]

@[simp] theorem result_billEndedPeriod {subscription : Subscription} :
    (billEndedPeriod env db subscription).result =
      SynapseSaas.billEndedPeriod env db subscription := by
  unfold billEndedPeriod SynapseSaas.billEndedPeriod
  split
  · rw [result_bind, result_draftForOrg]
    congr 1
    funext drafted
    obtain ⟨invoice, drafting⟩ := drafted
    dsimp only
    split
    · rw [result_bind, result_elsewhere]
      rfl
    · rfl
  · rfl

@[simp] theorem result_renewLocallyBilled {subscription : Subscription} :
    (renewLocallyBilled env db subscription).result =
      SynapseSaas.renewLocallyBilled env db subscription := by
  unfold renewLocallyBilled SynapseSaas.renewLocallyBilled
  rw [result_bind, result_billEndedPeriod]
  congr 1
  funext billed
  cases billed.subscriptions.get subscription.id with
  | none => rw [result_elsewhere]
  | some current => rw [Db.result_explainPut]

@[simp] theorem result_bootstrapSubscription {settings : Settings} :
    (bootstrapSubscription settings now db organization).result =
      SynapseSaas.bootstrapSubscription settings now db organization := by
  unfold bootstrapSubscription SynapseSaas.bootstrapSubscription
  cases db.plans.find? (·.key = settings.defaultPlanKey) with
  | none => rfl
  | some plan => simp only [result_bind, result_createSubscription, result_pure]

end Results

/-! None of them is hindered by an occupying subscription. -/

section Unhindered

variable {env : Env} {provider : Provider} {db : Db} {now : Int} {organization : Nat}

theorem createSubscription_unhindered {plan : Plan} {status : Status}
    {currentPeriodStart currentPeriodEnd trialEndsAt : Option Int}
    {provider providerSubscriptionId : Option String} (housed : db.Housed)
    (home : ∃ row ∈ db.organizations, row.id = organization)
    (vacant : db.currentForOrg organization = none) :
    (createSubscription db now organization plan status currentPeriodStart currentPeriodEnd
      trialEndsAt provider providerSubscriptionId).Unhindered fun created =>
        created.1 ∈ created.2.subscriptions.rows ∧ db.Keeps created.2 := by
  unfold createSubscription
  apply Settles.bind (Db.explainInsert_unhindered housed home vacant)
  intro created kept
  exact ⟨kept.1, kept.2.emit _ _ _⟩

theorem endCurrent_unhindered (housed : db.Housed) :
    (endCurrent db now organization).Unhindered fun mid =>
      mid.currentForOrg organization = none ∧ db.Keeps mid := by
  unfold endCurrent
  cases current : db.currentForOrg organization with
  | none => exact ⟨current, housed.keeps rfl rfl⟩
  | some existing =>
      obtain ⟨member, mine, occupying⟩ := Db.currentForOrg_eq_some.mp current
      dsimp only
      split
      · exact unhindered_raise _ _ _
      · apply Unhindered.after_elsewhere
        intro status legal
        have same : (existing.ended now).id = existing.id := rfl
        apply (Db.explainPut_unhindered housed member same rfl fun _ => occupying).weaken
        rintro mid ⟨writes, keeps⟩
        exact ⟨mine ▸ writes.vacated occupying Bool.false_ne_true, keeps⟩

/-- The trial is inserted once nothing occupies its organization any more. -/
theorem startTrial_unhindered {planKey : String} {trialDays : Option Nat} (housed : db.Housed)
    (home : ∃ row ∈ db.organizations, row.id = organization) :
    (startTrial db now organization planKey trialDays).Unhindered fun started =>
      db.Keeps started.2 := by
  unfold startTrial
  apply Unhindered.after_elsewhere
  intro plan found
  dsimp only
  split
  · exact unhindered_raise _ _ _
  · apply Settles.bind (endCurrent_unhindered housed)
    rintro mid ⟨vacant, keeps⟩
    have home : ∃ row ∈ mid.organizations, row.id = organization := keeps.organizations ▸ home
    apply (createSubscription_unhindered keeps.housed home vacant).weaken
    intro created kept
    exact keeps.trans kept.2

theorem changePlan_unhindered {planKey : String} {provider providerSubscriptionId : Option String}
    {keepPeriod : Bool} (housed : db.Housed)
    (home : ∃ row ∈ db.organizations, row.id = organization) :
    (changePlan db now organization planKey provider providerSubscriptionId
      keepPeriod).Unhindered fun changed =>
        changed.1 ∈ changed.2.subscriptions.rows ∧ db.Keeps changed.2 := by
  unfold changePlan
  apply Unhindered.after_elsewhere
  intro plan found
  cases current : db.currentForOrg organization with
  | none => exact createSubscription_unhindered housed home current
  | some existing =>
      obtain ⟨member, -, occupying⟩ := Db.currentForOrg_eq_some.mp current
      have same : (existing.switched now plan provider providerSubscriptionId keepPeriod).id =
          existing.id := rfl
      apply Settles.bind (Db.explainPut_unhindered housed member same rfl fun _ => occupying)
      rintro mid ⟨writes, keeps⟩
      exact ⟨(writes.mem _).mpr (.inl rfl), keeps.emit _ _ _⟩

theorem cancel_unhindered {atPeriodEnd : Bool} (housed : db.Housed) :
    (cancel db now organization atPeriodEnd).Unhindered fun canceled => db.Keeps canceled.2 := by
  unfold cancel
  apply Unhindered.after_elsewhere
  intro existing found
  obtain ⟨member, -, occupying⟩ :=
    Db.currentForOrg_eq_some.mp (SubscriptionService.requireCurrent_eq_ok.mp found)
  apply Unhindered.after_elsewhere
  intro status legal
  have same : (SubscriptionService.canceledRow existing now atPeriodEnd).id = existing.id ∧
      (SubscriptionService.canceledRow existing now atPeriodEnd).organizationId =
        existing.organizationId := by
    cases atPeriodEnd <;> exact ⟨rfl, rfl⟩
  apply Settles.bind
    (Db.explainPut_unhindered housed member same.1 same.2 fun _ => occupying)
  rintro mid ⟨writes, keeps⟩
  exact keeps.emit _ _ _

theorem resume_unhindered (housed : db.Housed) :
    (resume db organization).Unhindered fun resumed => db.Keeps resumed.2 := by
  unfold resume
  apply Unhindered.after_elsewhere
  intro existing found
  obtain ⟨member, -, occupying⟩ :=
    Db.currentForOrg_eq_some.mp (SubscriptionService.requireCurrent_eq_ok.mp found)
  dsimp only
  split
  · have same : ({ existing with cancelAtPeriodEnd := false } : Subscription).id = existing.id := rfl
    apply Settles.bind (Db.explainPut_unhindered housed member same rfl fun _ => occupying)
    rintro mid ⟨writes, keeps⟩
    exact keeps.emit _ _ _
  · exact unhindered_raise _ _ _

/-- A provider's report about the subscription that occupies its organization. -/
theorem applyProviderTransition_unhindered {existing : Subscription} {targetStatus : String}
    {currentPeriodEnd : Option Int} (housed : db.Housed)
    (current : db.currentForOrg organization = some existing) :
    (applyProviderTransition db existing targetStatus currentPeriodEnd).Unhindered fun moved =>
      db.Keeps moved.2 := by
  unfold applyProviderTransition
  obtain ⟨member, -, occupying⟩ := Db.currentForOrg_eq_some.mp current
  apply Unhindered.after_elsewhere
  intro status legal
  have same : ({ existing with
      status := status
      currentPeriodEnd := currentPeriodEnd.getD existing.currentPeriodEnd } : Subscription).id =
      existing.id := rfl
  apply Settles.bind (Db.explainPut_unhindered housed member same rfl fun _ => occupying)
  rintro mid ⟨writes, keeps⟩
  exact keeps

/-- About any other row the report may be refused: when it makes the row occupy an
organization that another one occupies. -/
theorem applyProviderTransition_refused {existing : Subscription} {targetStatus : String}
    {currentPeriodEnd : Option Int} {status : Status} (member : existing ∈ db.subscriptions.rows)
    (legal : assertTransition existing.status targetStatus = .ok status) :
    (∃ stop, applyProviderTransition db existing targetStatus currentPeriodEnd = .error stop ∧
      stop.onePerOrg) ↔
      status.occupying ∧
        ∃ other ∈ db.subscriptions.rows, other.id ≠ existing.id ∧ other.status.occupying ∧
          other.organizationId = existing.organizationId := by
  have same : ({ existing with
      status := status
      currentPeriodEnd := currentPeriodEnd.getD existing.currentPeriodEnd } : Subscription).id =
      existing.id := rfl
  rw [← Db.explainPut_onePerOrg member same]
  unfold applyProviderTransition
  rw [legal]
  change (∃ stop, (db.explainPut _ >>= fun next => pure _) = _ ∧ _) ↔ _
  simp only [bind_pure_eq_error]

theorem completeCheckout_unhindered {row : Organization} {plan : Plan}
    {providerSubscriptionId : Option String} {contactUser : Option User} {source : CheckoutSource}
    (housed : db.Housed) (home : ∃ other ∈ db.organizations, other.id = row.id) :
    (completeCheckout env provider db row plan providerSubscriptionId contactUser
      source).Unhindered fun completed => db.Keeps completed.2.2 := by
  unfold completeCheckout
  split
  · exact unhindered_raise _ _ _
  · apply Unhindered.after_elsewhere
    rintro ⟨customer, ensured⟩ found
    -- The customer is written first; it touches neither organizations nor subscriptions.
    have frame := (BillingService.ensureCustomer_frame found).1
    have untouched : db.Keeps ensured := by
      rw [frame]
      exact housed.keeps rfl rfl
    have home : ∃ other ∈ ensured.organizations, other.id = row.id :=
      untouched.organizations ▸ home
    apply Settles.bind (changePlan_unhindered untouched.housed home)
    rintro ⟨subscription, switched⟩ ⟨-, keeps⟩
    apply Unhindered.after_elsewhere
    rintro ⟨invoice, recorded⟩ record
    rcases BillingService.recordInvoice_cases record with ⟨-, -, rfl⟩ | ⟨-, opened, -, inserts, -⟩
    · exact untouched.trans keeps
    · have organizations : recorded.organizations = switched.organizations := by rw [inserts.rest]
      exact (untouched.trans keeps).trans
        (keeps.housed.keeps organizations inserts.subscriptions)

theorem changePlanLocally_unhindered {plan : Plan} (housed : db.Housed)
    (home : ∃ row ∈ db.organizations, row.id = organization) :
    (changePlanLocally env provider db organization plan).Unhindered fun changed =>
      db.Keeps changed.2.2 := by
  unfold changePlanLocally
  apply Settles.bind (changePlan_unhindered housed home)
  rintro ⟨moved, mid⟩ ⟨here, keeps⟩
  dsimp only
  split
  · exact keeps
  · next adjustment queued =>
      have same : ({ moved with
          pendingAdjustments := moved.pendingAdjustments ++ [adjustment] } : Subscription).id =
          moved.id := rfl
      apply Settles.bind (Db.explainPut_unhindered keeps.housed here same rfl fun occupies => occupies)
      rintro next ⟨-, kept⟩
      exact keeps.trans kept

theorem changeBilledPlan_unhindered {planKey : String} (housed : db.Housed)
    (home : ∃ row ∈ db.organizations, row.id = organization) :
    (changeBilledPlan env provider db organization planKey).Unhindered fun changed =>
      db.Keeps changed.2.2 := by
  unfold changeBilledPlan
  apply Unhindered.after_elsewhere
  intro plan found
  split
  · unfold changePlanHosted
    split
    · exact unhindered_raise _ _ _
    · apply Unhindered.after_elsewhere
      intro ref changed
      apply Settles.bind (changePlan_unhindered housed home)
      rintro ⟨moved, mid⟩ ⟨-, keeps⟩
      exact keeps
  · exact changePlanLocally_unhindered housed home

theorem draftForOrg_unhindered {period : Option Int} (housed : db.Housed) :
    (draftForOrg env db organization period).Unhindered fun drafted => db.Keeps drafted.2 := by
  unfold draftForOrg
  apply Unhindered.after_elsewhere
  intro found search
  cases found with
  | some existing => exact housed.keeps rfl rfl
  | none =>
      apply Unhindered.after_elsewhere
      intro subscription active
      obtain ⟨member, -⟩ := Db.currentForOrg_eq_some.mp (InvoicingService.activeSubscription_eq_ok.mp active)
      have same : ({ subscription with
          pendingAdjustments := carryover env.now (draftLines (effectiveForOrg env db organization)
            db subscription (period.getD (monthBucket env.now))) } : Subscription).id =
          subscription.id := rfl
      apply Settles.bind (Db.explainPut_unhindered housed member same rfl fun occupies => occupies)
      rintro mid ⟨-, keeps⟩
      apply unhindered_elsewhere
      rintro ⟨draft, next⟩ insert
      obtain ⟨inserts, -⟩ := Db.insertInvoice_inserts insert
      have organizations : next.organizations = mid.organizations := by rw [inserts.rest]
      exact keeps.trans (keeps.housed.keeps organizations inserts.subscriptions)

theorem billEndedPeriod_unhindered {subscription : Subscription} (housed : db.Housed) :
    (billEndedPeriod env db subscription).Unhindered fun billed => db.Keeps billed := by
  unfold billEndedPeriod
  split
  · apply Settles.bind (draftForOrg_unhindered housed)
    rintro ⟨invoice, drafting⟩ keeps
    dsimp only at keeps ⊢
    split
    · apply Unhindered.after_elsewhere
      rintro ⟨opened, next⟩ done
      obtain ⟨old, -, ⟨-, -, rfl⟩ | ⟨-, -, writes⟩⟩ := InvoicingService.finalize_cases done
      · exact keeps
      · have organizations : next.organizations = drafting.organizations := by rw [writes.rest]
        exact keeps.trans (keeps.housed.keeps organizations writes.subscriptions)
    · exact keeps
  · exact housed.keeps rfl rfl

theorem renewLocallyBilled_unhindered {subscription : Subscription} (housed : db.Housed) :
    (renewLocallyBilled env db subscription).Unhindered fun renewed => db.Keeps renewed := by
  unfold renewLocallyBilled
  apply Settles.bind (billEndedPeriod_unhindered housed)
  intro billed keeps
  cases located : billed.subscriptions.get subscription.id with
  | none => exact rfl
  | some current =>
      have same : current.rolled.id = current.id := rfl
      obtain ⟨member, -⟩ := Table.get_eq_some.mp located
      apply (Db.explainPut_unhindered keeps.housed member same rfl fun occupies => occupies).weaken
      rintro next ⟨-, kept⟩
      exact keeps.trans kept

theorem bootstrapSubscription_unhindered {settings : Settings} (housed : db.Housed)
    (home : ∃ row ∈ db.organizations, row.id = organization)
    (vacant : db.currentForOrg organization = none) :
    (bootstrapSubscription settings now db organization).Unhindered fun next => db.Keeps next := by
  unfold bootstrapSubscription
  split
  · exact housed.keeps rfl rfl
  · apply Settles.bind (createSubscription_unhindered housed home vacant)
    rintro ⟨subscription, next⟩ ⟨-, keeps⟩
    exact keeps

end Unhindered

end Explained

end SynapseSaas
