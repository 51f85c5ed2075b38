import SynapseSaas.Billing.Invoicing
import SynapseSaas.Billing.Providers
import SynapseSaas.Subscriptions.Proration
import SynapseSaas.Subscriptions.Service

/-! Customers, checkout completion and plan changes through the active provider.

The provider is called before anything is written. -/

set_option autoImplicit false

namespace SynapseSaas

inductive CheckoutSource where
  | webhook            -- the provider reports that payment happened
  | clientConfirm      -- the tenant does
  deriving DecidableEq, Repr

structure PeriodSnapshot where
  planKey : String
  priceCents : Int
  periodStart : Int
  periodEnd : Int
  deriving DecidableEq, Repr

/-- What the organization was paying, and for which period, before a change. -/
def periodSnapshot : Option Subscription → Option PeriodSnapshot
  | some subscription =>
      if subscription.status = .active then
        some
          { planKey := (subscription.planSnapshot.map (·.key)).getD ""
            priceCents := subscription.priceCents
            periodStart := subscription.currentPeriodStart
            periodEnd := subscription.currentPeriodEnd }
      else none
  | none => none

/-- A fraction in millionths as a percentage with one decimal. -/
def percent (fraction : Int) : String :=
  let tenths := Rounding.divHalfEven fraction 1000
  toString (tenths / 10) ++ "." ++ toString (tenths % 10) ++ "%"

/-- The correction a switch queues if the period was kept; none when nothing is
owed either way. -/
def prorationAdjustment (now : Int) (previous : Option PeriodSnapshot) (subscription : Subscription)
    (plan : Plan) : Option Adjustment :=
  match previous with
  | none => none
  | some previous =>
      -- A period that moved was billed anew, so nothing is left to settle.
      if subscription.currentPeriodEnd ≠ previous.periodEnd then none
      else
        let newPrice := plan.priceCents.getD 0
        let amount := arrearsAdjustmentCents previous.priceCents newPrice previous.periodStart
          previous.periodEnd now
        let elapsed := (prorate previous.priceCents newPrice previous.periodStart previous.periodEnd
          now).elapsedFraction
        let what := if amount < 0 then "credit" else "charge"
        if amount = 0 then none
        else some
          { kind := "proration"
            amountCents := amount
            description := "Plan change " ++ previous.planKey ++ " → " ++ plan.key ++ ": " ++ what ++
              " for " ++ percent elapsed ++ " of the period at the previous price"
            fromPlan := some previous.planKey
            toPlan := some plan.key
            fromPriceCents := some previous.priceCents
            toPriceCents := some newPrice
            createdAt := now }

def Db.customerOf (db : Db) (organization : Nat) : Option BillingCustomer :=
  db.billingCustomers.rows.find? fun customer => customer.organizationId = organization

namespace BillingService

variable (env : Env) (provider : Provider)

def customerRequest (db : Db) (organization : Organization) (contactUser : Option User) :
    CreateCustomerRequest :=
  let owner := organization.ownerUserId.bind fun id => db.users.find? (·.id = id)
  match contactUser <|> owner with
  | some contact => ⟨contact.email, contact.displayName, organization.id, env.settings.billingCurrency⟩
  | none =>
      ⟨organization.slug ++ "@example.com", some organization.name, organization.id,
        env.settings.billingCurrency⟩

def ensureCustomer (db : Db) (organization : Organization) (contactUser : Option User) :
    Result (BillingCustomer × Db) := do
  match db.customerOf organization.id with
  | some existing => return (existing, db)
  | none =>
      let ref ← provider.createCustomer (customerRequest env db organization contactUser)
      db.insertBillingCustomer fun id =>
        { id := id
          organizationId := organization.id
          provider := provider.name
          providerCustomerId := some ref.providerCustomerId
          email := ref.email
          name := ref.name
          currency := some env.settings.billingCurrency }

/-- The open invoice of a checkout; a plan without a price records none. -/
def recordInvoice (db : Db) (customer : BillingCustomer) (plan : Plan) :
    Result (Option Invoice × Db) := do
  let price := plan.priceCents.getD 0
  if price = 0 then return (none, db)
  else
    let (invoice, db) ← db.insertInvoice fun id =>
      { id := id
        organizationId := customer.organizationId
        billingCustomerId := some customer.id
        provider := some provider.name
        currency := plan.currency
        subtotalCents := price
        taxCents := 0
        totalCents := price
        status := .open
        createdAt := env.now }
    return (some invoice, db.appendOutbox "invoice.created" "invoice" invoice.id
      (some customer.organizationId)
      [("total_cents", .int price), ("currency", .str plan.currency), ("plan_key", .str plan.key)])

/-- Activate the subscription after checkout. -/
def completeCheckout (db : Db) (organization : Organization) (plan : Plan)
    (providerSubscriptionId : Option String) (contactUser : Option User) (source : CheckoutSource) :
    Result (Subscription × Option Invoice × Db) := do
  if source = .clientConfirm ∧ BillingCapability.clientConfirm ∉ provider.supports then
    raise .checkoutConfirmNotAllowed
      (provider.name ++ " verifies payment via its own callback; activation " ++
        "happens when the provider webhook arrives, not on client confirmation")
      [("provider", .str provider.name)]
  else
    let (customer, db) ← ensureCustomer env provider db organization contactUser
    let (subscription, db) ← SubscriptionService.changePlan db env.now organization.id plan.key
      (some provider.name) providerSubscriptionId false
    let (invoice, db) ← recordInvoice env provider db customer plan
    return (subscription, invoice, db)

/-- A plan change billed here: paid to paid keeps the period and queues the
prorated correction, anything else starts a fresh cycle. -/
def changePlanLocally (db : Db) (organization : Nat) (plan : Plan) :
    Result (Subscription × Option Adjustment × Db) := do
  let previous := periodSnapshot (db.currentForOrg organization)
  let keepPeriod := previous.any fun previous => 0 < previous.priceCents
  let (subscription, db) ← SubscriptionService.changePlan db env.now organization plan.key
    (some provider.name) none keepPeriod
  match if keepPeriod then prorationAdjustment env.now previous subscription plan else none with
  | none => return (subscription, none, db)
  | some adjustment =>
      let queued := { subscription with
        pendingAdjustments := subscription.pendingAdjustments ++ [adjustment] }
      let db ← db.putSubscription queued
      return (queued, some adjustment, db)

/-- A plan change of a subscription the provider renews and prorates itself. -/
def changePlanHosted (db : Db) (organization : Nat) (plan : Plan) :
    Result (Subscription × Option Adjustment × Db) := do
  match (db.currentForOrg organization).bind (·.providerSubscriptionId.filter (· ≠ "")) with
  | none =>
      raise .checkoutRequired
        ("Plan changes on " ++ provider.name ++ " require a subscription purchased through it")
        [("plan_key", .str plan.key), ("checkout_url", .str "/v1/billing/checkout")]
  | some reference =>
      let ref ← provider.changePlan reference
        ⟨plan.key, plan.priceCents.getD 0, plan.currency,
          (plan.interval.map Interval.name).getD "month"⟩
      let (subscription, db) ← SubscriptionService.changePlan db env.now organization plan.key
        (some provider.name) (some ref.providerSubscriptionId) true
      return (subscription, none, db)

/-- Change the plan, through the provider when the provider bills. The second
component is the correction queued, as the log line of the change reports it. -/
def changePlan (db : Db) (organization : Nat) (planKey : String) :
    Result (Subscription × Option Adjustment × Db) := do
  let plan ← db.planByKey planKey
  if BillingCapability.recurringHosted ∈ provider.supports then
    changePlanHosted env provider db organization plan
  else changePlanLocally env provider db organization plan

section Specifications

variable {env : Env} {provider : Provider} {db next : Db} {organization : Nat}
  {subscription : Subscription} {adjustment : Option Adjustment}

theorem prorationAdjustment_ne_zero {now : Int} {previous : Option PeriodSnapshot} {plan : Plan}
    (queued : prorationAdjustment now previous subscription plan = adjustment) :
    ∀ entry ∈ adjustment, entry.amountCents ≠ 0 := by
  subst queued
  intro entry member
  unfold prorationAdjustment at member
  split at member
  · cases member
  · split at member
    · cases member
    · simp only at member
      split at member
      · cases member
      · next owed =>
          cases member
          exact owed

/-- A plan change queues nothing or one correction on the changed subscription. -/
theorem changePlanLocally_cases {plan : Plan}
    (changed : changePlanLocally env provider db organization plan =
      .ok (subscription, adjustment, next)) :
    ∃ keepPeriod moved mid,
      keepPeriod = (periodSnapshot (db.currentForOrg organization)).any (0 < ·.priceCents) ∧
      SubscriptionService.changePlan db env.now organization plan.key (some provider.name) none
        keepPeriod = .ok (moved, mid) ∧
      adjustment = (if keepPeriod then
        prorationAdjustment env.now (periodSnapshot (db.currentForOrg organization)) moved plan
        else none) ∧
      (adjustment = none ∧ subscription = moved ∧ next = mid ∨
        ∃ queued, adjustment = some queued ∧ mid.WritesSubscription moved subscription next ∧
          subscription =
            { moved with pendingAdjustments := moved.pendingAdjustments ++ [queued] }) := by
  obtain ⟨⟨moved, mid⟩, switched, changed⟩ := Result.bind_eq_ok.mp changed
  refine ⟨_, moved, mid, rfl, switched, ?_⟩
  -- The moved row is in the table, whether it was inserted or replaced.
  have here : moved ∈ mid.subscriptions.rows := by
    obtain ⟨_, -, ⟨-, inserts, -⟩ | ⟨existing, -, writes, -⟩⟩ :=
      SubscriptionService.changePlan_cases switched
    · rw [inserts.rows]
      simp
    · exact (writes.mem moved).mpr (.inl rfl)
  simp only at changed
  split at changed
  · next nothing =>
      cases changed
      exact ⟨nothing.symm, .inl ⟨rfl, rfl, rfl⟩⟩
  · next queued something =>
      obtain ⟨written, put, done⟩ := Result.bind_eq_ok.mp changed
      cases done
      exact ⟨something.symm, .inr ⟨queued, rfl, Db.putSubscription_writes put here rfl, rfl⟩⟩

theorem changePlan_locally {planKey : String} {plan : Plan}
    (locally : .recurringHosted ∉ provider.supports) (found : db.planByKey planKey = .ok plan) :
    changePlan env provider db organization planKey =
      changePlanLocally env provider db organization plan := by
  simp only [changePlan, found, if_neg locally]
  rfl

/-- Finding or creating the customer touches no other table. -/
theorem ensureCustomer_frame {row : Organization} {contactUser : Option User}
    {customer : BillingCustomer}
    (ensured : ensureCustomer env provider db row contactUser = .ok (customer, next)) :
    next = { db with billingCustomers := next.billingCustomers } ∧
      customer.organizationId = row.id := by
  simp only [ensureCustomer] at ensured
  split at ensured
  · next existing found =>
      cases ensured
      have mine := List.find?_some found
      exact ⟨rfl, by simpa using mine⟩
  · obtain ⟨ref, -, insert⟩ := Result.bind_eq_ok.mp ensured
    obtain ⟨table, -, eq⟩ := write_eq_ok.mp insert
    cases eq
    exact ⟨rfl, rfl⟩

theorem recordInvoice_cases {customer : BillingCustomer} {plan : Plan} {invoice : Option Invoice}
    (recorded : recordInvoice env provider db customer plan = .ok (invoice, next)) :
    plan.priceCents.getD 0 = 0 ∧ invoice = none ∧ next = db ∨
      plan.priceCents.getD 0 ≠ 0 ∧ ∃ opened, invoice = some opened ∧ db.InsertsInvoice opened next ∧
        opened.id = db.invoices.next ∧ opened.organizationId = customer.organizationId ∧
        opened.status = .open := by
  simp only [recordInvoice] at recorded
  split at recorded
  · next free =>
      cases recorded
      exact .inl ⟨free, rfl, rfl⟩
  · next priced =>
      obtain ⟨⟨opened, mid⟩, insert, done⟩ := Result.bind_eq_ok.mp recorded
      cases done
      obtain ⟨inserts, eq⟩ := Db.insertInvoice_inserts insert
      exact .inr ⟨priced, opened, rfl, inserts.outbox _ _ _ _ _, eq ▸ rfl, eq ▸ rfl, eq ▸ rfl⟩

/-- A completed checkout switches the plan, resetting the period, and records
the open invoice of a priced plan. -/
theorem completeCheckout_cases {row : Organization} {plan : Plan} {reference : Option String}
    {contactUser : Option User} {source : CheckoutSource} {invoice : Option Invoice}
    (completed : completeCheckout env provider db row plan reference contactUser source =
      .ok (subscription, invoice, next)) :
    ∃ ensured switched, ensured = { db with billingCustomers := ensured.billingCustomers } ∧
      SubscriptionService.changePlan ensured env.now row.id plan.key (some provider.name) reference
        false = .ok (subscription, switched) ∧
      (plan.priceCents.getD 0 = 0 ∧ invoice = none ∧ next = switched ∨
        plan.priceCents.getD 0 ≠ 0 ∧ ∃ opened, invoice = some opened ∧
          switched.InsertsInvoice opened next ∧ opened.id = switched.invoices.next ∧
          opened.organizationId = row.id ∧ opened.status = .open) := by
  simp only [completeCheckout] at completed
  split at completed
  · cases completed
  · obtain ⟨⟨customer, ensured⟩, found, completed⟩ := Result.bind_eq_ok.mp completed
    obtain ⟨⟨moved, switched⟩, changed, completed⟩ := Result.bind_eq_ok.mp completed
    obtain ⟨⟨recorded, after⟩, record, done⟩ := Result.bind_eq_ok.mp completed
    cases done
    obtain ⟨frame, mine⟩ := ensureCustomer_frame found
    have outcome := recordInvoice_cases record
    rw [mine] at outcome
    exact ⟨ensured, switched, frame, changed, outcome⟩

theorem completeCheckout_ledger {row : Organization} {plan : Plan} {reference : Option String}
    {contactUser : Option User} {source : CheckoutSource} {invoice : Option Invoice}
    (completed : completeCheckout env provider db row plan reference contactUser source =
      .ok (subscription, invoice, next)) :
    next.providerWebhookEvents = db.providerWebhookEvents := by
  obtain ⟨ensured, switched, frame, changed, outcome⟩ := completeCheckout_cases completed
  have moved : switched.providerWebhookEvents = ensured.providerWebhookEvents := by
    obtain ⟨_, -, ⟨-, inserts, -⟩ | ⟨existing, -, writes, -⟩⟩ :=
      SubscriptionService.changePlan_cases changed
    · rw [inserts.rest]
    · rw [writes.rest]
  have before : ensured.providerWebhookEvents = db.providerWebhookEvents := by rw [frame]
  rcases outcome with ⟨-, -, rfl⟩ | ⟨-, opened, -, inserts, -⟩
  · exact moved.trans before
  · rw [inserts.rest]
    exact moved.trans before

/-- Whoever bills, a plan change is a switch, and possibly a write of the queue. -/
theorem changePlan_cases {planKey : String}
    (changed : changePlan env provider db organization planKey =
      .ok (subscription, adjustment, next)) :
    ∃ reference keepPeriod moved mid,
      SubscriptionService.changePlan db env.now organization planKey (some provider.name) reference
        keepPeriod = .ok (moved, mid) ∧
      (adjustment = none ∧ subscription = moved ∧ next = mid ∨
        ∃ queued, adjustment = some queued ∧ mid.WritesSubscription moved subscription next ∧
          subscription =
            { moved with pendingAdjustments := moved.pendingAdjustments ++ [queued] }) := by
  obtain ⟨plan, found, changed⟩ := Result.bind_eq_ok.mp changed
  have key := Db.planByKey_eq_ok found
  split at changed
  -- The provider settles a hosted change, so nothing is queued here.
  · simp only [changePlanHosted] at changed
    split at changed
    · cases changed
    · obtain ⟨ref, -, changed⟩ := Result.bind_eq_ok.mp changed
      obtain ⟨⟨moved, mid⟩, switched, done⟩ := Result.bind_eq_ok.mp changed
      cases done
      rw [key] at switched
      exact ⟨_, _, moved, mid, switched, .inl ⟨rfl, rfl, rfl⟩⟩
  · obtain ⟨keepPeriod, moved, mid, -, switched, -, outcome⟩ := changePlanLocally_cases changed
    rw [key] at switched
    exact ⟨none, keepPeriod, moved, mid, switched, outcome⟩

end Specifications

end BillingService

end SynapseSaas
