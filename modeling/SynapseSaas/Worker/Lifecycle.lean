import SynapseSaas.Billing.Webhooks
import SynapseSaas.Worker.Renewals

/-! The system over time: a clock, the database, and every operation that
writes a subscription. All of them find the clock where it stands. -/

set_option autoImplicit false

namespace SynapseSaas

structure Lifecycle where
  now : Int
  db : Db

/-- What runs between two instants. The services and jobs that write no
subscription (the catalog, grants and their expiry, usage and its rollup, invoice
states, the outbox, webhook deliveries, partitions, retention) are one operation:
whatever they leave of the other tables. -/
inductive Operation where
  | wait (elapsed : Nat)
  | bootstrapSubscription (organization : Nat)
  | startTrial (organization : Nat) (planKey : String) (trialDays : Option Nat)
  | changePlan (api : BillingApi) (organization : Nat) (planKey : String)
  | completeCheckout (api : BillingApi) (organization : Organization) (plan : Plan)
      (providerSubscriptionId : Option String) (contactUser : Option User) (source : CheckoutSource)
  | cancel (organization : Nat) (atPeriodEnd : Bool)
  | resume (organization : Nat)
  | deliver (webhook : VerifiedWebhook) (api : BillingApi) (faults : Faults)
  | draftForOrg (organization : Nat) (period : Option Int)
      (cached : Nat → Option EffectiveEntitlements)
  | advanceRecurringBilling (cached : Nat → Option EffectiveEntitlements)
  | elsewhere (rest : Db)

/-- The default-plan subscription of a brand-new organization. -/
def bootstrapSubscription (settings : Settings) (now : Int) (db : Db) (organization : Nat) :
    Result Db :=
  match db.plans.find? (·.key = settings.defaultPlanKey) with
  | none => .ok db
  | some plan => do
      let (_, db) ← SubscriptionService.createSubscription db now organization plan .active
        (some now) (some (now + 30 * day)) none none none
      return db

namespace Operation

def elapsed : Operation → Nat
  | .wait elapsed => elapsed
  | _ => 0

def run (settings : Settings) (now : Int) (db : Db) : Operation → Result Db
  | .wait _ => .ok db
  | .bootstrapSubscription organization =>
      SynapseSaas.bootstrapSubscription settings now db organization
  | .startTrial organization planKey trialDays => do
      let (_, db) ← SubscriptionService.startTrial db now organization planKey trialDays
      return db
  | .changePlan api organization planKey => do
      let provider ← buildProvider settings api
      let (_, _, db) ← BillingService.changePlan { now, settings } provider db organization planKey
      return db
  | .completeCheckout api organization plan providerSubscriptionId contactUser source => do
      let provider ← buildProvider settings api
      let (_, _, db) ← BillingService.completeCheckout { now, settings } provider db organization
        plan providerSubscriptionId contactUser source
      return db
  | .cancel organization atPeriodEnd => do
      let (_, db) ← SubscriptionService.cancel db now organization atPeriodEnd
      return db
  | .resume organization => do
      let (_, db) ← SubscriptionService.resume db organization
      return db
  | .deliver webhook api faults => do
      let (_, db) ← Delivery.handle ⟨webhook, { now, settings }, api, faults⟩ db
      return db
  | .draftForOrg organization period cached => do
      let (_, db) ← InvoicingService.draftForOrg { now, settings, cached } db organization period
      return db
  | .advanceRecurringBilling cached =>
      .ok (SynapseSaas.advanceRecurringBilling { now, settings, cached } db).2
  -- Whatever else the system does leaves the subscriptions alone.
  | .elsewhere rest => .ok { rest with subscriptions := db.subscriptions }

/-- What the worker does of its own accord. -/
def IsJob : Operation → Prop
  | .wait _ | .advanceRecurringBilling _ | .elsewhere _ => True
  | _ => False

end Operation

/-- A failed operation leaves the database as it was. -/
def lifecycleStep (settings : Settings) (state : Lifecycle) (operation : Operation) : Lifecycle where
  now := state.now + operation.elapsed
  db := Transaction.commit state.db (operation.run settings state.now state.db)

end SynapseSaas
