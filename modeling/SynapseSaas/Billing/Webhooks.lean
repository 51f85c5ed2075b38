import SynapseSaas.Billing.Service
import SynapseSaas.Foundation.Runs

/-! Ingest of verified provider webhooks: the ledger, the application of each
normalized event in its own savepoint, and the request around them. -/

set_option autoImplicit false

namespace SynapseSaas

inductive BillingEventType where
  | subscriptionCreated | subscriptionActivated | subscriptionUpdated | subscriptionCanceled
  | subscriptionPastDue | subscriptionTrialEnded
  | invoiceCreated | invoicePaid | invoiceFailed
  | checkoutCompleted
  | other (name : String)
  deriving DecidableEq, Repr

def BillingEventType.name : BillingEventType → String
  | .subscriptionCreated => "subscription.created"
  | .subscriptionActivated => "subscription.activated"
  | .subscriptionUpdated => "subscription.updated"
  | .subscriptionCanceled => "subscription.canceled"
  | .subscriptionPastDue => "subscription.past_due"
  | .subscriptionTrialEnded => "subscription.trial_ended"
  | .invoiceCreated => "invoice.created"
  | .invoicePaid => "invoice.paid"
  | .invoiceFailed => "invoice.failed"
  | .checkoutCompleted => "checkout.completed"
  | .other name => name

structure NormalizedBillingEvent where
  eventType : BillingEventType
  occurredAt : Int
  providerCustomerId : Option String := none
  providerSubscriptionId : Option String := none
  providerInvoiceId : Option String := none
  planKey : Option String := none
  status : Option String := none
  currentPeriodEnd : Option Int := none
  amountCents : Option Int := none
  currency : Option String := none
  hostedUrl : Option String := none
  deriving DecidableEq, Repr

/-- A Python string or `None` in a boolean position. -/
def present (text : Option String) : Option String := text.filter (· ≠ "")

/-- `synapse_org_for_provider_ref`: a customer reference outranks a subscription's. -/
def Db.orgForProviderRef (db : Db) (customer subscription : Option String) : Option Nat :=
  let ofCustomer := customer.bind fun reference =>
    db.billingCustomers.rows.find? (·.providerCustomerId = some reference)
  let ofSubscription := subscription.bind fun reference =>
    db.subscriptions.rows.find? (·.providerSubscriptionId = some reference)
  ofCustomer.map (·.organizationId) <|> ofSubscription.map (·.organizationId)

def NormalizedBillingEvent.organization (event : NormalizedBillingEvent) (db : Db) : Option Nat :=
  db.orgForProviderRef event.providerCustomerId event.providerSubscriptionId

/-- The status a subscription event asks for, as text. -/
def NormalizedBillingEvent.targetStatus (event : NormalizedBillingEvent) : Option String :=
  match event.eventType with
  | .subscriptionActivated | .subscriptionCreated | .subscriptionTrialEnded => some "active"
  | .subscriptionUpdated => some ((present event.status).getD "active")
  | .subscriptionCanceled => some "canceled"
  | .subscriptionPastDue => some "past_due"
  | _ => none

/-- The status an invoice event asks for. -/
def NormalizedBillingEvent.invoiceStatus (event : NormalizedBillingEvent) : Option InvoiceStatus :=
  match event.eventType with
  | .invoicePaid => some .paid
  | .invoiceCreated => some .open
  | .invoiceFailed => some .uncollectible
  | _ => none

def Db.providerInvoice (db : Db) (provider reference : String) : Option Invoice :=
  db.invoices.rows.find? fun invoice =>
    invoice.provider = some provider ∧ invoice.providerInvoiceId = some reference

/-- `Invoice(organization_id=org_id)`, with the defaults of its columns. -/
def blankInvoice (organization : Nat) (now : Int) (id : Nat) : Invoice where
  id := id
  organizationId := organization
  createdAt := now

/-- What a provider's invoice event makes of an invoice row. -/
def Invoice.reported (invoice : Invoice) (providerName reference : String) (customer : Option Nat)
    (event : NormalizedBillingEvent) (status : InvoiceStatus) : Invoice :=
  { invoice with
    provider := some providerName
    providerInvoiceId := some reference
    billingCustomerId := customer
    currency := (present event.currency).getD "PHP"
    totalCents := event.amountCents.getD 0
    status := status
    hostedUrl := event.hostedUrl
    paidAt := if status = .paid then some event.occurredAt else invoice.paidAt }

namespace BillingWebhookService

variable (env : Env) (api : BillingApi) (providerName : String)

def applyStatus (db : Db) (organization : Nat) (event : NormalizedBillingEvent)
    (targetStatus : String) : Result Db := do
  match db.currentForOrg organization with
  | none => return db
  | some subscription =>
      let (moved, db) ← SubscriptionService.applyProviderTransition db subscription targetStatus
        event.currentPeriodEnd
      return db.appendOutbox "subscription.updated" "subscription" moved.id (some organization)
        [("status", .str targetStatus), ("provider_event", .str event.eventType.name)]

def applyCheckoutCompleted (db : Db) (organization : Nat) (event : NormalizedBillingEvent) :
    Result Db := do
  match present event.planKey with
  | none => return db
  | some planKey =>
      let provider ← buildProvider env.settings api
      let plan ← db.planByKey planKey
      match db.organizations.find? (·.id = organization) with
      | none => .error (.other .noResult)
      | some row =>
          let (_, _, db) ← BillingService.completeCheckout env provider db row plan
            event.providerSubscriptionId none .webhook
          return db

def upsertInvoice (db : Db) (organization : Nat) (event : NormalizedBillingEvent)
    (status : InvoiceStatus) : Result Db := do
  match present event.providerInvoiceId with
  | none => return db
  | some reference =>
      let customer := (db.customerOf organization).map (·.id)
      let (invoice, db) ← match db.providerInvoice providerName reference with
        | some invoice => do
            let reported := invoice.reported providerName reference customer event status
            let db ← db.putInvoice reported
            pure (reported, db)
        | none =>
            db.insertInvoice fun id =>
              (blankInvoice organization env.now id).reported providerName reference customer event
                status
      if status = .paid then
        return db.appendOutbox "invoice.paid" "invoice" invoice.id (some organization)
          [("total_cents", .int invoice.totalCents), ("currency", .str invoice.currency)]
      else return db

/-- Apply one normalized event. -/
def apply (db : Db) (event : NormalizedBillingEvent) : Result Db :=
  match event.organization db with
  | none => .ok db
  | some organization =>
      match event.targetStatus, event.invoiceStatus, event.eventType with
      | some target, _, _ => applyStatus db organization event target
      | none, some status, _ => upsertInvoice env providerName db organization event status
      | none, none, .checkoutCompleted => applyCheckoutCompleted env api db organization event
      | none, none, _ => .ok db

section Specifications

variable {env : Env} {providerName : String} {db next : Db} {organization : Nat}
  {event : NormalizedBillingEvent} {status : InvoiceStatus}

/-- A provider's invoice without a reference is ignored. -/
theorem upsertInvoice_unreferenced (anonymous : present event.providerInvoiceId = none) :
    upsertInvoice env providerName db organization event status = .ok db := by
  simp only [upsertInvoice, anonymous]
  rfl

/-- A provider's invoice overwrites the row with its reference, or is inserted. -/
theorem upsertInvoice_cases {reference : String}
    (referenced : present event.providerInvoiceId = some reference)
    (stored : upsertInvoice env providerName db organization event status = .ok next) :
    ∃ customer, (∃ old, db.providerInvoice providerName reference = some old ∧
        db.WritesInvoice old (old.reported providerName reference customer event status) next) ∨
      db.providerInvoice providerName reference = none ∧
        db.InsertsInvoice ((blankInvoice organization env.now db.invoices.next).reported
          providerName reference customer event status) next := by
  refine ⟨(db.customerOf organization).map (·.id), ?_⟩
  simp only [upsertInvoice, referenced] at stored
  cases found : db.providerInvoice providerName reference with
  | some old =>
      simp only [found] at stored
      obtain ⟨mid, put, stored⟩ := Result.bind_eq_ok.mp stored
      obtain ⟨pair, eq, done⟩ := Result.bind_eq_ok.mp stored
      cases eq
      have writes := Db.putInvoice_writes put (List.mem_of_find?_eq_some found) rfl
      refine .inl ⟨old, rfl, ?_⟩
      simp only at done
      split at done
      · cases done
        -- A paid invoice is announced as well, which touches no invoice.
        exact writes.outbox _ _ _ _ _
      · cases done
        exact writes
  | none =>
      simp only [found] at stored
      obtain ⟨⟨reported, mid⟩, insert, done⟩ := Result.bind_eq_ok.mp stored
      obtain ⟨inserts, eq⟩ := Db.insertInvoice_inserts insert
      refine .inr ⟨rfl, ?_⟩
      subst eq
      simp only at done
      split at done
      · cases done
        exact inserts.outbox _ _ _ _ _
      · cases done
        exact inserts

theorem providerInvoice_eq_some {reference : String} {invoice : Invoice} :
    db.providerInvoice providerName reference = some invoice ↔
      invoice ∈ db.invoices.rows ∧ invoice.provider = some providerName ∧
        invoice.providerInvoiceId = some reference := by
  constructor
  · intro found
    have selected := List.find?_some found
    simp only [decide_eq_true_eq] at selected
    exact ⟨List.mem_of_find?_eq_some found, selected.1, selected.2⟩
  · rintro ⟨member, provider, referenced⟩
    cases found : db.providerInvoice providerName reference with
    | none =>
        have absent := List.find?_eq_none.mp found invoice member
        simp [provider, referenced] at absent
    | some other =>
        have selected := List.find?_some found
        simp only [decide_eq_true_eq] at selected
        rw [Table.eq_of_key db.invoices member (List.mem_of_find?_eq_some found)
          (Invoice.providerRef_mem_keys.mpr ⟨provider, referenced⟩)
          (Invoice.providerRef_mem_keys.mpr selected)]

/-- A provider's invoice is never refused. -/
theorem upsertInvoice_accepts {reference : String}
    (referenced : present event.providerInvoiceId = some reference) :
    ∃ next, upsertInvoice env providerName db organization event status = .ok next := by
  simp only [upsertInvoice, referenced]
  cases found : db.providerInvoice providerName reference with
  | some old =>
      obtain ⟨member, provider, mine⟩ := providerInvoice_eq_some.mp found
      -- The row keeps its reference and its number, so it claims no new key.
      obtain ⟨mid, put⟩ := Db.putInvoice_accepts member
        (show (old.reported providerName reference ((db.customerOf organization).map (·.id)) event
          status).id = old.id from rfl) fun key here => by
            simpa [Keyed.keys, Invoice.providerKeys, Invoice.numberKeys, Invoice.reported, provider,
              mine] using here
      simp only [put, Result.ok_bind, pure, Except.pure]
      split <;> exact ⟨_, rfl⟩
  | none =>
      obtain ⟨table, inserted⟩ := Table.insert_accepted db.invoices
        (fun id => (blankInvoice organization env.now id).reported providerName reference
          ((db.customerOf organization).map (·.id)) event status) rfl
        fun row member key here there => by
          -- A new row has no number yet, and its reference is known to be free.
          have key_eq : key = .providerRef providerName reference := by
            simpa [Keyed.keys, Invoice.providerKeys, Invoice.numberKeys, Invoice.reported,
              blankInvoice] using there
          rw [providerInvoice_eq_some.mpr
            ⟨member, Invoice.providerRef_mem_keys.mp (key_eq ▸ here)⟩] at found
          cases found
      simp only [Db.insertInvoice, inserted, accepted, Result.ok_bind, pure, Except.pure]
      split <;> exact ⟨_, rfl⟩

/-- A status event without an occupying subscription does nothing; with one it
asks for a transition of it. -/
theorem applyStatus_cases {target : String}
    (applied : applyStatus db organization event target = .ok next) :
    db.currentForOrg organization = none ∧ next = db ∨
      ∃ existing status, db.currentForOrg organization = some existing ∧
        assertTransition existing.status target = .ok status ∧
        db.WritesSubscription existing { existing with
          status := status
          currentPeriodEnd := event.currentPeriodEnd.getD existing.currentPeriodEnd } next := by
  simp only [applyStatus] at applied
  cases current : db.currentForOrg organization with
  | none =>
      rw [current] at applied
      cases applied
      exact .inl ⟨rfl, rfl⟩
  | some existing =>
      rw [current] at applied
      obtain ⟨⟨moved, mid⟩, transition, done⟩ := Result.bind_eq_ok.mp applied
      cases done
      obtain ⟨status, legal, writes, eq⟩ := SubscriptionService.applyProviderTransition_eq_ok
        (Db.currentForOrg_eq_some.mp current).1 transition
      exact .inr ⟨existing, status, rfl, legal, (eq ▸ writes).outbox _ _ _ _ _⟩

theorem applyCheckoutCompleted_cases {api : BillingApi}
    (applied : applyCheckoutCompleted env api db organization event = .ok next) :
    present event.planKey = none ∧ next = db ∨
      ∃ planKey provider plan row subscription invoice, present event.planKey = some planKey ∧
        buildProvider env.settings api = .ok provider ∧ db.planByKey planKey = .ok plan ∧
        db.organizations.find? (·.id = organization) = some row ∧
        BillingService.completeCheckout env provider db row plan event.providerSubscriptionId none
          .webhook = .ok (subscription, invoice, next) := by
  simp only [applyCheckoutCompleted] at applied
  cases asked : present event.planKey with
  | none =>
      rw [asked] at applied
      cases applied
      exact .inl ⟨rfl, rfl⟩
  | some planKey =>
      rw [asked] at applied
      obtain ⟨provider, built, applied⟩ := Result.bind_eq_ok.mp applied
      obtain ⟨plan, found, applied⟩ := Result.bind_eq_ok.mp applied
      cases located : db.organizations.find? (·.id = organization) with
      | none =>
          rw [located] at applied
          cases applied
      | some row =>
          rw [located] at applied
          obtain ⟨⟨subscription, invoice, after⟩, completed, done⟩ := Result.bind_eq_ok.mp applied
          cases done
          exact .inr ⟨planKey, provider, plan, row, subscription, invoice, rfl, built, found, rfl,
            completed⟩

/-- Applying an event leaves the ledger to the request. -/
theorem apply_ledger {api : BillingApi} (applied : apply env api providerName db event = .ok next) :
    next.providerWebhookEvents = db.providerWebhookEvents := by
  simp only [apply] at applied
  split at applied
  · cases applied
    rfl
  · next organization resolved =>
    split at applied
    -- Status events, invoice events and checkouts; every other event is ignored.
    · rcases applyStatus_cases applied with ⟨-, rfl⟩ | ⟨existing, status, -, -, writes⟩
      · rfl
      · rw [writes.rest]
    · next status _ _ =>
      cases referenced : present event.providerInvoiceId with
      | none =>
          rw [upsertInvoice_unreferenced referenced] at applied
          cases applied
          rfl
      | some reference =>
          obtain ⟨customer, ⟨old, -, writes⟩ | ⟨-, inserts⟩⟩ := upsertInvoice_cases referenced applied
          · rw [writes.rest]
          · rw [inserts.rest]
    · rcases applyCheckoutCompleted_cases applied with ⟨-, rfl⟩ |
        ⟨planKey, provider, plan, row, subscription, invoice, -, -, -, -, completed⟩
      · rfl
      · exact BillingService.completeCheckout_ledger completed
    · cases applied
      rfl

end Specifications

end BillingWebhookService

/-- A verified delivery: the provider's id of the event, and its translation. -/
structure VerifiedWebhook where
  providerName : String
  providerEventId : String
  eventType : String
  translated : Except String (List NormalizedBillingEvent)
  deriving DecidableEq

inductive Answer where
  | duplicate
  | unprocessable
  | processed (applied : Nat) (rejected : List String)
  deriving DecidableEq, Repr

/-- The infrastructure under one request: the failure, if any, that surfaces at
its n-th stage. Stage 0 is the ledger insert, stage i + 1 the application of the
i-th event at whichever statement of it, and the last one the ledger update. -/
abbrev Faults := Nat → Option OtherError

def Faults.stage (faults : Faults) (number : Nat) : Result Unit :=
  match faults number with
  | some error => .error (.other error)
  | none => .ok ()

/-- The ledger row a delivery claims. -/
def VerifiedWebhook.claim (webhook : VerifiedWebhook) (id : Nat) : ProviderWebhookEvent where
  id := id
  provider := webhook.providerName
  providerEventId := webhook.providerEventId
  eventType := some webhook.eventType

/-- `INSERT … ON CONFLICT DO NOTHING`; none when the event has a row already. -/
def Db.claimWebhook (db : Db) (webhook : VerifiedWebhook) : Option (ProviderWebhookEvent × Db) :=
  (db.providerWebhookEvents.insert webhook.claim).map fun table =>
    (webhook.claim db.providerWebhookEvents.next, { db with providerWebhookEvents := table })

def Db.settleWebhook (db : Db) (row : ProviderWebhookEvent) (now : Int) (error : Option String) :
    Result Db := do
  let table ← accepted (db.providerWebhookEvents.put
    { row with processedAt := some now, error := error })
  return { db with providerWebhookEvents := table }

namespace BillingWebhookService

variable (env : Env) (api : BillingApi)

/-- The events in order, each in its own savepoint: a business rejection undoes
its event and is recorded, any other failure propagates. -/
def applyAll (faults : Faults) (providerName : String) :
    Nat → Db → List NormalizedBillingEvent → Result (Nat × List String × Db)
  | _, db, [] => .ok (0, [], db)
  | stage, db, event :: rest => do
      faults.stage stage
      match apply env api providerName db event with
      | .ok next =>
          let (applied, rejected, db) ← applyAll faults providerName (stage + 1) next rest
          return (applied + 1, rejected, db)
      | .error (.domain error) =>
          let (applied, rejected, db) ← applyAll faults providerName (stage + 1) db rest
          return (applied, (event.eventType.name ++ ": " ++ error.message) :: rejected, db)
      | .error (.other error) => .error (.other error)

def handle (faults : Faults) (db : Db) (webhook : VerifiedWebhook) : Result (Answer × Db) := do
  faults.stage 0
  match db.claimWebhook webhook with
  | none => return (.duplicate, db)
  | some (row, db) =>
      match webhook.translated with
      | .error text =>
          faults.stage 1
          let db ← db.settleWebhook row env.now (some ("translate: " ++ text))
          return (.unprocessable, db)
      | .ok events =>
          let (applied, rejected, db) ← applyAll env api faults webhook.providerName 1 db events
          faults.stage (events.length + 1)
          let db ← db.settleWebhook row env.now (present (some ("; ".intercalate rejected)))
          return (.processed applied rejected, db)

end BillingWebhookService

/-- One request: what the provider sent, when, and what failed underneath. -/
structure Delivery where
  webhook : VerifiedWebhook
  env : Env
  api : BillingApi
  faults : Faults := fun _ => none

namespace Delivery

def handle (delivery : Delivery) (db : Db) : Result (Answer × Db) :=
  BillingWebhookService.handle delivery.env delivery.api delivery.faults db delivery.webhook

/-- The request is answered 200 iff its handler returned; its transaction is
committed then and rolled back otherwise. -/
def answer (delivery : Delivery) (db : Db) : Option Answer :=
  match delivery.handle db with
  | .ok (answer, _) => some answer
  | .error _ => none

def committed (delivery : Delivery) (db : Db) : Db :=
  Transaction.commit db ((delivery.handle db).map (·.2))

end Delivery

end SynapseSaas
