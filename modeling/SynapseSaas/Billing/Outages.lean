import SynapseSaas.Billing.Ingest

/-! Which outages consume a provider's event.

An outage surfaces under a statement of the request, or in the answer of the
provider's API to the one call an application makes, which creates the customer
of a completed checkout. -/

set_option autoImplicit false

namespace SynapseSaas

/-- An event of a delivery, and the database it is applied to. -/
structure Application where
  db : Db
  event : NormalizedBillingEvent

/-- The applications of a list of events: a refused event leaves the database to
the next one. -/
def applications (env : Env) (api : BillingApi) (providerName : String) :
    Db → List NormalizedBillingEvent → List Application
  | _, [] => []
  | db, event :: rest => ⟨db, event⟩ :: applications env api providerName
      (Transaction.commit db (BillingWebhookService.apply env api providerName db event)) rest

/-- The provider and the request with which an application reaches the creation
of a customer. -/
def customerAsked (env : Env) (api : BillingApi) (application : Application) :
    Option (Provider × CreateCustomerRequest) := do
  let organization ← application.event.organization application.db
  let planKey ← present application.event.planKey
  let provider ← (buildProvider env.settings api).toOption
  let _ ← (application.db.planByKey planKey).toOption
  let row ← application.db.organizations.find? (·.id = organization)
  if application.event.eventType = .checkoutCompleted ∧ application.db.customerOf row.id = none then
    some (provider, BillingService.customerRequest env application.db row none)
  else none

/-- The providers whose client creates customers through their API. -/
def apiCustomerNames : List String := ["stripe", "paddle", "xendit"]

/-- The client turns the answer into a `BillingProviderError`: an error status,
with a JSON body where the client reads the message out of it. -/
def raisesProviderError (providerName : String) : ApiResponse String → Bool
  | .ok _ | .unreachable => false
  | .error _ (.json _ _) => true
  | .error _ (.plain _) => providerName ≠ "stripe"

namespace Delivery

variable (delivery : Delivery)

def applications (db : Db) : List Application :=
  match db.claimWebhook delivery.webhook, delivery.webhook.translated with
  | some (_, claimed), .ok events =>
      SynapseSaas.applications delivery.env delivery.api delivery.webhook.providerName claimed events
  | _, _ => []

def applied (application : Application) : Result Db :=
  BillingWebhookService.apply delivery.env delivery.api delivery.webhook.providerName application.db
    application.event

def stages : Nat :=
  match delivery.webhook.translated with
  | .error _ => 2
  | .ok events => events.length + 2

/-- The database fails under some statement of the request. -/
def DatabaseOutage : Prop := ∃ stage < delivery.stages, delivery.faults stage ≠ none

/-- The provider's API answers the creation of a customer with an outage. -/
def ApiOutage (application : Application) : Prop :=
  ∃ provider request, customerAsked delivery.env delivery.api application = some (provider, request) ∧
    provider.name ∈ apiCustomerNames ∧ (delivery.api.createCustomer request).outage = true

/-- It does, and the client reports it as a business rejection. -/
def RejectedOutage (application : Application) : Prop :=
  ∃ provider request, customerAsked delivery.env delivery.api application = some (provider, request) ∧
    provider.name ∈ apiCustomerNames ∧ (delivery.api.createCustomer request).outage = true ∧
    raisesProviderError provider.name (delivery.api.createCustomer request) = true

/-- A failure that is no business rejection rolls the request back. -/
def RolledBack (db : Db) : Prop :=
  delivery.DatabaseOutage ∨
    ∃ application ∈ delivery.applications db, ∃ error, delivery.applied application =
      .error (.other error)

/-- If an outage keeps an event of a new delivery from being applied, the
delivery leaves no ledger row, so that the provider's retry is processed. -/
def KeptForRetry (db : Db) : Prop :=
  ¬ db.Ledgered delivery.webhook.key →
    (delivery.DatabaseOutage ∨
      ∃ application ∈ delivery.applications db, delivery.ApiOutage application) →
    ¬ (deliver db delivery).Ledgered delivery.webhook.key

end Delivery

/-- An API-backed client fails on an outage, with a business rejection or not. -/
theorem createCustomer_outage {settings : Settings} {api : BillingApi} {provider : Provider}
    {request : CreateCustomerRequest} (built : buildProvider settings api = .ok provider)
    (backed : provider.name ∈ apiCustomerNames) (outage : (api.createCustomer request).outage = true) :
    (raisesProviderError provider.name (api.createCustomer request) = true ∧
        ∃ error, provider.createCustomer request = .error (.domain error)) ∨
      ∃ error, provider.createCustomer request = .error (.other error) := by
  have one := buildProvider_mem built
  simp only [providers, List.mem_cons, List.not_mem_nil, or_false] at one
  rcases one with rfl | rfl | rfl | rfl | rfl
  -- No API stands behind the manual provider, nor behind PayMongo below.
  · simp [manualProvider, apiCustomerNames] at backed
  · simp only [stripeProvider] at *
    cases answer : api.createCustomer request with
    | ok => simp [answer, ApiResponse.outage] at outage
    | error status body =>
        cases body with
        -- Stripe raises for JSON bodies alone; a plain one breaks its client.
        | json text message => exact .inl ⟨rfl, _, rfl⟩
        | plain text => exact .inr ⟨_, rfl⟩
    | unreachable => exact .inr ⟨_, rfl⟩
  all_goals
    first
    | simp [paymongoProvider, apiCustomerNames] at backed; done
    | simp only [paddleProvider, xenditProvider] at *
      cases answer : api.createCustomer request with
      | ok => simp [answer, ApiResponse.outage] at outage
      | error status body =>
          refine .inl ⟨?_, _, rfl⟩
          cases body <;> rfl
      | unreachable => exact .inr ⟨_, rfl⟩

section Ingest

variable {env : Env} {api : BillingApi} {faults : Faults} {providerName : String} {db : Db}
  {delivery : Delivery}

/-- An application that meets an outage of the API fails, with a business
rejection exactly if the client raises one. -/
theorem applied_of_apiOutage {application : Application} (outage : delivery.ApiOutage application) :
    (delivery.RejectedOutage application ∧
        ∃ error, delivery.applied application = .error (.domain error)) ∨
      ∃ error, delivery.applied application = .error (.other error) := by
  obtain ⟨provider, request, asked, backed, answered⟩ := outage
  have reached := asked
  simp only [customerAsked, Option.bind_eq_bind, Option.bind_eq_some_iff] at reached
  obtain ⟨organization, resolved, planKey, keyed, built_provider, built, plan, found, row, located,
    reached⟩ := reached
  split at reached
  · next missing =>
      cases reached
      obtain ⟨completed, absent⟩ := missing
      have built' : buildProvider delivery.env.settings delivery.api = .ok provider := by
        cases result : buildProvider delivery.env.settings delivery.api with
        | error => simp [result, Except.toOption] at built
        | ok other => simpa [result, Except.toOption] using built
      have found' : application.db.planByKey planKey = .ok plan := by
        cases result : application.db.planByKey planKey with
        | error => simp [result, Except.toOption] at found
        | ok other => simpa [result, Except.toOption] using found
      -- Nothing before the customer fails, so its failure is the failure of the event.
      have failure (failure : Failure)
          (failed : provider.createCustomer (BillingService.customerRequest delivery.env
            application.db row none) = .error failure) :
          delivery.applied application = .error failure := by
        simp only [Delivery.applied, BillingWebhookService.apply, resolved,
          NormalizedBillingEvent.targetStatus, NormalizedBillingEvent.invoiceStatus, completed,
          BillingWebhookService.applyCheckoutCompleted, keyed, built', found', located,
          BillingService.completeCheckout, BillingService.ensureCustomer, absent, failed,
          Result.ok_bind, Result.error_bind, reduceCtorEq, false_and, if_false]
      rcases createCustomer_outage built' backed answered with ⟨raises, error, failed⟩ |
        ⟨error, failed⟩
      · exact .inl ⟨⟨provider, _, asked, backed, answered, raises⟩, error, failure _ failed⟩
      · exact .inr ⟨error, failure _ failed⟩
  · cases reached

/-- The events of a delivery go through unless the database or one of them fails
with something other than a business rejection. -/
theorem applyAll_ok_iff {stage : Nat} {events : List NormalizedBillingEvent} :
    (∃ result, BillingWebhookService.applyAll env api faults providerName stage db events =
        .ok result) ↔
      (∀ index < events.length, faults (stage + index) = none) ∧
        ∀ application ∈ applications env api providerName db events, ∀ error,
          BillingWebhookService.apply env api providerName application.db application.event ≠
            .error (.other error) := by
  induction events generalizing stage db with
  | nil => simp [BillingWebhookService.applyAll, applications]
  | cons event rest ih =>
      -- The faults of the stages split at the head, as the events do.
      have stages : (∀ index < (event :: rest).length, faults (stage + index) = none) ↔
          faults stage = none ∧ ∀ index < rest.length, faults (stage + 1 + index) = none := by
        rw [List.length_cons, Nat.forall_lt_succ_left]
        simp only [add_zero, Nat.add_right_comm stage 1, Nat.add_assoc]
      have continues {next : Db} {finish : Nat × List String × Db → Nat × List String × Db} :
          (∃ result, (BillingWebhookService.applyAll env api faults providerName (stage + 1) next
            rest >>= fun done => .ok (finish done)) = .ok result) ↔
          ∃ result, BillingWebhookService.applyAll env api faults providerName (stage + 1) next rest =
            .ok result := by
        constructor
        · rintro ⟨result, done⟩
          obtain ⟨value, ok, -⟩ := Result.bind_eq_ok.mp done
          exact ⟨value, ok⟩
        · rintro ⟨value, ok⟩
          exact ⟨finish value, Result.bind_eq_ok.mpr ⟨value, ok, rfl⟩⟩
      rw [stages]
      simp only [applications, List.forall_mem_cons]
      cases faulty : faults stage with
      | some error =>
          have stopped : faults.stage stage = .error (.other error) := by
            rw [Faults.stage, faulty]
          simp [BillingWebhookService.applyAll, stopped]
      | none =>
          have passed : faults.stage stage = .ok () := Faults.stage_eq_ok.mpr faulty
          simp only [BillingWebhookService.applyAll, passed, Result.ok_bind, true_and]
          cases outcome : BillingWebhookService.apply env api providerName db event with
          | ok next =>
              simp only [Transaction.commit, reduceCtorEq, ne_eq, not_false_eq_true, implies_true,
                true_and]
              exact continues.trans ih
          | error failure =>
              cases failure with
              -- A business rejection is recorded, and the rest goes on as after a success.
              | domain error =>
                  simp only [Transaction.commit, Except.error.injEq, reduceCtorEq, ne_eq,
                    not_false_eq_true, implies_true, true_and]
                  exact continues.trans ih
              | other error => simp

theorem not_databaseOutage_iff :
    ¬ delivery.DatabaseOutage ↔ ∀ stage < delivery.stages, delivery.faults stage = none := by
  simp only [Delivery.DatabaseOutage, not_exists, not_and, not_not, ne_eq]

/-- The first statement, those of the events, and the last. -/
theorem Faults.none_below_iff {faults : Faults} {count : Nat} :
    (∀ stage < count + 2, faults stage = none) ↔
      faults 0 = none ∧ (∀ index < count, faults (1 + index) = none) ∧
        faults (count + 1) = none := by
  rw [Nat.forall_lt_succ_left, Nat.forall_lt_succ_right]
  simp only [Nat.add_comm 1]

/-- A delivery of a new event returns exactly when nothing rolls it back. -/
theorem handle_ok_iff (fresh : ¬ db.Ledgered delivery.webhook.key) :
    (∃ result, delivery.handle db = .ok result) ↔ ¬ delivery.RolledBack db := by
  cases claim : db.claimWebhook delivery.webhook with
  | none => exact absurd (claimWebhook_eq_none.mp claim) fresh
  | some claimed =>
      obtain ⟨row, claimed⟩ := claimed
      obtain ⟨-, rows, -⟩ := claimWebhook_some claim
      have member : row ∈ claimed.providerWebhookEvents.rows := by
        rw [rows]
        simp
      cases translated : delivery.webhook.translated with
      -- Two stages: the claim and the settlement.
      | error text =>
          obtain ⟨next, settled⟩ := settleWebhook_accepts delivery.env.now
            (some ("translate: " ++ text)) member
          have rolled : delivery.RolledBack db ↔ ¬ (delivery.faults 0 = none ∧
              delivery.faults 1 = none) := by
            have nothing : delivery.applications db = [] := by
              simp only [Delivery.applications, claim, translated]
            have two : delivery.stages = 0 + 2 := by
              simp only [Delivery.stages, translated]
            rw [Delivery.RolledBack, nothing, ← not_iff_not, not_not, not_or,
              not_databaseOutage_iff, two, Faults.none_below_iff]
            simp only [Nat.not_lt_zero, false_implies, implies_true, true_and, List.not_mem_nil,
              false_and, exists_false, not_false_eq_true, and_true, Nat.zero_add]
          rw [rolled, not_not]
          simp only [Delivery.handle, BillingWebhookService.handle, claim, translated]
          constructor
          · rintro ⟨result, handled⟩
            obtain ⟨⟨⟩, first, handled⟩ := Result.bind_eq_ok.mp handled
            obtain ⟨⟨⟩, second, -⟩ := Result.bind_eq_ok.mp handled
            exact ⟨Faults.stage_eq_ok.mp first, Faults.stage_eq_ok.mp second⟩
          · rintro ⟨first, second⟩
            simp only [Faults.stage_eq_ok.mpr first, Faults.stage_eq_ok.mpr second, settled,
              Result.ok_bind]
            exact ⟨_, rfl⟩
      -- The claim, one stage an event, and the settlement.
      | ok events =>
          have rolled : delivery.RolledBack db ↔ ¬ (delivery.faults 0 = none ∧
              (∃ result, BillingWebhookService.applyAll delivery.env delivery.api delivery.faults
                delivery.webhook.providerName 1 claimed events = .ok result) ∧
              delivery.faults (events.length + 1) = none) := by
            have stages : delivery.stages = events.length + 2 := by
              simp only [Delivery.stages, translated]
            rw [Delivery.RolledBack, ← not_iff_not, not_not, not_or, not_databaseOutage_iff, stages,
              Faults.none_below_iff, applyAll_ok_iff]
            simp only [Delivery.applications, Delivery.applied, claim, translated]
            push Not
            tauto
          rw [rolled, not_not]
          simp only [Delivery.handle, BillingWebhookService.handle, claim, translated]
          constructor
          · rintro ⟨result, handled⟩
            obtain ⟨⟨⟩, first, handled⟩ := Result.bind_eq_ok.mp handled
            obtain ⟨done, each, handled⟩ := Result.bind_eq_ok.mp handled
            obtain ⟨⟨⟩, last, -⟩ := Result.bind_eq_ok.mp handled
            exact ⟨Faults.stage_eq_ok.mp first, ⟨done, each⟩, Faults.stage_eq_ok.mp last⟩
          · rintro ⟨first, ⟨⟨applied, rejected, final⟩, each⟩, last⟩
            have kept : row ∈ final.providerWebhookEvents.rows :=
              (applyAll_each each).ledger ▸ member
            obtain ⟨next, settled⟩ := settleWebhook_accepts delivery.env.now
              (present (some ("; ".intercalate rejected))) kept
            simp only [Faults.stage_eq_ok.mpr first, each, Faults.stage_eq_ok.mpr last, settled,
              Result.ok_bind]
            exact ⟨_, rfl⟩

theorem ledgered_deliver_iff (fresh : ¬ db.Ledgered delivery.webhook.key) :
    (deliver db delivery).Ledgered delivery.webhook.key ↔ ¬ delivery.RolledBack db := by
  rw [← handle_ok_iff fresh]
  cases delivered delivery db with
  | failed unanswered unchanged =>
      rw [unchanged]
      refine iff_of_false fresh ?_
      rintro ⟨⟨answer, next⟩, handled⟩
      rw [Delivery.answer, handled] at unanswered
      cases unanswered
  | duplicate answered known unchanged => exact absurd known fresh
  | ingested applies unknown whole =>
      refine iff_of_true ((whole.ledgered _).mpr (.inr rfl)) ?_
      cases handled : delivery.handle db with
      | ok result => exact ⟨result, rfl⟩
      | error failure => simp [Delivery.applies, Delivery.answer, handled] at applies

end Ingest

/-- An outage never consumes an event, unless the client of the provider's API
reports it as a business rejection and nothing else rolls the delivery back. -/
theorem outage_kept_for_retry_iff (delivery : Delivery) (db : Db) :
    delivery.KeptForRetry db ↔
      ∀ application ∈ delivery.applications db, delivery.RejectedOutage application →
        delivery.RolledBack db := by
  by_cases fresh : db.Ledgered delivery.webhook.key
  · have none : delivery.applications db = [] := by
      rw [Delivery.applications, claimWebhook_eq_none.mpr fresh]
    refine iff_of_true (fun unknown => absurd fresh unknown) ?_
    rw [none]
    simp
  · simp only [Delivery.KeptForRetry, ledgered_deliver_iff fresh, not_not, fresh, not_false_eq_true,
      true_implies]
    constructor
    · rintro kept application member ⟨provider, request, asked, backed, answered, -⟩
      exact kept (.inr ⟨application, member, provider, request, asked, backed, answered⟩)
    · rintro kept (database | ⟨application, member, outage⟩)
      · exact .inl database
      · rcases applied_of_apiOutage outage with ⟨rejected, -⟩ | failed
        · exact kept application member rejected
        · exact .inr ⟨application, member, failed⟩

/-! A completed checkout, delivered while the provider's API answers 503 and
again once it works. -/

def checkoutDelivery (api : BillingApi) : Delivery :=
  { deliveryOf "evt_1"
      { subscriptionEvent .checkoutCompleted with planKey := some "starter" } with
    env := { now := day, settings := { billingProvider := "xendit", secretKeys := ["xendit"] } }
    api := api }

def failingApi : BillingApi :=
  ⟨"", fun _ => .error 503 (.plain "upstream unavailable"), fun _ _ => .unreachable⟩

def workingApi : BillingApi := ⟨"", fun _ => .ok "cust_1", fun _ _ => .unreachable⟩

theorem provider_outage_consumes_checkout :
    (checkoutDelivery failingApi).answer (sampleDb (sampleSubscription 0)) =
        some (.processed 0 ["checkout.completed: Xendit API error: upstream unavailable"]) ∧
      ¬ (checkoutDelivery failingApi).KeptForRetry (sampleDb (sampleSubscription 0)) ∧
      (checkoutDelivery workingApi).answer
        (deliver (sampleDb (sampleSubscription 0)) (checkoutDelivery failingApi)) =
          some .duplicate := by
  refine ⟨by decide, fun kept => ?_, by decide⟩
  refine kept (by decide) (.inr ⟨⟨_, _⟩, List.mem_singleton_self _, ?_⟩) (by decide)
  exact ⟨xenditProvider failingApi, _, rfl, by decide, by decide⟩

end SynapseSaas
