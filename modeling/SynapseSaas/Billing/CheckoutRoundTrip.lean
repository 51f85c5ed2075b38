import SynapseSaas.Billing.Checkouts
import SynapseSaas.Billing.EventFrame
import SynapseSaas.Billing.Ingest
import SynapseSaas.Billing.StripeStatuses

/-! Which paid checkouts activate the plan when their provider reports them. -/

set_option autoImplicit false

namespace SynapseSaas

/-- The organization's subscription is active on the plan, and what happened on
the way announced it. -/
def Activates (db next : Db) (organization plan : Nat) : Prop :=
  ∃ subscription events, next.currentForOrg organization = some subscription ∧
    subscription.status = .active ∧ subscription.planId = plan ∧
    next.outboxEvents = db.outboxEvents ++ events ∧
    ∃ event ∈ events, event.aggregateType = "subscription" ∧ event.aggregateId = subscription.id

/-- No row but the organization's own has the reference a switch would leave it with. -/
def Db.Claimable (db : Db) (provider : String) (reference : Option String) (organization : Nat) :
    Prop :=
  ∀ row ∈ db.subscriptions.rows, ∀ text,
    (reference <|> (db.currentForOrg organization).bind (·.providerSubscriptionId)) = some text →
    row.provider = some provider → row.providerSubscriptionId = some text →
    db.currentForOrg organization = some row

/-- What the checkout relied on is there still: the plan, the organization and its customer. -/
structure CheckoutStanding (db : Db) (organization : Organization) (plan : Plan)
    (customer : BillingCustomer) : Prop where
  offered : ∃ current, db.planByKey plan.key = .ok current ∧ current.id = plan.id
  listed : db.organizations.find? (·.id = organization.id) = some organization
  billed : db.customerOf organization.id = some customer

/-- What the body carries suffices to find the organization and its plan. -/
def ProviderName.Survives (db : Db) (organization : Nat) (plan : Plan) :
    (provider : ProviderName) → provider.Body → Prop
  | .manual, body =>
      db.orgForProviderRef body.data.customerId body.data.subscriptionId = some organization ∧
        ∃ current, db.currentForOrg organization = some current ∧ current.planId = plan.id
  | .stripe, body =>
      db.orgForProviderRef body.object.customer body.object.subscription = some organization ∧
        plan.key ≠ "" ∧ db.Claimable "stripe" body.object.subscription organization
  | .paddle, body =>
      db.orgForProviderRef body.data.customerId body.data.subscriptionId = some organization ∧
        plan.key ≠ "" ∧ db.Claimable "paddle" body.data.subscriptionId organization
  | .xendit, _ => False
  | .paymongo, _ => False

/-! ### Switching the plan -/

theorem Subscription.providerRef_mem_keys {subscription : Subscription}
    {provider reference : String} :
    SubscriptionKey.providerRef provider reference ∈ subscription.keys ↔
      subscription.provider = some provider ∧
        subscription.providerSubscriptionId = some reference := by
  unfold Subscription.keys Subscription.providerKeys
  split
  · split
    · next provided referenced => simp [provided, referenced, eq_comm]
    · next missing =>
        simp only [List.append_nil, List.mem_singleton, reduceCtorEq, false_iff, not_and]
        exact fun provided referenced => missing _ _ provided referenced
  · split
    · next provided referenced => simp [provided, referenced, eq_comm]
    · next missing =>
        simp only [List.append_nil, List.not_mem_nil, false_iff, not_and]
        exact fun provided referenced => missing _ _ provided referenced

section Switch

variable {db next : Db} {now : Int} {organization : Nat} {provider planKey : String}
  {reference : Option String} {keepPeriod : Bool} {plan : Plan} {subscription : Subscription}

/-- A switch is accepted if its reference is the organization's to claim. -/
theorem changePlan_accepts (now : Int) (keepPeriod : Bool) (found : db.planByKey planKey = .ok plan)
    (claimable : db.Claimable provider reference organization) :
    ∃ subscription next, SubscriptionService.changePlan db now organization planKey (some provider)
      reference keepPeriod = .ok (subscription, next) := by
  simp only [SubscriptionService.changePlan, found, Result.ok_bind]
  cases current : db.currentForOrg organization with
  | none =>
      rw [Db.Claimable, current] at claimable
      obtain ⟨table, inserted⟩ := Table.insert_accepted db.subscriptions
        (newSubscription now organization plan .active none none none (some provider) reference) rfl
        fun row member key here there => by
          cases key with
          | occupies other =>
              obtain ⟨occupying, mine⟩ := (Subscription.occupies_mem_keys _ _).mp here
              obtain ⟨-, rfl⟩ := (Subscription.occupies_mem_keys _ _).mp there
              exact Db.currentForOrg_eq_none.mp current row member mine occupying
          | providerRef name text =>
              obtain ⟨named, mine⟩ := Subscription.providerRef_mem_keys.mp here
              obtain ⟨named', asked⟩ := Subscription.providerRef_mem_keys.mp there
              cases named'
              have asked : reference = some text := asked
              cases claimable row member text (by simpa using asked) named mine
      simp only [SubscriptionService.createSubscription, Db.insertSubscription, inserted, accepted,
        Result.ok_bind, pure, Except.pure]
      exact ⟨_, _, rfl⟩
  | some existing =>
      rw [Db.Claimable, current] at claimable
      obtain ⟨member, mine, occupying⟩ := Db.currentForOrg_eq_some.mp current
      obtain ⟨table, put⟩ := Table.put_free db.subscriptions member
        (show Keyed.id (existing.switched now plan (some provider) reference keepPeriod) =
          Keyed.id existing from rfl)
        fun other here apart key asked theirs => by
          refine apart ?_
          cases key with
          | occupies owner =>
              obtain ⟨_, same⟩ := (Subscription.occupies_mem_keys _ _).mp theirs
              obtain ⟨-, rfl⟩ := (Subscription.occupies_mem_keys _ _).mp asked
              rw [Table.occupying_unique db.subscriptions here member same ‹_› occupying]
          | providerRef name text =>
              obtain ⟨named, their⟩ := Subscription.providerRef_mem_keys.mp theirs
              obtain ⟨named', claims⟩ := Subscription.providerRef_mem_keys.mp asked
              cases named'
              cases claimable other here text claims named their
              rfl
      have written : db.putSubscription (existing.switched now plan (some provider) reference
          keepPeriod) = .ok { db with subscriptions := table } :=
        write_eq_ok.mpr ⟨table, put, rfl⟩
      simp only [written, Result.ok_bind, pure, Except.pure]
      exact ⟨_, _, rfl⟩

/-- A switch that went through had its reference to claim. -/
theorem changePlan_claims (changed : SubscriptionService.changePlan db now organization planKey
    (some provider) reference keepPeriod = .ok (subscription, next)) :
    db.Claimable provider reference organization := by
  obtain ⟨plan, -, ⟨vacant, inserts, rfl⟩ | ⟨existing, current, writes, rfl⟩⟩ :=
    SubscriptionService.changePlan_cases changed
  · rw [Db.Claimable, vacant]
    intro row member text asked named mine
    have kept : row ∈ next.subscriptions.rows := by
      rw [inserts.rows]
      simp [member]
    have added := show newSubscription now organization plan .active none none none (some provider)
      reference db.subscriptions.next ∈ next.subscriptions.rows by
        rw [inserts.rows]
        simp
    have same := next.subscriptions.eq_of_key kept added
      (Subscription.providerRef_mem_keys.mpr ⟨named, mine⟩)
      (Subscription.providerRef_mem_keys.mpr ⟨rfl, show reference = some text by simpa using asked⟩)
    -- The new row's id was not given out before.
    have bound := db.subscriptions.id_lt_next member
    rw [same] at bound
    exact absurd bound (Nat.lt_irrefl _)
  · rw [Db.Claimable, current]
    intro row member text asked named mine
    by_contra other
    have distinct : row ≠ existing := fun same => other (same ▸ rfl)
    have same := next.subscriptions.eq_of_key ((writes.mem row).mpr (.inr ⟨member, distinct⟩))
      ((writes.mem _).mpr (.inl rfl)) (Subscription.providerRef_mem_keys.mpr ⟨named, mine⟩)
      (Subscription.providerRef_mem_keys.mpr ⟨rfl, asked⟩)
    have sameId : row.id = existing.id := by
      rw [same]
      rfl
    exact distinct (db.subscriptions.eq_of_id member writes.member sameId)

/-- The switch announces the organization's subscription and touches no other outbox entry. -/
theorem changePlan_announces (changed : SubscriptionService.changePlan db now organization planKey
    (some provider) reference keepPeriod = .ok (subscription, next)) :
    ∃ event, next.outboxEvents = db.outboxEvents ++ [event] ∧
      event.aggregateType = "subscription" ∧ event.aggregateId = subscription.id := by
  obtain ⟨plan, -, changed⟩ := Result.bind_eq_ok.mp changed
  cases current : db.currentForOrg organization with
  | none =>
      rw [current] at changed
      obtain ⟨⟨row, mid⟩, insert, done⟩ := Result.bind_eq_ok.mp changed
      obtain ⟨table, -, eq⟩ := write_eq_ok.mp insert
      cases eq
      cases done
      exact ⟨_, rfl, rfl, rfl⟩
  | some existing =>
      rw [current] at changed
      obtain ⟨mid, put, done⟩ := Result.bind_eq_ok.mp changed
      obtain ⟨table, -, rfl⟩ := write_eq_ok.mp put
      cases done
      exact ⟨_, rfl, rfl, rfl⟩

/-- After the switch the organization's subscription is the one returned. -/
theorem changePlan_current (changed : SubscriptionService.changePlan db now organization planKey
    (some provider) reference keepPeriod = .ok (subscription, next)) :
    ∃ plan, db.planByKey planKey = .ok plan ∧ next.currentForOrg organization = some subscription ∧
      subscription.status = .active ∧ subscription.planId = plan.id := by
  obtain ⟨plan, found, ⟨-, inserts, eq⟩ | ⟨existing, current, writes, eq⟩⟩ :=
    SubscriptionService.changePlan_cases changed
  · refine ⟨plan, found, ?_, eq ▸ rfl, eq ▸ rfl⟩
    have mine := inserts.current (by rw [eq]; rfl)
    rwa [show subscription.organizationId = organization by rw [eq]; rfl] at mine
  · refine ⟨plan, found, ?_, eq ▸ rfl, eq ▸ rfl⟩
    have mine := writes.current (by rw [eq]; rfl)
    rwa [show subscription.organizationId = organization by
      rw [eq]
      exact (Db.currentForOrg_eq_some.mp current).2.1] at mine

end Switch

/-! ### Applying the report -/

/-- Everything new in the outbox about a subscription is about the organization's. -/
def AnnouncesOnly (db next : Db) (organization : Nat) : Prop :=
  ∃ events, next.outboxEvents = db.outboxEvents ++ events ∧
    ∀ event ∈ events, event.aggregateType = "subscription" →
      ∃ row ∈ next.subscriptions.rows, row.id = event.aggregateId ∧
        row.organizationId = organization

section Application

variable {env : Env} {api : BillingApi} {provider : Provider} {providerName : String}
  {db next : Db} {organization other : Nat} {event : NormalizedBillingEvent} {plan : Plan}
  {row : Organization}

theorem not_activates_self {plan : Nat} : ¬ Activates db db organization plan := by
  rintro ⟨_, events, -, -, -, same, _, member, -⟩
  rw [List.self_eq_append_right.mp same] at member
  cases member

theorem recordInvoice_outbox {customer : BillingCustomer} {invoice : Option Invoice}
    (recorded : BillingService.recordInvoice env provider db customer plan = .ok (invoice, next)) :
    ∃ events, next.outboxEvents = db.outboxEvents ++ events ∧ next.subscriptions = db.subscriptions ∧
      ∀ event ∈ events, event.aggregateType = "invoice" := by
  simp only [BillingService.recordInvoice] at recorded
  split at recorded
  · cases recorded
    exact ⟨[], by simp, rfl, by simp⟩
  · obtain ⟨⟨opened, mid⟩, insert, done⟩ := Result.bind_eq_ok.mp recorded
    obtain ⟨table, -, eq⟩ := write_eq_ok.mp insert
    cases eq
    cases done
    exact ⟨[_], rfl, rfl, by simp⟩

theorem recordInvoice_accepts (env : Env) (provider : Provider) (db : Db)
    (customer : BillingCustomer) (plan : Plan) :
    ∃ result, BillingService.recordInvoice env provider db customer plan = .ok result := by
  simp only [BillingService.recordInvoice]
  split
  · exact ⟨_, rfl⟩
  · obtain ⟨table, inserted⟩ := Table.insert_accepted db.invoices
      (fun id => ({ id := id
                    organizationId := customer.organizationId
                    billingCustomerId := some customer.id
                    provider := some provider.name
                    currency := plan.currency
                    subtotalCents := plan.priceCents.getD 0
                    taxCents := 0
                    totalCents := plan.priceCents.getD 0
                    status := .open
                    createdAt := env.now } : Invoice)) rfl
      -- An open invoice has neither a number nor a reference yet.
      fun row member key here there => by
        simp [Keyed.keys, Invoice.providerKeys, Invoice.numberKeys] at there
    simp only [Db.insertInvoice, inserted, accepted, Result.ok_bind, pure, Except.pure]
    exact ⟨_, rfl⟩

/-- A checkout of a standing customer is its switch and then the invoice. -/
theorem completeCheckout_standing {customer : BillingCustomer} {reference : Option String}
    (found : db.customerOf row.id = some customer) :
    BillingService.completeCheckout env provider db row plan reference none .webhook = (do
      let (subscription, db) ← SubscriptionService.changePlan db env.now row.id plan.key
        (some provider.name) reference false
      let (invoice, db) ← BillingService.recordInvoice env provider db customer plan
      return (subscription, invoice, db)) := by
  simp only [BillingService.completeCheckout, BillingService.ensureCustomer, found, reduceCtorEq,
    false_and, if_false]
  rfl

/-- Whose checkout it is: the switched subscription is announced, and nobody else's. -/
theorem completeCheckout_announces {reference : Option String} {subscription : Subscription}
    {invoice : Option Invoice}
    (completed : BillingService.completeCheckout env provider db row plan reference none .webhook =
      .ok (subscription, invoice, next)) : AnnouncesOnly db next row.id := by
  obtain ⟨⟨customer, ensured⟩, found, completed⟩ := Result.bind_eq_ok.mp completed
  obtain ⟨⟨moved, mid⟩, changed, completed⟩ := Result.bind_eq_ok.mp completed
  obtain ⟨⟨recorded, after⟩, record, done⟩ := Result.bind_eq_ok.mp completed
  cases done
  have same : ensured.outboxEvents = db.outboxEvents := by
    rw [(BillingService.ensureCustomer_frame found).1]
  obtain ⟨announcement, grown, -, about⟩ := changePlan_announces changed
  obtain ⟨_, -, current, -⟩ := changePlan_current changed
  obtain ⟨events, appended, kept, invoices⟩ := recordInvoice_outbox record
  obtain ⟨here, mine, -⟩ := Db.currentForOrg_eq_some.mp current
  refine ⟨announcement :: events, ?_, ?_⟩
  · rw [appended, grown, same, List.append_assoc, List.singleton_append]
  · intro event member subscribed
    rcases List.mem_cons.mp member with rfl | member
    · exact ⟨_, by rw [kept]; exact here, about.symm, mine⟩
    · rw [invoices event member] at subscribed
      exact absurd subscribed (by decide)

/-- A paid invoice is announced as well. -/
theorem settled_outbox {mid : Db} {status : InvoiceStatus} {invoice : Nat}
    {payload : List (String × Value)}
    (done : (if status = .paid then
        pure (mid.appendOutbox "invoice.paid" "invoice" invoice (some organization) payload)
      else pure mid : Result Db) = .ok next)
    (same : mid.outboxEvents = db.outboxEvents) :
    ∃ events, next.outboxEvents = db.outboxEvents ++ events ∧
      ∀ event ∈ events, event.aggregateType = "invoice" := by
  split at done
  · cases done
    exact ⟨[_], by rw [← same]; rfl, by simp⟩
  · cases done
    exact ⟨[], by simp [same], by simp⟩

theorem upsertInvoice_outbox {status : InvoiceStatus}
    (stored : BillingWebhookService.upsertInvoice env providerName db organization event status =
      .ok next) :
    ∃ events, next.outboxEvents = db.outboxEvents ++ events ∧
      ∀ event ∈ events, event.aggregateType = "invoice" := by
  simp only [BillingWebhookService.upsertInvoice] at stored
  cases referenced : present event.providerInvoiceId with
  | none =>
      rw [referenced] at stored
      cases stored
      exact ⟨[], by simp, by simp⟩
  | some reference =>
      simp only [referenced] at stored
      cases known : db.providerInvoice providerName reference with
      | some old =>
          simp only [known] at stored
          obtain ⟨mid, put, stored⟩ := Result.bind_eq_ok.mp stored
          obtain ⟨pair, eq, done⟩ := Result.bind_eq_ok.mp stored
          obtain ⟨table, -, rfl⟩ := write_eq_ok.mp put
          cases eq
          exact settled_outbox done rfl
      | none =>
          simp only [known] at stored
          obtain ⟨⟨reported, mid⟩, insert, done⟩ := Result.bind_eq_ok.mp stored
          obtain ⟨table, -, eq⟩ := write_eq_ok.mp insert
          cases eq
          exact settled_outbox done rfl

theorem applyStatus_outbox {target : String} {existing : Subscription}
    (current : db.currentForOrg organization = some existing)
    (applied : BillingWebhookService.applyStatus db organization event target = .ok next) :
    ∃ entry, next.outboxEvents = db.outboxEvents ++ [entry] ∧
      entry.aggregateType = "subscription" ∧ entry.aggregateId = existing.id := by
  simp only [BillingWebhookService.applyStatus, current] at applied
  obtain ⟨⟨moved, mid⟩, transition, done⟩ := Result.bind_eq_ok.mp applied
  cases done
  obtain ⟨status, -, transition⟩ := Result.bind_eq_ok.mp transition
  obtain ⟨_, put, eq⟩ := Result.bind_eq_ok.mp transition
  obtain ⟨table, -, rfl⟩ := write_eq_ok.mp put
  cases eq
  exact ⟨_, rfl, rfl, rfl⟩

theorem applyStatus_announces {target : String}
    (applied : BillingWebhookService.applyStatus db organization event target = .ok next) :
    AnnouncesOnly db next organization := by
  rcases BillingWebhookService.applyStatus_cases applied with
    ⟨-, rfl⟩ | ⟨existing, status, current, -, writes⟩
  · exact ⟨[], by simp, by simp⟩
  · obtain ⟨entry, grown, -, about⟩ := applyStatus_outbox current applied
    refine ⟨[entry], grown, fun event member _ => ?_⟩
    rw [List.mem_singleton.mp member]
    exact ⟨_, (writes.mem _).mpr (.inl rfl), about.symm, (Db.currentForOrg_eq_some.mp current).2.1⟩

/-- Making the occupying subscription active leaves it on its plan. -/
theorem applyStatus_activates {plan : Nat}
    (applied : BillingWebhookService.applyStatus db organization event "active" = .ok next) :
    Activates db next organization plan ↔
      ∃ existing, db.currentForOrg organization = some existing ∧ existing.planId = plan := by
  rcases BillingWebhookService.applyStatus_cases applied with
    ⟨vacant, rfl⟩ | ⟨existing, status, current, legal, writes⟩
  · simp only [vacant, reduceCtorEq, false_and, exists_false, iff_false]
    exact not_activates_self
  · obtain ⟨-, mine, occupying⟩ := Db.currentForOrg_eq_some.mp current
    rw [assertTransition_active occupying] at legal
    cases legal
    have moved := writes.current (show Status.active.occupying = true from rfl)
    obtain ⟨entry, grown, kind, about⟩ := applyStatus_outbox current applied
    rw [show ({ existing with
        status := Status.active
        currentPeriodEnd := event.currentPeriodEnd.getD existing.currentPeriodEnd } :
          Subscription).organizationId = organization from mine] at moved
    simp only [current, Option.some.injEq, exists_eq_left']
    constructor
    · rintro ⟨subscription, events, found, -, planned, -⟩
      rw [moved] at found
      cases found
      exact planned
    · intro planned
      exact ⟨_, [entry], moved, rfl, planned, grown, entry, by simp, kind, about⟩

/-- An event announces the subscription of the organization it resolves to, if any. -/
theorem apply_announces
    (applied : BillingWebhookService.apply env api providerName db event = .ok next) :
    next = db ∨ ∃ organization, event.organization db = some organization ∧
      AnnouncesOnly db next organization := by
  simp only [BillingWebhookService.apply] at applied
  split at applied
  · cases applied
    exact .inl rfl
  · next organization resolved =>
    refine .inr ⟨organization, resolved, ?_⟩
    split at applied
    · exact applyStatus_announces applied
    · obtain ⟨events, appended, invoices⟩ := upsertInvoice_outbox applied
      refine ⟨events, appended, fun event member subscribed => ?_⟩
      rw [invoices event member] at subscribed
      exact absurd subscribed (by decide)
    · rcases BillingWebhookService.applyCheckoutCompleted_cases applied with ⟨-, rfl⟩ |
        ⟨planKey, client, plan, row, subscription, invoice, -, -, -, located, completed⟩
      · exact ⟨[], by simp, by simp⟩
      · have mine := List.find?_some located
        simp only [decide_eq_true_eq] at mine
        exact mine ▸ completeCheckout_announces completed
    · cases applied
      exact ⟨[], by simp, by simp⟩

/-- Only the organization the outbox speaks of can have been activated. -/
theorem Activates.announced {plan : Nat} (activates : Activates db next organization plan)
    (announces : AnnouncesOnly db next other) : other = organization := by
  obtain ⟨subscription, events, current, -, -, grown, event, member, about, named⟩ := activates
  obtain ⟨events', grown', mine⟩ := announces
  rw [grown] at grown'
  obtain rfl := List.append_cancel_left grown'
  obtain ⟨row, here, same, owner⟩ := mine event member about
  obtain ⟨there, owner', -⟩ := Db.currentForOrg_eq_some.mp current
  rw [← owner, ← owner', next.subscriptions.eq_of_id here there (same.trans named)]

/-- An event that activates resolves to the organization. -/
theorem apply_resolves {plan : Nat}
    (applied : BillingWebhookService.apply env api providerName db event = .ok next)
    (activates : Activates db next organization plan) :
    event.organization db = some organization := by
  rcases apply_announces applied with rfl | ⟨other, resolved, announces⟩
  · exact absurd activates not_activates_self
  · rw [← activates.announced announces]
    exact resolved

/-- A completed checkout that can be carried out activates its plan. -/
theorem apply_checkout {customer : BillingCustomer} (kind : event.eventType = .checkoutCompleted)
    (asked : event.planKey = some plan.key) (named : plan.key ≠ "")
    (built : buildProvider env.settings api = .ok provider)
    (standing : CheckoutStanding db row plan customer)
    (resolved : event.organization db = some row.id)
    (claimable : db.Claimable provider.name event.providerSubscriptionId row.id) :
    ∃ next, BillingWebhookService.apply env api providerName db event = .ok next ∧
      Activates db next row.id plan.id := by
  obtain ⟨sold, found, same⟩ := standing.offered
  have key := Db.planByKey_eq_ok found
  obtain ⟨subscription, mid, changed⟩ := changePlan_accepts env.now false
    (show db.planByKey sold.key = .ok sold from key ▸ found) claimable
  obtain ⟨⟨invoice, next⟩, recorded⟩ := recordInvoice_accepts env provider mid customer sold
  have completed : BillingService.completeCheckout env provider db row sold
      event.providerSubscriptionId none .webhook = .ok (subscription, invoice, next) := by
    rw [completeCheckout_standing standing.billed]
    simp only [changed, recorded, Result.ok_bind, pure, Except.pure]
  refine ⟨next, ?_, ?_⟩
  · have target : event.targetStatus = none := by rw [NormalizedBillingEvent.targetStatus, kind]
    have status : event.invoiceStatus = none := by rw [NormalizedBillingEvent.invoiceStatus, kind]
    have planned : present event.planKey = some plan.key := by simp [present, asked, named]
    simp only [BillingWebhookService.apply, resolved, target, status, kind,
      BillingWebhookService.applyCheckoutCompleted, planned, built, found, standing.listed,
      completed, Result.ok_bind, pure, Except.pure]
  · obtain ⟨announcement, grown, kind, about⟩ := changePlan_announces changed
    obtain ⟨events, appended, kept, -⟩ := recordInvoice_outbox recorded
    obtain ⟨_, found', current, active, planned⟩ := changePlan_current changed
    rw [key, found] at found'
    cases found'
    refine ⟨subscription, announcement :: events, ?_, active, planned.trans same, ?_,
      announcement, by simp, kind, about⟩
    · rw [Db.currentForOrg, kept]
      exact current
    · rw [appended, grown, List.append_assoc, List.singleton_append]

/-- A checkout that activates was carried out. -/
theorem apply_checkout_claims (kind : event.eventType = .checkoutCompleted)
    (asked : event.planKey = some plan.key)
    (built : buildProvider env.settings api = .ok provider)
    (applied : BillingWebhookService.apply env api providerName db event = .ok next)
    (activates : Activates db next organization plan.id) :
    plan.key ≠ "" ∧ db.Claimable provider.name event.providerSubscriptionId organization := by
  have resolved := apply_resolves applied activates
  have target : event.targetStatus = none := by rw [NormalizedBillingEvent.targetStatus, kind]
  have status : event.invoiceStatus = none := by rw [NormalizedBillingEvent.invoiceStatus, kind]
  simp only [BillingWebhookService.apply, resolved, target, status, kind] at applied
  rcases BillingWebhookService.applyCheckoutCompleted_cases applied with ⟨-, rfl⟩ |
    ⟨planKey, client, sold, row, subscription, invoice, planned, built', found, located, completed⟩
  · exact absurd activates not_activates_self
  · have mine := List.find?_some located
    simp only [decide_eq_true_eq] at mine
    rw [built] at built'
    cases built'
    constructor
    · rintro empty
      simp [present, asked, empty] at planned
    · obtain ⟨ensured, switched, frame, changed, -⟩ :=
        BillingService.completeCheckout_cases completed
      have claims := changePlan_claims changed
      rw [frame] at claims
      exact mine ▸ claims

end Application

/-! ### One delivery -/

section Delivered

variable {env : Env} {api : BillingApi} {name : String} {id kind : String} {db : Db}
  {organization plan : Nat} {events : List NormalizedBillingEvent} {event : NormalizedBillingEvent}

/-- A delivery without a failure underneath. -/
def reportDelivery (webhook : VerifiedWebhook) (env : Env) (api : BillingApi) : Delivery :=
  ⟨webhook, env, api, fun _ => none⟩

theorem AppliedEach.short {next : Db} (each : AppliedEach env api name db events next)
    (short : events.length ≤ 1) :
    next = db ∨ ∃ event, events = [event] ∧
      BillingWebhookService.apply env api name db event = .ok next := by
  cases each with
  | done => exact .inl rfl
  | applied accepted later =>
      cases later with
      | done => exact .inr ⟨_, rfl, accepted⟩
      | applied | rejected => simp at short
  | rejected refused later =>
      cases later with
      | done => exact .inl rfl
      | applied | rejected => simp at short

/-- The ledger row of a delivery takes no part in what its events do. -/
def Db.ledgering (db : Db) (ledger : Table ProviderWebhookEvent) : Db :=
  { db with providerWebhookEvents := ledger }

theorem claimed_ledgering {webhook : VerifiedWebhook} {row : ProviderWebhookEvent} {claimed : Db}
    (claim : db.claimWebhook webhook = some (row, claimed)) :
    claimed = db.ledgering claimed.providerWebhookEvents :=
  (claimWebhook_some claim).2.2

theorem settled_ledgering {next : Db} {row : ProviderWebhookEvent} {now : Int}
    {error : Option String} (settled : db.settleWebhook row now error = .ok next) :
    ∃ ledger, next = db.ledgering ledger := by
  obtain ⟨table, -, rfl⟩ := write_eq_ok.mp settled
  exact ⟨table, rfl⟩

/-- A delivery that activates applied its one event. -/
theorem deliver_applied {webhook : VerifiedWebhook}
    (single : ∀ events, webhook.translated = .ok events → events.length ≤ 1)
    (activates : Activates db (deliver db (reportDelivery webhook env api)) organization plan) :
    ∃ event ledger next, webhook.translated = .ok [event] ∧
      BillingWebhookService.apply env api webhook.providerName (db.ledgering ledger) event =
        .ok next ∧ Activates (db.ledgering ledger) next organization plan := by
  cases delivered (reportDelivery webhook env api) db with
  | failed _ unchanged =>
      rw [unchanged] at activates
      exact absurd activates not_activates_self
  | duplicate _ _ unchanged =>
      rw [unchanged] at activates
      exact absurd activates not_activates_self
  | ingested _ _ whole =>
      obtain ⟨row, claimed, applied, error, claim, each, settle⟩ := whole
      obtain ⟨ledger, final⟩ := settled_ledgering settle
      rw [final] at activates
      simp only [reportDelivery] at each claim
      have idle : applied ≠ claimed := by
        rintro rfl
        rw [claimed_ledgering claim] at activates
        exact not_activates_self activates
      cases translated : webhook.translated with
      | error text =>
          rw [translated] at each
          exact absurd each idle
      | ok events =>
          rw [translated] at each
          rcases each.short (single events translated) with same | ⟨event, rfl, accepted⟩
          · exact absurd same idle
          · rw [claimed_ledgering claim] at accepted
            exact ⟨event, _, applied, rfl, accepted, activates⟩

/-- A delivery the ledger does not know, of one event that is accepted, commits it. -/
theorem deliver_applies {webhook : VerifiedWebhook} (translated : webhook.translated = .ok [event])
    (fresh : ¬ db.Ledgered webhook.key)
    (accepts : ∀ ledger, ∃ next,
      BillingWebhookService.apply env api webhook.providerName (db.ledgering ledger) event =
        .ok next ∧ Activates (db.ledgering ledger) next organization plan) :
    Activates db (deliver db (reportDelivery webhook env api)) organization plan := by
  cases claim : db.claimWebhook webhook with
  | none => exact absurd (claimWebhook_eq_none.mp claim) fresh
  | some pair =>
      obtain ⟨row, claimed⟩ := pair
      obtain ⟨next, applied, activates⟩ := accepts claimed.providerWebhookEvents
      rw [← claimed_ledgering claim] at applied activates
      have here : row ∈ next.providerWebhookEvents.rows := by
        rw [BillingWebhookService.apply_ledger applied, (claimWebhook_some claim).2.1]
        simp
      obtain ⟨final, settled⟩ := settleWebhook_accepts env.now
        (present (some ("; ".intercalate []))) here
      have handled : (reportDelivery webhook env api).handle db = .ok (.processed 1 [], final) := by
        simp only [Delivery.handle, reportDelivery, BillingWebhookService.handle, Faults.stage,
          claim, translated, BillingWebhookService.applyAll, applied, settled, pure, Except.pure,
          bind, Except.bind]
      obtain ⟨ledger, same⟩ := settled_ledgering settled
      rw [deliver, Delivery.committed, handled]
      show Activates db final organization plan
      rw [same]
      rw [claimed_ledgering claim] at activates
      exact activates

end Delivered

/-! ### Every provider -/

/-- A checkout that was started, and what came of it. -/
structure Checkout where
  env : Env
  provider : ProviderName
  api : BillingApi
  sell : CheckoutPost → ApiResponse CheckoutAnswer
  before : Db
  organization : Organization
  plan : Plan
  successUrl : Option String
  cancelUrl : Option String
  contactUser : Option User
  customer : BillingCustomer
  result : CheckoutResult
  after : Db
  started : BillingService.startCheckout env provider api sell before organization plan successUrl
    cancelUrl contactUser = .ok (customer, result, after)

def Checkout.request (checkout : Checkout) : CreateCheckoutRequest :=
  BillingService.checkoutRequest checkout.customer checkout.organization checkout.plan
    checkout.successUrl checkout.cancelUrl

theorem except_bind_eq_ok {ε α β : Type} {first : Except ε α} {next : α → Except ε β} {result : β} :
    first >>= next = .ok result ↔ ∃ value, first = .ok value ∧ next value = .ok result := by
  cases first with
  | error failure => simp [bind, Except.bind]
  | ok value => simp [bind, Except.bind]

/-- A body is translated to one event at most. -/
theorem webhook_single {provider : ProviderName} (verified : Verified provider) (now : Int)
    (currency : String) (events : List NormalizedBillingEvent)
    (translated : (verified.webhook now currency).translated = .ok events) :
    events.length ≤ 1 := by
  change verified.translateWebhook now currency = .ok events at translated
  cases provider with
  | manual =>
      cases translated
      unfold Verified.translateManual
      split <;> simp
  | stripe =>
      obtain ⟨occurredAt, -, translated⟩ := except_bind_eq_ok.mp translated
      split at translated
      · cases translated
        simp
      · obtain ⟨periodEnd, -, done⟩ := except_bind_eq_ok.mp translated
        cases done
        simp
  | paddle =>
      cases translated
      unfold Verified.translatePaddle
      split <;> simp
  | xendit =>
      simp only [Verified.translateWebhook, Verified.translateXendit] at translated
      split at translated
      · cases translated
        simp
      · obtain ⟨occurredAt, -, done⟩ := except_bind_eq_ok.mp translated
        cases done
        simp
  | paymongo =>
      cases translated
      unfold Verified.translatePaymongo
      split <;> simp

section Translations

/-- A completed Stripe session is one checkout, for the customer and the plan it carries. -/
theorem translateStripe_checkout (now : Int) {verified : Verified .stripe}
    (kind : verified.eventType = "checkout.session.completed")
    (readable : verified.parsed.Readable now) :
    ∃ event : NormalizedBillingEvent, verified.translateStripe now = .ok [event] ∧
      event.providerCustomerId = verified.parsed.object.customer ∧
      event.providerSubscriptionId = verified.parsed.object.subscription ∧
      event.planKey = verified.parsed.object.metadata.planKey ∧
      event.eventType = .checkoutCompleted := by
  obtain ⟨periodEnd, ends⟩ := periodEnd_readable readable
  have occurred : verified.parsed.occurredAt now = _ := fromTimestamp_datable readable.1
  have canonical : stripeEvents.lookup "checkout.session.completed" = some .checkoutCompleted := by
    decide
  have other : occursIn "subscription" "checkout.session.completed" = false := by decide
  simp only [Verified.translateStripe, occurred, ends, kind, canonical, other, bind, Except.bind,
    pure, Except.pure, Bool.false_eq_true, if_false]
  exact ⟨_, rfl, rfl, rfl, rfl, rfl⟩

theorem translatePaddle_checkout {verified : Verified .paddle}
    (kind : verified.eventType = "transaction.completed") :
    ∃ event : NormalizedBillingEvent, verified.translatePaddle = [event] ∧
      event.providerCustomerId = verified.parsed.data.customerId ∧
      event.providerSubscriptionId = verified.parsed.data.subscriptionId ∧
      event.planKey = verified.parsed.data.customData.planKey ∧
      event.eventType = .checkoutCompleted := by
  have canonical : paddleEvents.lookup "transaction.completed" = some .checkoutCompleted := by decide
  have other : occursIn "subscription" "transaction.completed" = false := by decide
  simp only [Verified.translatePaddle, kind, canonical, other, Bool.false_eq_true, if_false]
  exact ⟨_, rfl, rfl, rfl, rfl, rfl⟩

/-- A paid Xendit invoice is an invoice event and no checkout. -/
theorem translateXendit_paid {now : Int} {currency : String} {verified : Verified .xendit}
    {event : NormalizedBillingEvent} (kind : verified.eventType = "PAID")
    (translated : verified.translateXendit now currency = .ok [event]) :
    event.eventType = .invoicePaid := by
  have canonical : xenditEvents.lookup "PAID" = some .invoicePaid := by decide
  simp only [Verified.translateXendit, kind, canonical] at translated
  obtain ⟨occurredAt, -, done⟩ := except_bind_eq_ok.mp translated
  cases done
  rfl

/-- PayMongo's events name neither a customer nor a subscription. -/
theorem translatePaymongo_nobody {currency : String} {verified : Verified .paymongo}
    {event : NormalizedBillingEvent}
    (translated : (.ok (verified.translatePaymongo currency) :
      Except String (List NormalizedBillingEvent)) = .ok [event]) :
    event.providerCustomerId = none ∧ event.providerSubscriptionId = none := by
  have translated := Except.ok.inj translated
  unfold Verified.translatePaymongo at translated
  split at translated
  · cases translated
  · cases translated
    exact ⟨rfl, rfl⟩

theorem manual_activates_iff {env : Env} {api : BillingApi} {db : Db} {organization : Nat}
    {plan : Plan} {verified : Verified .manual} {now : Int} {currency : String}
    (kind : verified.parsed.type = some "manual.subscription.activated")
    (fresh : ¬ db.Ledgered (verified.webhook now currency).key) :
    Activates db (deliver db (reportDelivery (verified.webhook now currency) env api)) organization
        plan.id ↔
      ProviderName.manual.Survives db organization plan verified.parsed := by
  have canonical : manualEvents.lookup "manual.subscription.activated" =
      some .subscriptionActivated := by
    decide
  obtain ⟨event, translated, about, reference, activated⟩ : ∃ event : NormalizedBillingEvent,
      (verified.webhook now currency).translated = .ok [event] ∧
        event.providerCustomerId = verified.parsed.data.customerId ∧
        event.providerSubscriptionId = verified.parsed.data.subscriptionId ∧
        event.eventType = .subscriptionActivated := by
    simp only [Verified.webhook, Verified.translateWebhook, Verified.translateManual, kind,
      Option.getD_some, canonical]
    exact ⟨_, rfl, rfl, rfl, rfl⟩
  have asked : event.targetStatus = some "active" := by
    rw [NormalizedBillingEvent.targetStatus, activated]
  have resolves (ledger : Table ProviderWebhookEvent) : event.organization (db.ledgering ledger) =
      db.orgForProviderRef verified.parsed.data.customerId verified.parsed.data.subscriptionId := by
    rw [NormalizedBillingEvent.organization, about, reference]
    rfl
  constructor
  · intro activates
    obtain ⟨event', ledger, next, same, applied, activates⟩ :=
      deliver_applied (webhook_single verified _ _) activates
    rw [translated] at same
    cases same
    have resolved := apply_resolves applied activates
    rw [apply_status asked resolved] at applied
    exact ⟨(resolves ledger).symm.trans resolved, (applyStatus_activates applied).mp activates⟩
  · rintro ⟨resolved, existing, current, planned⟩
    refine deliver_applies translated fresh fun ledger => ?_
    have occupies : (db.ledgering ledger).currentForOrg organization = some existing := current
    obtain ⟨next, applied⟩ : ∃ next, BillingWebhookService.applyStatus (db.ledgering ledger)
        organization event "active" = .ok next :=
      applyStatus_accepts occupies
        (assertTransition_active (Db.currentForOrg_eq_some.mp current).2.2)
    refine ⟨next, ?_, (applyStatus_activates applied).mpr ⟨existing, occupies, planned⟩⟩
    rw [apply_status asked ((resolves ledger).trans resolved)]
    exact applied

end Translations

/-- A body whose only event is a checkout activates exactly if it can be carried out. -/
theorem deliver_checkout_iff {env : Env} {api : BillingApi} {db : Db} {row : Organization}
    {plan : Plan} {customer : BillingCustomer} {client : Provider} {webhook : VerifiedWebhook}
    {event : NormalizedBillingEvent} (translated : webhook.translated = .ok [event])
    (fresh : ¬ db.Ledgered webhook.key) (kind : event.eventType = .checkoutCompleted)
    (asked : event.planKey = some plan.key)
    (built : buildProvider env.settings api = .ok client)
    (standing : CheckoutStanding db row plan customer) :
    Activates db (deliver db (reportDelivery webhook env api)) row.id plan.id ↔
      event.organization db = some row.id ∧ plan.key ≠ "" ∧
        db.Claimable client.name event.providerSubscriptionId row.id := by
  constructor
  · intro activates
    have single (events : List NormalizedBillingEvent) (same : webhook.translated = .ok events) :
        events.length ≤ 1 := by
      rw [translated] at same
      cases same
      simp
    obtain ⟨event', ledger, next, same, applied, activates⟩ := deliver_applied single activates
    rw [translated] at same
    cases same
    have resolved := apply_resolves applied activates
    have claims := apply_checkout_claims kind asked built applied activates
    exact ⟨resolved, claims⟩
  · rintro ⟨resolved, named, claimable⟩
    refine deliver_applies translated fresh fun ledger => ?_
    have stands : CheckoutStanding (db.ledgering ledger) row plan customer :=
      ⟨standing.offered, standing.listed, standing.billed⟩
    exact apply_checkout kind asked named built stands resolved claimable

/-- An invoice report activates nothing. -/
theorem apply_invoice_idle {env : Env} {api : BillingApi} {name : String} {db next : Db}
    {organization plan : Nat} {event : NormalizedBillingEvent} {status : InvoiceStatus}
    (target : event.targetStatus = none) (reports : event.invoiceStatus = some status)
    (applied : BillingWebhookService.apply env api name db event = .ok next) :
    ¬ Activates db next organization plan := by
  rintro ⟨subscription, events, -, -, -, grown, entry, member, about, -⟩
  simp only [BillingWebhookService.apply, target, reports] at applied
  split at applied
  · cases applied
    rw [List.self_eq_append_right.mp grown] at member
    cases member
  · obtain ⟨events', grown', invoices⟩ := upsertInvoice_outbox applied
    rw [grown] at grown'
    obtain rfl := List.append_cancel_left grown'
    rw [invoices entry member] at about
    exact absurd about (by decide)

/-- The webhook that reports a started checkout as paid activates its plan for the
organization exactly if what it carries identifies both: never on Xendit and
PayMongo, whose bodies name no organization or are not taken for checkouts. -/
theorem checkout_activates_iff (checkout : Checkout) (env : Env) (api : BillingApi) (db : Db)
    (verified : Verified checkout.provider)
    (built : buildProvider env.settings api = .ok (checkout.provider.client api))
    (standing : CheckoutStanding db checkout.organization checkout.plan checkout.customer)
    (reports : checkout.provider.Reports env.now checkout.request checkout.result verified)
    (fresh : ¬ db.Ledgered (verified.webhook env.now env.settings.billingCurrency).key) :
    Activates db (deliver db (reportDelivery
        (verified.webhook env.now env.settings.billingCurrency) env api))
        checkout.organization.id checkout.plan.id ↔
      checkout.provider.Survives db checkout.organization.id checkout.plan verified.parsed := by
  obtain ⟨_, provider, _, _, _, organization, plan, successUrl, cancelUrl, _, customer, result, _, _⟩ :=
    checkout
  cases provider with
  | stripe =>
      obtain ⟨kind, readable, -, carried, -⟩ := reports
      obtain ⟨event, translated, about, reference, planned, completed⟩ :=
        translateStripe_checkout env.now kind readable
      rw [deliver_checkout_iff translated fresh completed (by rw [planned, carried]; rfl) built
        standing, NormalizedBillingEvent.organization, about, reference]
      rfl
  | paddle =>
      obtain ⟨kind, -, carried⟩ := reports
      obtain ⟨event, translated, about, reference, planned, completed⟩ :=
        translatePaddle_checkout kind
      rw [deliver_checkout_iff (congrArg Except.ok translated) fresh completed
        (by rw [planned, carried]; rfl) built standing, NormalizedBillingEvent.organization, about,
        reference]
      rfl
  | manual =>
      obtain ⟨kind, -⟩ := reports
      exact manual_activates_iff kind fresh
  | xendit =>
      obtain ⟨kind, -⟩ := reports
      simp only [ProviderName.Survives, iff_false]
      intro activates
      obtain ⟨event, ledger, next, translated, applied, activates⟩ :=
        deliver_applied (webhook_single verified _ _) activates
      have paid : event.eventType = .invoicePaid := translateXendit_paid kind translated
      have target : event.targetStatus = none := by rw [NormalizedBillingEvent.targetStatus, paid]
      have status : event.invoiceStatus = some .paid := by
        rw [NormalizedBillingEvent.invoiceStatus, paid]
      exact apply_invoice_idle target status applied activates
  | paymongo =>
      simp only [ProviderName.Survives, iff_false]
      intro activates
      obtain ⟨event, ledger, next, translated, applied, activates⟩ :=
        deliver_applied (webhook_single verified _ _) activates
      have nobody := translatePaymongo_nobody translated
      have resolved := apply_resolves applied activates
      rw [NormalizedBillingEvent.organization, nobody.1, nobody.2] at resolved
      cases resolved

/-! An organization that buys its first plan, on Stripe and on PayMongo. -/

def billedCustomer (provider reference : String) : BillingCustomer where
  id := 0
  organizationId := 1
  provider := provider
  providerCustomerId := some reference
  email := "owner@example.com"
  name := none
  currency := some "PHP"

def billedDb (provider reference : String) : Db :=
  { sampleDb (sampleSubscription 0) with
    subscriptions := Table.empty
    billingCustomers := ⟨[billedCustomer provider reference], 1, by
      simp [Table.Consistent, Keyed.id, billedCustomer]⟩ }

def billedOrganization : Organization := ⟨1, "acme", "Acme", none⟩

/-- A checkout of the sample plan, sold under the id `co_1`. -/
def stripeCheckout : Checkout where
  env := { now := 0 }
  provider := .stripe
  api := noApi
  sell := fun _ => .ok ⟨some "co_1", some "/pay/co_1"⟩
  before := billedDb "stripe" "cus_1"
  organization := billedOrganization
  plan := samplePlan
  successUrl := none
  cancelUrl := none
  contactUser := none
  customer := billedCustomer "stripe" "cus_1"
  result := ⟨some "/pay/co_1", "stripe", some "co_1", none⟩
  after := billedDb "stripe" "cus_1"
  started := rfl

def paymongoCheckout : Checkout where
  env := { now := 0 }
  provider := .paymongo
  api := noApi
  sell := fun _ => .ok ⟨some "co_1", some "/pay/co_1"⟩
  before := billedDb "paymongo" "paymongo_1"
  organization := billedOrganization
  plan := samplePlan
  successUrl := none
  cancelUrl := none
  contactUser := none
  customer := billedCustomer "paymongo" "paymongo_1"
  result := ⟨some "/pay/co_1", "paymongo", some "co_1", none⟩
  after := billedDb "paymongo" "paymongo_1"
  started := rfl

def checkoutEnv (provider : String) : Env :=
  { now := day, settings := { billingProvider := provider, secretKeys := [provider] } }

def paidStripeSession : Verified .stripe :=
  let body : StripeBody :=
    { id := some "evt_1", type := some "checkout.session.completed"
      object := { id := some "co_1", customer := some "cus_1", subscription := some "sub_1"
                  metadata := stripeCheckout.request.metadata } }
  ⟨"evt_1", "checkout.session.completed", body, day⟩

def paidPaymongoSession : Verified .paymongo :=
  let body : PaymongoBody :=
    { id := some "evt_1", type := some "checkout_session.completed"
      attributes := { metadata := paymongoCheckout.request.metadata } }
  ⟨"evt_1", "checkout_session.completed", body, day⟩

theorem checkout_activates_iff_stripe :
    Activates (billedDb "stripe" "cus_1") (deliver (billedDb "stripe" "cus_1") (reportDelivery
        (paidStripeSession.webhook day "PHP") (checkoutEnv "stripe") noApi)) 1 1 ↔
      ProviderName.stripe.Survives (billedDb "stripe" "cus_1") 1 samplePlan
        paidStripeSession.parsed :=
  checkout_activates_iff stripeCheckout (checkoutEnv "stripe") noApi (billedDb "stripe" "cus_1")
    paidStripeSession rfl ⟨⟨samplePlan, rfl, rfl⟩, rfl, rfl⟩
    ⟨rfl, ⟨by decide, by simp [paidStripeSession]⟩, rfl, rfl, fun customer sent => by
      cases sent
      rfl⟩
    (by decide +kernel)

/-- PayMongo reports the payment, it is counted as applied, and nothing happens. -/
theorem paymongo_payment_ignored :
    ProviderName.paymongo.Reports day paymongoCheckout.request paymongoCheckout.result
        paidPaymongoSession ∧
      (reportDelivery (paidPaymongoSession.webhook day "PHP") (checkoutEnv "paymongo") noApi).answer
        (billedDb "paymongo" "paymongo_1") = some (.processed 1 []) ∧
      (deliver (billedDb "paymongo" "paymongo_1") (reportDelivery
        (paidPaymongoSession.webhook day "PHP") (checkoutEnv "paymongo")
        noApi)).subscriptions.rows = [] ∧
      (deliver (billedDb "paymongo" "paymongo_1") (reportDelivery
        (paidPaymongoSession.webhook day "PHP") (checkoutEnv "paymongo") noApi)).outboxEvents = [] ∧
      ∀ plan, ¬ Activates (billedDb "paymongo" "paymongo_1")
        (deliver (billedDb "paymongo" "paymongo_1") (reportDelivery
          (paidPaymongoSession.webhook day "PHP") (checkoutEnv "paymongo") noApi)) 1 plan := by
  have silent : (deliver (billedDb "paymongo" "paymongo_1") (reportDelivery
      (paidPaymongoSession.webhook day "PHP") (checkoutEnv "paymongo") noApi)).outboxEvents = [] := by
    decide +kernel
  refine ⟨rfl, by decide +kernel, by decide +kernel, silent, ?_⟩
  rintro plan ⟨_, events, -, -, -, grown, _, member, -⟩
  rw [silent] at grown
  rw [(List.append_eq_nil_iff.mp grown.symm).2] at member
  cases member

end SynapseSaas
