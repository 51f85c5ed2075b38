import SynapseSaas.Billing.StatusEvents
import SynapseSaas.Billing.Checkouts

/-! Which Stripe subscription events leave the local subscription with the status
they report. -/

set_option autoImplicit false

namespace SynapseSaas

def subscriptionCreated : String := "customer.subscription.created"
def subscriptionUpdated : String := "customer.subscription.updated"

/-- The subscription an event about these references would move. -/
def StripeObject.occupant (object : StripeObject) (db : Db) : Option Subscription :=
  (db.orgForProviderRef object.customer object.id).bind db.currentForOrg

/-- Nothing changed, or the subscription was written with the reported status. -/
def StatusAsReported (reported : Option String) (occupant : Option Subscription) (db next : Db) :
    Prop :=
  next = db ∨ ∃ existing moved, occupant = some existing ∧ db.WritesSubscription existing moved next ∧
    reported = some moved.status.name

theorem fromTimestamp_datable {seconds : Int} (datable : Datable seconds) :
    fromTimestamp seconds = .ok (seconds * second) := if_pos datable

theorem fromTimestamp_undatable {seconds : Int} (undatable : ¬ Datable seconds) :
    fromTimestamp seconds = .error "timestamp out of range" := if_neg undatable

theorem Status.name_of_parse {text : String} {status : Status}
    (parsed : Status.parse text = some status) : status.name = text := by
  unfold Status.parse at parsed
  split at parsed <;> cases parsed <;> rfl

/-- An occupying subscription may always be made active. -/
theorem assertTransition_active {current : Status} (occupying : current.occupying = true) :
    assertTransition current "active" = .ok .active := by
  cases current <;> first | cases occupying; done | rfl

section Translation

variable {now : Int} {verified : Verified .stripe}

theorem periodEnd_readable {body : StripeBody} (readable : body.Readable now) :
    ∃ periodEnd, body.object.currentPeriodEnd.mapM fromTimestamp = .ok periodEnd := by
  cases ends : body.object.currentPeriodEnd with
  | none => exact ⟨none, rfl⟩
  | some seconds =>
      refine ⟨some (seconds * second), ?_⟩
      simp only [Option.mapM_some, fromTimestamp_datable (readable.2 seconds ends)]
      rfl

/-- A created or updated subscription becomes one event about it. -/
theorem translateStripe_subscription (now : Int) {verified : Verified .stripe}
    (kind : verified.eventType = subscriptionCreated ∨ verified.eventType = subscriptionUpdated)
    (readable : verified.parsed.Readable now) :
    ∃ event : NormalizedBillingEvent, verified.translateStripe now = .ok [event] ∧
      event.providerCustomerId = verified.parsed.object.customer ∧
      event.providerSubscriptionId = verified.parsed.object.id ∧
      event.status = verified.parsed.object.status.filter (· ∈ stripeStatuses) ∧
      event.eventType = if verified.eventType = subscriptionCreated then .subscriptionCreated
        else .subscriptionUpdated := by
  obtain ⟨periodEnd, ends⟩ := periodEnd_readable readable
  have occurred : verified.parsed.occurredAt now = _ := fromTimestamp_datable readable.1
  simp only [Verified.translateStripe, occurred, ends]
  rcases kind with kind | kind
  · have canonical : stripeEvents.lookup subscriptionCreated = some .subscriptionCreated := by decide
    have about : occursIn "subscription" subscriptionCreated = true := by decide
    simp only [kind, canonical, about, bind, Except.bind, pure, Except.pure, if_true]
    exact ⟨_, rfl, rfl, rfl, rfl, rfl⟩
  · have canonical : stripeEvents.lookup subscriptionUpdated = some .subscriptionUpdated := by decide
    have about : occursIn "subscription" subscriptionUpdated = true := by decide
    have other : subscriptionUpdated ≠ subscriptionCreated := by decide
    simp only [kind, canonical, about, bind, Except.bind, pure, Except.pure, if_true, if_neg other]
    exact ⟨_, rfl, rfl, rfl, rfl, rfl⟩

/-- A timestamp out of range makes the whole body untranslatable. -/
theorem translateStripe_unreadable
    (kind : verified.eventType = subscriptionCreated ∨ verified.eventType = subscriptionUpdated)
    (unreadable : ¬ verified.parsed.Readable now) (events : List NormalizedBillingEvent) :
    verified.translateStripe now ≠ .ok events := by
  have known : ∃ canonical, stripeEvents.lookup verified.eventType = some canonical := by
    rcases kind with kind | kind
    · exact ⟨.subscriptionCreated, by rw [kind]; decide⟩
    · exact ⟨.subscriptionUpdated, by rw [kind]; decide⟩
  obtain ⟨canonical, known⟩ := known
  intro translated
  simp only [Verified.translateStripe, known] at translated
  by_cases created : Datable (verified.parsed.created.getD (now / second))
  · have occurred : verified.parsed.occurredAt now = _ := fromTimestamp_datable created
    refine unreadable ⟨created, fun seconds ends => ?_⟩
    by_contra undatable
    simp [occurred, ends, fromTimestamp_undatable undatable, bind, Except.bind] at translated
  · have occurred : verified.parsed.occurredAt now = _ := fromTimestamp_undatable created
    simp [occurred, bind, Except.bind] at translated

end Translation

/-- The status a translated event asks for: a created subscription is taken to be
active, and so is an updated one whose status is not taken over. -/
theorem targetStatus_of_kind {event : NormalizedBillingEvent} {created : Prop} [Decidable created]
    {reported : Option String}
    (kind : event.eventType = if created then .subscriptionCreated else .subscriptionUpdated)
    (status : event.status = reported.filter (· ∈ stripeStatuses)) :
    event.targetStatus = some (if created then "active"
      else (reported.filter (· ∈ stripeStatuses)).getD "active") := by
  unfold NormalizedBillingEvent.targetStatus
  by_cases creation : created
  · simp [kind, creation]
  · simp only [kind, if_neg creation, status, Option.some.injEq]
    cases reported with
    | none => rfl
    | some text =>
        by_cases known : text ∈ stripeStatuses
        · have nonempty : text ≠ "" := by
            rintro rfl
            revert known
            decide
          simp [Option.filter, known, present, nonempty]
        · simp [Option.filter, known, present]

section Application

variable {env : Env} {api : BillingApi} {db next : Db} {organization : Nat}
  {event : NormalizedBillingEvent} {existing : Subscription} {target : String}

/-- A status event writes its target status to the occupying subscription, if the
transition is legal; the outbox hears of it. -/
theorem apply_report (resolved : event.organization db = some organization)
    (current : db.currentForOrg organization = some existing)
    (asked : event.targetStatus = some target)
    (applied : BillingWebhookService.apply env api "stripe" db event = .ok next) :
    next ≠ db ∧ ∃ moved, db.WritesSubscription existing moved next ∧ moved.status.name = target := by
  simp only [BillingWebhookService.apply, resolved, asked, BillingWebhookService.applyStatus,
    current] at applied
  obtain ⟨⟨moved, mid⟩, transition, done⟩ := Result.bind_eq_ok.mp applied
  cases done
  obtain ⟨status, legal, writes, eq⟩ := SubscriptionService.applyProviderTransition_eq_ok
    (Db.currentForOrg_eq_some.mp current).1 transition
  refine ⟨fun same => ?_, moved, writes.outbox _ _ _ _ _, ?_⟩
  · obtain ⟨_, -, transition⟩ := Result.bind_eq_ok.mp transition
    obtain ⟨_, put, eq⟩ := Result.bind_eq_ok.mp transition
    obtain ⟨table, -, rfl⟩ := write_eq_ok.mp put
    cases eq
    have longer := congrArg (fun db => db.outboxEvents.length) same
    simp [Db.appendOutbox] at longer
  · rw [eq]
    exact Status.name_of_parse (assertTransition_eq_ok.mp legal).1

/-- A status event for nobody's subscription changes nothing. -/
theorem apply_report_unoccupied
    (unoccupied : (event.organization db).bind db.currentForOrg = none)
    (asked : event.targetStatus = some target)
    (applied : BillingWebhookService.apply env api "stripe" db event = .ok next) : next = db := by
  simp only [BillingWebhookService.apply] at applied
  cases resolved : event.organization db with
  | none =>
      rw [resolved] at applied
      cases applied
      rfl
  | some organization =>
      simp only [resolved, asked] at applied
      rcases BillingWebhookService.applyStatus_cases applied with
        ⟨-, same⟩ | ⟨found, status, occupant, -, -⟩
      · exact same
      · rw [resolved, Option.bind_some, occupant] at unoccupied
        cases unoccupied

/-- An occupying subscription may always be made active. -/
theorem apply_report_active (env : Env) (api : BillingApi) (resolved : event.organization db = some organization)
    (current : db.currentForOrg organization = some existing)
    (asked : event.targetStatus = some "active") :
    ∃ next, BillingWebhookService.apply env api "stripe" db event = .ok next := by
  have legal := assertTransition_active (Db.currentForOrg_eq_some.mp current).2.2
  simp only [BillingWebhookService.apply, resolved, asked]
  exact applyStatus_accepts current legal

/-- A subscription is overwritten with one row only. -/
theorem Db.WritesSubscription.unique {first second : Subscription}
    (left : db.WritesSubscription existing first next)
    (right : db.WritesSubscription existing second next) : first = second := by
  have here : first ∈ next.subscriptions.rows := (left.mem first).mpr (.inl rfl)
  have there : second ∈ next.subscriptions.rows := (right.mem second).mpr (.inl rfl)
  exact next.subscriptions.eq_of_id here there (left.same.trans right.same.symm)

end Application

/-- A created or updated Stripe subscription leaves the local one with the status
reported exactly if that status is active, if the event is an update with one of
the statuses taken over, or if it reaches no subscription at all. -/
theorem stripe_status_as_reported_iff (env : Env) (api : BillingApi) (db : Db)
    (verified : Verified .stripe)
    (kind : verified.eventType = subscriptionCreated ∨ verified.eventType = subscriptionUpdated) :
    (∀ events event next,
        verified.translateWebhook env.now env.settings.billingCurrency = .ok events →
        event ∈ events → BillingWebhookService.apply env api "stripe" db event = .ok next →
        StatusAsReported verified.parsed.object.status (verified.parsed.object.occupant db) db
          next) ↔
      verified.parsed.object.status = some "active" ∨
      (verified.eventType = subscriptionUpdated ∧
        ∃ text ∈ stripeStatuses, verified.parsed.object.status = some text) ∨
      verified.parsed.object.occupant db = none ∨ ¬ verified.parsed.Readable env.now := by
  by_cases readable : verified.parsed.Readable env.now
  swap
  · simp only [readable, not_false_eq_true, or_true, iff_true]
    intro events _ _ translated
    exact absurd translated (translateStripe_unreadable kind readable events)
  obtain ⟨event, translated, customer, reference, status, eventType⟩ :=
    translateStripe_subscription env.now kind readable
  have asked := targetStatus_of_kind eventType status
  have about : event.organization db =
      db.orgForProviderRef verified.parsed.object.customer verified.parsed.object.id := by
    rw [NormalizedBillingEvent.organization, customer, reference]
  have single {events : List NormalizedBillingEvent}
      (ok : verified.translateWebhook env.now env.settings.billingCurrency = .ok events) :
      events = [event] := by
    have same := ok.symm.trans translated
    cases same
    rfl
  cases occupied : verified.parsed.object.occupant db with
  | none =>
      simp only [or_true, true_or, iff_true]
      intro events event' next ok member applied
      rw [single ok, List.mem_singleton] at member
      subst member
      exact .inl (apply_report_unoccupied (about ▸ occupied) asked applied)
  | some existing =>
      obtain ⟨organization, resolved, current⟩ := Option.bind_eq_some_iff.mp occupied
      rw [← about] at resolved
      simp only [reduceCtorEq, readable, not_true_eq_false, or_false]
      constructor
      · intro reported
        by_contra otherwise
        rw [not_or] at otherwise
        -- Everything else is written as active, which no subscription refuses.
        have asksActive : event.targetStatus = some "active" := by
          rw [asked]
          split
          · rfl
          · next updated =>
              cases own : verified.parsed.object.status with
              | none => rfl
              | some text =>
                  have unknown : text ∉ stripeStatuses := fun known =>
                    otherwise.2 ⟨kind.resolve_left updated, text, known, own⟩
                  simp [Option.filter, unknown]
        obtain ⟨next, applied⟩ := apply_report_active env api resolved current
          asksActive
        obtain ⟨changed, moved, writes, active⟩ := apply_report resolved current asksActive applied
        rcases reported _ _ _ translated (List.mem_singleton.mpr rfl) applied with
          same | ⟨found, written, eq, other, own⟩
        · exact changed same
        · cases eq
          rw [other.unique writes, active] at own
          exact otherwise.1 own
      · intro reported events event' next ok member applied
        rw [single ok, List.mem_singleton] at member
        subst member
        obtain ⟨-, moved, writes, written⟩ := apply_report resolved current asked applied
        refine .inr ⟨existing, moved, rfl, writes, ?_⟩
        rw [written]
        have known : "active" ∈ stripeStatuses := by decide
        rcases reported with active | ⟨updated, text, taken, own⟩
        · simp [active, Option.filter, known]
        · have other : subscriptionUpdated ≠ subscriptionCreated := by decide
          simp [own, updated, if_neg other, Option.filter, taken]

/-! An organization on trial whose subscription Stripe reports. -/

def trialDb : Db := sampleDb { sampleSubscription 0 with status := .trialing }

def stripeReport (kind status : String) : Verified .stripe :=
  let body : StripeBody :=
    { id := some "evt_1", type := some kind
      object := { id := some "sub_1", status := some status } }
  ⟨"evt_1", kind, body, day⟩

theorem stripe_status_as_reported_past_due :
    (∀ events event next,
        (stripeReport subscriptionUpdated "past_due").translateWebhook day "PHP" = .ok events →
        event ∈ events →
        BillingWebhookService.apply { now := day } noApi "stripe" trialDb event = .ok next →
        StatusAsReported (some "past_due")
          ((stripeReport subscriptionUpdated "past_due").parsed.object.occupant trialDb) trialDb
          next) ↔
      some "past_due" = some "active" ∨
      (subscriptionUpdated = subscriptionUpdated ∧
        ∃ text ∈ stripeStatuses, some "past_due" = some text) ∨
      (stripeReport subscriptionUpdated "past_due").parsed.object.occupant trialDb = none ∨
      ¬ (stripeReport subscriptionUpdated "past_due").parsed.Readable day :=
  stripe_status_as_reported_iff { now := day } noApi trialDb
    (stripeReport subscriptionUpdated "past_due") (.inr rfl)

/-- The statuses after applying the one event of a report. -/
def statusesAfter (verified : Verified .stripe) (db : Db) : Option (List Status) := do
  let events ← (verified.translateWebhook day "PHP").toOption
  let event ← events.head?
  let next ← (BillingWebhookService.apply { now := day } noApi "stripe" db event).toOption
  return next.subscriptions.rows.map (·.status)

/-- An incomplete subscription activates the trial when it is created, and one of
a status that is not taken over does when it is updated. -/
theorem unpaid_reports_activate :
    statusesAfter (stripeReport subscriptionCreated "incomplete") trialDb = some [.active] ∧
      statusesAfter (stripeReport subscriptionUpdated "incomplete_expired") trialDb =
        some [.active] := by
  decide

end SynapseSaas
