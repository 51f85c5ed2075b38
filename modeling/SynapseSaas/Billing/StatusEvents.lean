import SynapseSaas.Billing.Arrivals

/-! What a provider's status events do to one subscription. Only the status and
the end of the period move: they are the standing of the subscription. -/

set_option autoImplicit false

namespace SynapseSaas

structure Standing where
  status : Status
  periodEnd : Int
  deriving DecidableEq, Repr

/-- A status asked for, and the end of the period if the event tells one. -/
structure Move where
  target : Status
  periodEnd : Option Int
  deriving DecidableEq, Repr

/-- A move is made from an occupying status along the table. -/
def Standing.accepts (standing : Standing) (move : Move) : Bool :=
  standing.status.occupying && canTransition standing.status move.target

def Standing.move (standing : Standing) (move : Move) : Standing :=
  if standing.accepts move then ⟨move.target, move.periodEnd.getD standing.periodEnd⟩ else standing

def Subscription.standing (subscription : Subscription) : Standing :=
  ⟨subscription.status, subscription.currentPeriodEnd⟩

def Subscription.stand (subscription : Subscription) (standing : Standing) : Subscription :=
  { subscription with status := standing.status, currentPeriodEnd := standing.periodEnd }

/-- The move an event asks for: none outside the vocabulary of statuses. -/
def NormalizedBillingEvent.move (event : NormalizedBillingEvent) : Option Move :=
  (event.targetStatus.bind Status.parse).map fun target => ⟨target, event.currentPeriodEnd⟩

def Standing.hear (standing : Standing) (event : NormalizedBillingEvent) : Standing :=
  match event.move with
  | some move => standing.move move
  | none => standing

/-- The arrival is a status event for an organization. -/
def Arrival.AsksOf (arrival : Arrival) (db : Db) (organization : Nat) : Prop :=
  arrival.event.targetStatus.isSome ∧ arrival.event.organization db = some organization

@[simp] theorem stand_standing (subscription : Subscription) :
    subscription.stand subscription.standing = subscription := rfl

section Hearing

variable {standing : Standing} {event : NormalizedBillingEvent} {target : String} {status : Status}

theorem hear_of_vacant (vacant : standing.status.occupying = false) :
    standing.hear event = standing := by
  unfold Standing.hear
  split
  · simp [Standing.move, Standing.accepts, vacant]
  · rfl

theorem hear_of_legal (occupying : standing.status.occupying = true)
    (asked : event.targetStatus = some target)
    (legal : assertTransition standing.status target = .ok status) :
    standing.hear event = ⟨status, event.currentPeriodEnd.getD standing.periodEnd⟩ := by
  obtain ⟨parsed, transition⟩ := assertTransition_eq_ok.mp legal
  simp [Standing.hear, NormalizedBillingEvent.move, asked, parsed, Standing.move, Standing.accepts,
    occupying, transition]

theorem hear_of_refused (asked : event.targetStatus = some target)
    (refused : ∀ status, assertTransition standing.status target ≠ .ok status) :
    standing.hear event = standing := by
  unfold Standing.hear
  split
  · next move asks =>
      simp only [NormalizedBillingEvent.move, asked, Option.bind_some, Option.map_eq_some_iff] at asks
      obtain ⟨status, parsed, rfl⟩ := asks
      have illegal : canTransition standing.status status = false := by
        by_contra legal
        exact refused status (assertTransition_eq_ok.mpr ⟨parsed, by simpa using legal⟩)
      simp [Standing.move, Standing.accepts, illegal]
  · rfl

end Hearing

section Rows

variable {db next : Db} {old new : Subscription}

/-- A write that keeps organization and reference moves no event elsewhere. -/
theorem Db.WritesSubscription.organization (writes : db.WritesSubscription old new next)
    (owner : new.organizationId = old.organizationId)
    (reference : new.providerSubscriptionId = old.providerSubscriptionId)
    (event : NormalizedBillingEvent) : event.organization next = event.organization db := by
  obtain ⟨before, after, rows, written⟩ :=
    Table.put_split writes.member writes.same writes.written
  have customers : next.billingCustomers = db.billingCustomers := by rw [writes.rest]
  -- The row is replaced in its place, so the lookup meets it at the same position.
  have same (text : String) : (next.subscriptions.rows.find?
      (·.providerSubscriptionId = some text)).map (·.organizationId) =
        (db.subscriptions.rows.find? (·.providerSubscriptionId = some text)).map
          (·.organizationId) := by
    rw [rows, written, List.find?_append, List.find?_append, List.find?_cons, List.find?_cons,
      reference]
    cases found : before.find? (·.providerSubscriptionId = some text) with
    | some row => rfl
    | none =>
        simp only [Option.none_or]
        split
        · simp [owner]
        · rfl
  simp only [NormalizedBillingEvent.organization, Db.orgForProviderRef, customers]
  congr 1
  funext _
  cases event.providerSubscriptionId with
  | none => rfl
  | some text => exact same text

/-- A legal move of the occupying subscription is never refused. -/
theorem applyStatus_accepts {organization : Nat} {existing : Subscription} {target : String}
    {status : Status} {event : NormalizedBillingEvent}
    (current : db.currentForOrg organization = some existing)
    (legal : assertTransition existing.status target = .ok status) :
    ∃ next, BillingWebhookService.applyStatus db organization event target = .ok next := by
  obtain ⟨member, -, occupying⟩ := Db.currentForOrg_eq_some.mp current
  obtain ⟨mid, put⟩ := Db.putSubscription_accepts member
    (show (existing.stand ⟨status, event.currentPeriodEnd.getD existing.currentPeriodEnd⟩).id =
      existing.id from rfl) fun key mine => by
        rcases List.mem_append.mp mine with mine | mine
        · refine List.mem_append_left _ ?_
          rw [if_pos occupying]
          split at mine
          · exact mine
          · cases mine
        · exact List.mem_append_right _ mine
  simp only [Subscription.stand] at put
  simp only [BillingWebhookService.applyStatus, current,
    SubscriptionService.applyProviderTransition, legal, Result.ok_bind, put, pure, Except.pure]
  exact ⟨_, rfl⟩

end Rows

section Events

variable {providerName : String} {db : Db} {arrival : Arrival} {arrivals : List Arrival}
  {subscription : Subscription}

theorem Db.SameData.get {first second : Db} (same : first.SameData second) (id : Nat) :
    second.subscriptions.get id = first.subscriptions.get id := by
  unfold Db.SameData at same
  rw [same]

/-- A status event moves the standing of the subscription, if it moves at all. -/
theorem receive_status (unknown : ¬ db.Ledgered (providerName, arrival.providerEventId))
    (found : db.subscriptions.get subscription.id = some subscription)
    (asks : arrival.AsksOf db subscription.organizationId) :
    (receive providerName db arrival).subscriptions.get subscription.id =
        some (subscription.stand (subscription.standing.hear arrival.event)) ∧
      ∀ event : NormalizedBillingEvent,
        event.organization (receive providerName db arrival) = event.organization db := by
  obtain ⟨asked, resolved⟩ := asks
  obtain ⟨target, asked⟩ := Option.isSome_iff_exists.mp asked
  obtain ⟨claimed, same, outcome⟩ := receive_cases unknown
  have current : claimed.currentForOrg subscription.organizationId =
      db.currentForOrg subscription.organizationId := by
    unfold Db.SameData at same
    rw [same]
    rfl
  have member := (Table.get_eq_some.mp found).1
  have occupies (occupying : subscription.status.occupying = true) :
      claimed.currentForOrg subscription.organizationId = some subscription :=
    current.trans (Db.currentForOrg_eq_some.mpr ⟨member, rfl, occupying⟩)
  have located : claimed.subscriptions.get subscription.id = some subscription :=
    (same.get _).trans found
  simp only [BillingWebhookService.apply, same.organization, resolved, asked] at outcome
  rcases outcome with ⟨next, applied, received⟩ | ⟨⟨failure, failed⟩, received⟩
  -- Applied: nothing occupies the organization, or the occupying row moves.
  · rcases BillingWebhookService.applyStatus_cases applied with
      ⟨vacant, rfl⟩ | ⟨existing, status, occupant, legal, writes⟩
    -- Another row of the organization moved, so this one does not occupy it.
    · have idle : subscription.status.occupying = false := by
        by_contra occupying
        rw [occupies (by simpa using occupying)] at vacant
        cases vacant
      rw [hear_of_vacant idle, stand_standing, received.get]
      exact ⟨located, (same.trans received).organization⟩
    · refine ⟨?_, fun event => ?_⟩
      · rw [received.get]
        by_cases mine : existing = subscription
        · subst mine
          rw [hear_of_legal (Db.currentForOrg_eq_some.mp occupant).2.2 asked legal]
          exact Table.get_eq_some.mpr ⟨(writes.mem _).mpr (.inl rfl), rfl⟩
        · have idle : subscription.status.occupying = false := by
            by_contra occupying
            rw [occupies (by simpa using occupying)] at occupant
            exact mine (Option.some.inj occupant).symm
          rw [hear_of_vacant idle, stand_standing]
          exact Table.get_eq_some.mpr ⟨(writes.mem _).mpr
            (.inr ⟨(Table.get_eq_some.mp located).1, Ne.symm mine⟩), rfl⟩
      · rw [received.organization, writes.organization rfl rfl, same.organization]
  -- Refused: an occupying row refuses only a move that is not legal for it.
  · refine ⟨?_, received.organization⟩
    have unmoved : subscription.standing.hear arrival.event = subscription.standing := by
      by_cases occupying : subscription.status.occupying = true
      · refine hear_of_refused asked fun status legal => ?_
        have accepts : ∃ next, BillingWebhookService.applyStatus claimed
            subscription.organizationId arrival.event target = .ok next :=
          applyStatus_accepts (occupies occupying) legal
        rw [failed] at accepts
        obtain ⟨next, ⟨⟩⟩ := accepts
      · exact hear_of_vacant (show subscription.status.occupying = false by simpa using occupying)
    rw [unmoved, stand_standing, received.get]
    exact found

end Events

/-- After any run of provider events, an event that asks for a legal status moves
its subscription there exactly if the subscription occupies its organization, or
is there already. -/
theorem webhook_moves_iff (providerName : String) (db : Db) (arrivals : List Arrival)
    (last : Arrival) (subscription : Subscription) (target : Status)
    (unknown : ¬ (Runs.run (receive providerName) db arrivals).Ledgered
      (providerName, last.providerEventId))
    (found : (Runs.run (receive providerName) db arrivals).subscriptions.get subscription.id =
      some subscription)
    (about : last.event.organization (Runs.run (receive providerName) db arrivals) =
      some subscription.organizationId)
    (asked : last.event.targetStatus = some target.name)
    (legal : canTransition subscription.status target) :
    (∃ moved, (Runs.run (receive providerName) db (arrivals ++ [last])).subscriptions.get
        subscription.id = some moved ∧ moved.status = target) ↔
      subscription.status.occupying = true ∨ target = subscription.status := by
  obtain ⟨after, -⟩ := receive_status unknown found ⟨by rw [asked]; rfl, about⟩
  simp only [Runs.run_append, Runs.run_cons, Runs.run_nil, after, Option.some.injEq,
    exists_eq_left']
  cases occupying : subscription.status.occupying with
  | true =>
      have transition : assertTransition subscription.standing.status target.name = .ok target :=
        assertTransition_eq_ok.mpr ⟨Status.parse_name target, legal⟩
      rw [hear_of_legal occupying asked transition]
      simp [Subscription.stand]
  -- A row that does not occupy its organization hears nothing.
  | false =>
      rw [hear_of_vacant occupying]
      simp [eq_comm]

/-! An active subscription the provider reports unpaid, and then active again. -/

def statusArrival (providerEventId : String) (eventType : BillingEventType)
    (status : Option String) (periodEnd : Option Int) : Arrival :=
  ⟨providerEventId, { now := day }, noApi,
    { subscriptionEvent eventType with status := status, currentPeriodEnd := periodEnd }⟩

def unpaidArrival : Arrival := statusArrival "evt_1" .subscriptionUpdated (some "unpaid") none
def pastDueArrival : Arrival := statusArrival "evt_1" .subscriptionPastDue none none
def activatedArrival : Arrival := statusArrival "evt_2" .subscriptionActivated none none

theorem webhook_moves_iff_past_due_to_active :
    (∃ moved, (Runs.run (receive "stripe") (sampleDb (sampleSubscription 0))
        ([pastDueArrival] ++ [activatedArrival])).subscriptions.get 0 = some moved ∧
          moved.status = .active) ↔
      Status.pastDue.occupying = true ∨ Status.active = Status.pastDue :=
  webhook_moves_iff "stripe" (sampleDb (sampleSubscription 0)) [pastDueArrival] activatedArrival
    { sampleSubscription 0 with status := .pastDue } .active (by decide) (by decide) (by decide) rfl
    (by decide)

theorem unpaid_subscription_stays_unpaid :
    (Runs.run (receive "stripe") (sampleDb (sampleSubscription 0))
        [unpaidArrival]).subscriptions.rows.map (·.status) = [.unpaid] ∧
      canTransition .unpaid .active = true ∧
      (activatedArrival.delivery "stripe").answer (Runs.run (receive "stripe")
        (sampleDb (sampleSubscription 0)) [unpaidArrival]) = some (.processed 1 []) ∧
      (Runs.run (receive "stripe") (sampleDb (sampleSubscription 0))
        [unpaidArrival, activatedArrival]).subscriptions.rows.map (·.status) = [.unpaid] := by
  decide

end SynapseSaas
