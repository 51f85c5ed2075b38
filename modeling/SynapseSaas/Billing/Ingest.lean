import SynapseSaas.Billing.Webhooks

/-! Ingest over any sequence of deliveries: retries, duplicates and failures.

The ledger carries the argument: it has a row for an event exactly when some
delivery applied it. -/

set_option autoImplicit false

namespace SynapseSaas

/-- The events in order, each applied, or refused by a business rule and left out. -/
inductive AppliedEach (env : Env) (api : BillingApi) (providerName : String) :
    Db → List NormalizedBillingEvent → Db → Prop
  | done (db : Db) : AppliedEach env api providerName db [] db
  | applied {db next final : Db} {event : NormalizedBillingEvent}
      {rest : List NormalizedBillingEvent}
      (accepted : BillingWebhookService.apply env api providerName db event = .ok next)
      (later : AppliedEach env api providerName next rest final) :
      AppliedEach env api providerName db (event :: rest) final
  | rejected {db final : Db} {event : NormalizedBillingEvent} {rest : List NormalizedBillingEvent}
      {error : DomainError}
      (refused : BillingWebhookService.apply env api providerName db event = .error (.domain error))
      (later : AppliedEach env api providerName db rest final) :
      AppliedEach env api providerName db (event :: rest) final

def VerifiedWebhook.key (webhook : VerifiedWebhook) : String × String :=
  (webhook.providerName, webhook.providerEventId)

def ProviderWebhookEvent.key (row : ProviderWebhookEvent) : String × String :=
  (row.provider, row.providerEventId)

/-- The ledger has a row for the event. -/
def Db.Ledgered (db : Db) (key : String × String) : Prop :=
  ∃ row ∈ db.providerWebhookEvents.rows, row.key = key

instance (db : Db) (key : String × String) : Decidable (db.Ledgered key) :=
  inferInstanceAs (Decidable (∃ row ∈ _, _))

/-- The whole effect of a delivery: its ledger row, each of its events, and the
row settled. -/
def Ingested (delivery : Delivery) (db next : Db) : Prop :=
  ∃ row claimed applied error, db.claimWebhook delivery.webhook = some (row, claimed) ∧
    (match delivery.webhook.translated with
      | .error _ => applied = claimed
      | .ok events => AppliedEach delivery.env delivery.api delivery.webhook.providerName claimed
          events applied) ∧
    applied.settleWebhook row delivery.env.now error = .ok next

namespace Delivery

/-- The delivery was answered 200, and not as a duplicate. -/
def applies (delivery : Delivery) (db : Db) : Bool := (delivery.answer db).any (· ≠ .duplicate)

end Delivery

def deliver (db : Db) (delivery : Delivery) : Db := delivery.committed db

section Ledger

variable {db next : Db} {webhook : VerifiedWebhook} {row : ProviderWebhookEvent}

/-- The claim is refused exactly for events the ledger knows. -/
theorem claimWebhook_eq_none : db.claimWebhook webhook = none ↔ db.Ledgered webhook.key := by
  have keys (id : Nat) : Keyed.keys (webhook.claim id) = [webhook.key] := rfl
  constructor
  · intro refused
    by_contra unknown
    obtain ⟨table, inserted⟩ := Table.insert_accepted db.providerWebhookEvents webhook.claim rfl
      fun row member key mine yours => by
        rw [keys, List.mem_singleton] at yours
        exact unknown ⟨row, member, (List.mem_singleton.mp mine).symm.trans yours⟩
    rw [Db.claimWebhook, inserted] at refused
    cases refused
  · rintro ⟨row, member, known⟩
    cases claimed : db.claimWebhook webhook with
    | none => rfl
    | some result =>
        obtain ⟨table, inserted, -⟩ := Option.map_eq_some_iff.mp claimed
        have apart := table.pairwise
        rw [Table.insert_rows inserted, List.pairwise_append] at apart
        have compatible := apart.2.2 row member _ (List.mem_singleton_self _)
        refine absurd ?_ (compatible.2 row.key (List.mem_singleton_self _))
        rw [keys, List.mem_singleton]
        exact known

theorem claimWebhook_some (claimed : db.claimWebhook webhook = some (row, next)) :
    row.key = webhook.key ∧ next.providerWebhookEvents.rows = db.providerWebhookEvents.rows ++ [row] ∧
      next = { db with providerWebhookEvents := next.providerWebhookEvents } := by
  obtain ⟨table, inserted, eq⟩ := Option.map_eq_some_iff.mp claimed
  cases eq
  exact ⟨rfl, Table.insert_rows inserted, rfl⟩

theorem Faults.stage_eq_ok {faults : Faults} {number : Nat} :
    faults.stage number = .ok () ↔ faults number = none := by
  unfold Faults.stage
  split <;> simp [*]

/-- The row a delivery claimed can always be settled. -/
theorem settleWebhook_accepts (now : Int) (error : Option String)
    (member : row ∈ db.providerWebhookEvents.rows) :
    ∃ next, db.settleWebhook row now error = .ok next := by
  obtain ⟨table, put⟩ := Table.put_accepted db.providerWebhookEvents member
    (show Keyed.id { row with processedAt := some now, error := error } = Keyed.id row from rfl)
    fun key mine => mine
  exact ⟨_, write_eq_ok.mpr ⟨table, put, rfl⟩⟩

theorem AppliedEach.ledger {env : Env} {api : BillingApi} {providerName : String}
    {events : List NormalizedBillingEvent} (each : AppliedEach env api providerName db events next) :
    next.providerWebhookEvents = db.providerWebhookEvents := by
  induction each with
  | done => rfl
  | applied accepted later ih => exact ih.trans (BillingWebhookService.apply_ledger accepted)
  | rejected refused later ih => exact ih

theorem applyAll_each {env : Env} {api : BillingApi} {faults : Faults} {providerName : String}
    {stage applied : Nat} {events : List NormalizedBillingEvent} {rejected : List String}
    (done : BillingWebhookService.applyAll env api faults providerName stage db events =
      .ok (applied, rejected, next)) :
    AppliedEach env api providerName db events next := by
  induction events generalizing stage db applied rejected with
  | nil =>
      cases done
      exact .done _
  | cons event rest ih =>
      obtain ⟨-, -, done⟩ := Result.bind_eq_ok.mp done
      split at done
      · next mid accepted =>
          obtain ⟨⟨count, others, final⟩, later, eq⟩ := Result.bind_eq_ok.mp done
          cases eq
          exact .applied accepted (ih later)
      · next error refused =>
          obtain ⟨⟨count, others, final⟩, later, eq⟩ := Result.bind_eq_ok.mp done
          cases eq
          exact .rejected refused (ih later)
      · cases done

/-- An ingested delivery adds its own event to the ledger. -/
theorem Ingested.ledgered {delivery : Delivery} (ingested : Ingested delivery db next)
    (key : String × String) :
    next.Ledgered key ↔ db.Ledgered key ∨ delivery.webhook.key = key := by
  obtain ⟨row, claimed, applied, error, claim, events, settle⟩ := ingested
  obtain ⟨mine, rows, -⟩ := claimWebhook_some claim
  -- Applying the events writes no ledger row, so the settlement meets the claimed one.
  have ledger : applied.providerWebhookEvents = claimed.providerWebhookEvents := by
    cases translated : delivery.webhook.translated with
    | error text =>
        rw [translated] at events
        rw [events]
    | ok events' =>
        rw [translated] at events
        exact events.ledger
  obtain ⟨table, put, eq⟩ := write_eq_ok.mp settle
  cases eq
  have member : row ∈ applied.providerWebhookEvents.rows := by
    rw [ledger, rows]
    simp
  have settled := Table.mem_put member (by rfl) put
  constructor
  · rintro ⟨other, here, known⟩
    rcases (settled other).mp here with rfl | ⟨here, distinct⟩
    · exact .inr (mine.symm.trans known)
    · rw [ledger, rows, List.mem_append, List.mem_singleton] at here
      exact .inl ⟨other, here.resolve_right distinct, known⟩
  · rintro (⟨other, here, known⟩ | known)
    · by_cases same : other = row
      · exact ⟨_, (settled _).mpr (.inl rfl), (congrArg ProviderWebhookEvent.key same).symm.trans known⟩
      · refine ⟨other, (settled other).mpr (.inr ⟨?_, same⟩), known⟩
        rw [ledger, rows]
        exact List.mem_append_left _ here
    · exact ⟨_, (settled _).mpr (.inl rfl), mine.trans known⟩

end Ledger

/-- What a delivery can do to the database. -/
inductive Delivered (delivery : Delivery) (db : Db) : Prop where
  | failed (unanswered : delivery.answer db = none) (unchanged : deliver db delivery = db)
  | duplicate (answered : delivery.answer db = some .duplicate)
      (known : db.Ledgered delivery.webhook.key) (unchanged : deliver db delivery = db)
  | ingested (applies : delivery.applies db = true) (unknown : ¬ db.Ledgered delivery.webhook.key)
      (whole : Ingested delivery db (deliver db delivery))

theorem delivered (delivery : Delivery) (db : Db) : Delivered delivery db := by
  cases handled : delivery.handle db with
  | error failure =>
      refine .failed ?_ ?_
      · rw [Delivery.answer, handled]
      · rw [deliver, Delivery.committed, handled]
        rfl
  | ok result =>
      obtain ⟨answer, next⟩ := result
      have answered : delivery.answer db = some answer := by rw [Delivery.answer, handled]
      have committed : deliver db delivery = next := by
        rw [deliver, Delivery.committed, handled]
        rfl
      have applies (fresh : answer ≠ .duplicate) : delivery.applies db = true := by
        simp [Delivery.applies, answered, fresh]
      obtain ⟨-, -, handled⟩ := Result.bind_eq_ok.mp handled
      split at handled
      · next refused =>
          cases handled
          exact .duplicate answered (claimWebhook_eq_none.mp refused) committed
      · next row claimed claim =>
          -- A claim that succeeds is the first of its key.
          have unknown : ¬ db.Ledgered delivery.webhook.key := fun known => by
            rw [claimWebhook_eq_none.mpr known] at claim
            cases claim
          split at handled
          · next text translated =>
              obtain ⟨-, -, handled⟩ := Result.bind_eq_ok.mp handled
              obtain ⟨settled, settle, done⟩ := Result.bind_eq_ok.mp handled
              cases done
              refine .ingested (applies (by simp)) unknown ?_
              rw [committed]
              exact ⟨row, claimed, claimed, _, claim, by rw [translated], settle⟩
          · next events translated =>
              obtain ⟨⟨applied, rejected, final⟩, each, handled⟩ := Result.bind_eq_ok.mp handled
              obtain ⟨-, -, handled⟩ := Result.bind_eq_ok.mp handled
              obtain ⟨settled, settle, done⟩ := Result.bind_eq_ok.mp handled
              cases done
              refine .ingested (applies (by simp)) unknown ?_
              rw [committed]
              exact ⟨row, claimed, final, _, claim, by rw [translated]; exact applyAll_each each,
                settle⟩

section Histories

variable (db : Db) (deliveries : List Delivery) (key : String × String)

/-- The delivery at a position of the history is one of this event, and was
answered 200. -/
def AnsweredAt (position : Nat) : Prop :=
  ∃ delivery, deliveries[position]? = some delivery ∧ delivery.webhook.key = key ∧
    (delivery.answer (Runs.reached deliver db deliveries position)).isSome

/-- It was answered 200 and not as a duplicate. -/
def AppliedAt (position : Nat) : Prop :=
  ∃ delivery, deliveries[position]? = some delivery ∧ delivery.webhook.key = key ∧
    delivery.applies (Runs.reached deliver db deliveries position) = true

/-- Exactly-once ingest of one event over a history of deliveries. -/
structure IngestedOnce : Prop where
  once : ∀ first second, AppliedAt db deliveries key first → AppliedAt db deliveries key second →
    first = second
  complete : ∀ position, AnsweredAt db deliveries key position →
    ∃ earlier ≤ position, AppliedAt db deliveries key earlier
  whole : ∀ position delivery, deliveries[position]? = some delivery → delivery.webhook.key = key →
    AppliedAt db deliveries key position →
      Ingested delivery (Runs.reached deliver db deliveries position)
        (Runs.reached deliver db deliveries (position + 1))
  nothing : ∀ position delivery, deliveries[position]? = some delivery →
    delivery.webhook.key = key → ¬ AppliedAt db deliveries key position →
      Runs.reached deliver db deliveries (position + 1) =
        Runs.reached deliver db deliveries position
  absent : (∀ position, ¬ AnsweredAt db deliveries key position) →
    Runs.run deliver db deliveries =
      Runs.run deliver db (deliveries.filter (·.webhook.key ≠ key))

variable {db deliveries key}

/-- The ledger has a row for an event exactly when a delivery applied it. -/
theorem ledgered_reached (position : Nat) :
    (Runs.reached deliver db deliveries position).Ledgered key ↔
      db.Ledgered key ∨ ∃ earlier < position, AppliedAt db deliveries key earlier := by
  induction position with
  | zero => simp [Runs.reached]
  | succ position ih =>
      have split : (∃ earlier < position + 1, AppliedAt db deliveries key earlier) ↔
          (∃ earlier < position, AppliedAt db deliveries key earlier) ∨
            AppliedAt db deliveries key position := by
        simp only [Nat.lt_succ_iff_lt_or_eq, or_and_right, exists_or, exists_eq_left]
      rw [split, ← or_assoc, ← ih]
      cases here : deliveries[position]? with
      | none =>
          rw [Runs.reached_over deliver here]
          simp [AppliedAt, here]
      | some delivery =>
          rw [Runs.reached_succ deliver here]
          -- A delivery that applies nothing is not where the key was applied.
          have idle : delivery.applies (Runs.reached deliver db deliveries position) = false →
              ¬ AppliedAt db deliveries key position := by
            rintro refused ⟨other, there, -, applies⟩
            rw [here] at there
            cases there
            rw [refused] at applies
            cases applies
          cases delivered delivery (Runs.reached deliver db deliveries position) with
          | failed unanswered unchanged =>
              rw [unchanged, or_iff_left (idle (by simp [Delivery.applies, unanswered]))]
          | duplicate answered known unchanged =>
              rw [unchanged, or_iff_left (idle (by simp [Delivery.applies, answered]))]
          | ingested applies unknown whole =>
              rw [whole.ledgered]
              refine or_congr_right ⟨fun mine => ⟨delivery, here, mine, applies⟩, ?_⟩
              rintro ⟨other, there, mine, -⟩
              rw [here] at there
              cases there
              exact mine

theorem appliedAt_unledgered {position : Nat} (applied : AppliedAt db deliveries key position) :
    ¬ (Runs.reached deliver db deliveries position).Ledgered key := by
  obtain ⟨delivery, here, rfl, applies⟩ := applied
  cases delivered delivery (Runs.reached deliver db deliveries position) with
  | failed unanswered unchanged => simp [Delivery.applies, unanswered] at applies
  | duplicate answered known unchanged => simp [Delivery.applies, answered] at applies
  | ingested applies unknown whole => exact unknown

theorem reached_of_not_applied {position : Nat} {delivery : Delivery}
    (here : deliveries[position]? = some delivery) (mine : delivery.webhook.key = key)
    (idle : ¬ AppliedAt db deliveries key position) :
    deliver (Runs.reached deliver db deliveries position) delivery =
      Runs.reached deliver db deliveries position := by
  cases delivered delivery (Runs.reached deliver db deliveries position) with
  | failed unanswered unchanged => exact unchanged
  | duplicate answered known unchanged => exact unchanged
  | ingested applies unknown whole => exact absurd ⟨delivery, here, mine, applies⟩ idle

end Histories

/-- For every event the ledger has no row of, over every sequence of deliveries
with whatever retries, duplicates and failures: at most one delivery applies it,
that one applies it whole, none else changes anything, a 200 means it was
applied, and without one it might as well not have arrived. -/
theorem webhook_ingest_exactly_once (db : Db) (deliveries : List Delivery) (key : String × String)
    (fresh : ¬ db.Ledgered key) : IngestedOnce db deliveries key where
  once first second := by
    intro left right
    -- The earlier of two applications leaves the key in the ledger for the later.
    rcases lt_trichotomy first second with before | same | after
    · exact absurd ((ledgered_reached second).mpr (.inr ⟨first, before, left⟩))
        (appliedAt_unledgered right)
    · exact same
    · exact absurd ((ledgered_reached first).mpr (.inr ⟨second, after, right⟩))
        (appliedAt_unledgered left)
  complete position := by
    rintro ⟨delivery, here, mine, answered⟩
    cases delivered delivery (Runs.reached deliver db deliveries position) with
    | failed unanswered unchanged => simp [unanswered] at answered
    | duplicate answered known unchanged =>
        rw [mine] at known
        obtain ⟨earlier, before, applied⟩ := ((ledgered_reached position).mp known).resolve_left fresh
        exact ⟨earlier, before.le, applied⟩
    | ingested applies unknown whole => exact ⟨position, le_rfl, delivery, here, mine, applies⟩
  whole position delivery here mine := by
    rintro ⟨other, there, -, applies⟩
    rw [here] at there
    cases there
    rw [Runs.reached_succ deliver here]
    cases delivered delivery (Runs.reached deliver db deliveries position) with
    | failed unanswered unchanged => simp [Delivery.applies, unanswered] at applies
    | duplicate answered known unchanged => simp [Delivery.applies, answered] at applies
    | ingested applies unknown whole => exact whole
  nothing position delivery here mine idle := by
    rw [Runs.reached_succ deliver here]
    exact reached_of_not_applied here mine idle
  absent unanswered := by
    -- The deliveries of the key change nothing, so the run without them ends the same.
    refine (Runs.run_filter deliver fun position delivery here dropped => ?_).symm
    refine reached_of_not_applied here (by simpa using dropped) ?_
    rintro ⟨other, there, mine, applies⟩
    refine unanswered position ⟨other, there, mine, ?_⟩
    cases answer : other.answer (Runs.reached deliver db deliveries position) with
    | none => simp [Delivery.applies, answer] at applies
    | some _ => rfl

/-! One event delivered three times: the database fails under the first. -/

def subscriptionEvent (eventType : BillingEventType) : NormalizedBillingEvent :=
  { eventType := eventType, occurredAt := 0, providerSubscriptionId := some "sub_1" }

def deliveryOf (providerEventId : String) (event : NormalizedBillingEvent) : Delivery :=
  ⟨⟨"stripe", providerEventId, event.eventType.name, .ok [event]⟩, { now := day }, noApi, fun _ => none⟩

def pastDueDelivery : Delivery := deliveryOf "evt_1" (subscriptionEvent .subscriptionPastDue)

def interruptedDelivery : Delivery :=
  { pastDueDelivery with faults := fun stage => if stage = 1 then some .outage else none }

theorem webhook_ingest_exactly_once_after_outage :
    IngestedOnce (sampleDb (sampleSubscription 0))
        [interruptedDelivery, pastDueDelivery, pastDueDelivery] ("stripe", "evt_1") ∧
      AppliedAt (sampleDb (sampleSubscription 0))
        [interruptedDelivery, pastDueDelivery, pastDueDelivery] ("stripe", "evt_1") 1 :=
  ⟨webhook_ingest_exactly_once _ _ _ (by decide), pastDueDelivery, rfl, rfl, by decide⟩

end SynapseSaas
