import SynapseSaas.Billing.StatusEvents

/-! Which subscriptions a provider's status event may change.

The event names a subscription of the provider, but only its organization is
looked up by that name: the row changed is the organization's occupying one. -/

set_option autoImplicit false

namespace SynapseSaas

/-- Every subscription of the organization but those under the reference is as
it was. -/
def SparesOthers (db next : Db) (organization : Nat) (reference : String) : Prop :=
  ∀ row ∈ db.subscriptions.rows, row.organizationId = organization →
    row.providerSubscriptionId ≠ some reference → row ∈ next.subscriptions.rows

/-- The event asks nothing new of a subscription: no legal status but the one it
has, and then no other end of its period. -/
def NormalizedBillingEvent.AsksNothingOf (event : NormalizedBillingEvent)
    (subscription : Subscription) : Prop :=
  ∀ move, event.move = some move → canTransition subscription.status move.target →
    move.target = subscription.status ∧
      move.periodEnd.getD subscription.currentPeriodEnd = subscription.currentPeriodEnd

/-- The event is about the occupying subscription of the organization, or asks
nothing of it. -/
def NormalizedBillingEvent.About (event : NormalizedBillingEvent) (db : Db) (organization : Nat)
    (reference : String) : Prop :=
  ∀ current, db.currentForOrg organization = some current →
    current.providerSubscriptionId = some reference ∨ event.AsksNothingOf current

section StatusEvents

variable {env : Env} {api : BillingApi} {providerName : String} {db : Db}
  {organization : Nat} {event : NormalizedBillingEvent} {target : String}

theorem apply_status (asked : event.targetStatus = some target)
    (resolved : event.organization db = some organization) :
    BillingWebhookService.apply env api providerName db event =
      BillingWebhookService.applyStatus db organization event target := by
  simp only [BillingWebhookService.apply, resolved, asked]

theorem move_of_assertTransition {status : Status} {subscription : Subscription}
    (asked : event.targetStatus = some target)
    (legal : assertTransition subscription.status target = .ok status) :
    event.move = some ⟨status, event.currentPeriodEnd⟩ ∧
      canTransition subscription.status status := by
  obtain ⟨parsed, transition⟩ := assertTransition_eq_ok.mp legal
  refine ⟨?_, transition⟩
  simp only [NormalizedBillingEvent.move, asked, Option.bind_some, parsed, Option.map_some]

theorem assertTransition_of_move {move : Move} {subscription : Subscription}
    (asked : event.targetStatus = some target) (asks : event.move = some move)
    (transition : canTransition subscription.status move.target) :
    assertTransition subscription.status target = .ok move.target ∧
      move.periodEnd = event.currentPeriodEnd := by
  simp only [NormalizedBillingEvent.move, asked, Option.bind_some, Option.map_eq_some_iff] at asks
  obtain ⟨status, parsed, rfl⟩ := asks
  exact ⟨assertTransition_eq_ok.mpr ⟨parsed, transition⟩, rfl⟩

/-- An event of another organization changes nothing here. -/
theorem spares_of_elsewhere {reference : String} (asked : event.targetStatus = some target)
    (elsewhere : event.organization db ≠ some organization) :
    SparesOthers db (Transaction.commit db
      (BillingWebhookService.apply env api providerName db event)) organization reference := by
  intro row here mine _
  cases resolved : event.organization db with
  | none =>
      simp only [BillingWebhookService.apply, resolved]
      exact here
  | some other =>
      rw [apply_status asked resolved]
      cases applied : BillingWebhookService.applyStatus db other event target with
      | error failure => exact here
      | ok next =>
          rcases BillingWebhookService.applyStatus_cases applied with
            ⟨-, rfl⟩ | ⟨existing, status, current, -, writes⟩
          · exact here
          · refine (writes.mem row).mpr (.inr ⟨here, ?_⟩)
            intro same
            have theirs := (Db.currentForOrg_eq_some.mp current).2.1
            rw [← same, mine] at theirs
            exact elsewhere (resolved.trans (congrArg some theirs.symm))

/-- The step: what an applied event does to the occupying row decides it. -/
theorem spares_applied_iff {reference : String} (asked : event.targetStatus = some target)
    (resolved : event.organization db = some organization) :
    SparesOthers db (Transaction.commit db
        (BillingWebhookService.apply env api providerName db event)) organization reference ↔
      event.About db organization reference := by
  rw [apply_status asked resolved]
  constructor
  · intro spares current occupant
    by_cases theirs : current.providerSubscriptionId = some reference
    · exact .inl theirs
    · refine .inr fun move asks transition => ?_
      have ⟨legal, told⟩ := assertTransition_of_move asked asks transition
      have ⟨next, applied⟩ : ∃ next, BillingWebhookService.applyStatus db organization event target =
          .ok next := applyStatus_accepts occupant legal
      have ⟨here, mine, _⟩ := Db.currentForOrg_eq_some.mp occupant
      have kept := spares current here mine theirs
      rw [applied] at kept
      rcases BillingWebhookService.applyStatus_cases applied with
        ⟨vacant, -⟩ | ⟨existing, status, current', legal', writes⟩
      · rw [occupant] at vacant
        cases vacant
      · rw [occupant] at current'
        cases current'
        rw [legal] at legal'
        cases legal'
        -- the old row is in the table only as the row written over it
        rcases (writes.mem current).mp kept with same | ⟨-, other⟩
        · have status := congrArg Subscription.status same
          have ends := congrArg Subscription.currentPeriodEnd same
          rw [told]
          exact ⟨status.symm, ends.symm⟩
        · exact absurd rfl other
  · intro about row here mine theirs
    cases applied : BillingWebhookService.applyStatus db organization event target with
    | error failure => exact here
    | ok next =>
        rcases BillingWebhookService.applyStatus_cases applied with
          ⟨-, rfl⟩ | ⟨existing, status, current, legal, writes⟩
        · exact here
        · by_cases same : row = existing
          · subst same
            rcases about row current with matched | nothing
            · exact absurd matched theirs
            · have ⟨asks, transition⟩ := move_of_assertTransition asked legal
              have ⟨status_eq, ends⟩ := nothing _ asks transition
              simp only at status_eq ends
              refine (writes.mem row).mpr (.inl ?_)
              rw [status_eq, ends]
          · exact (writes.mem row).mpr (.inr ⟨here, same⟩)

end StatusEvents

/-- A status event leaves the subscriptions of an organization that are not under
a reference, such as the one it carries, alone exactly if it is about the
occupying one, or asks nothing of it, or belongs to another organization. -/
theorem status_event_spares_others_iff (env : Env) (api : BillingApi) (providerName : String)
    (db : Db) (event : NormalizedBillingEvent) (organization : Nat) (reference : String)
    (asked : event.targetStatus.isSome) :
    SparesOthers db (Transaction.commit db
        (BillingWebhookService.apply env api providerName db event)) organization reference ↔
      (event.organization db = some organization → event.About db organization reference) := by
  obtain ⟨target, asked⟩ := Option.isSome_iff_exists.mp asked
  by_cases resolved : event.organization db = some organization
  · simp only [resolved, true_implies]
    exact spares_applied_iff asked resolved
  · simp only [resolved, false_implies, iff_true]
    exact spares_of_elsewhere asked resolved

/-! A subscription bought again: the old row, canceled, and the one in force. -/

def replacedSubscription : Subscription :=
  { sampleSubscription 0 with status := .canceled, providerSubscriptionId := some "sub_0" }

def boughtAgainDb : Db :=
  { sampleDb (sampleSubscription 0) with
    subscriptions := ⟨[replacedSubscription, { sampleSubscription day with id := 1 }], 2, by decide⟩ }

def lateCancellation : NormalizedBillingEvent :=
  { eventType := .subscriptionCanceled
    occurredAt := 2 * day
    providerSubscriptionId := some "sub_0" }

theorem status_event_spares_others_iff_replaced :
    SparesOthers boughtAgainDb (Transaction.commit boughtAgainDb
        (BillingWebhookService.apply { now := 2 * day } noApi "manual" boughtAgainDb
          lateCancellation)) 1 "sub_0" ↔
      (lateCancellation.organization boughtAgainDb = some 1 →
        lateCancellation.About boughtAgainDb 1 "sub_0") :=
  status_event_spares_others_iff { now := 2 * day } noApi "manual" boughtAgainDb lateCancellation 1
    "sub_0" rfl

theorem late_cancellation_cancels_current :
    boughtAgainDb.subscriptions.rows.map (fun row => (row.providerSubscriptionId, row.status)) =
        [(some "sub_0", .canceled), (some "sub_1", .active)] ∧
      (Transaction.commit boughtAgainDb (BillingWebhookService.apply { now := 2 * day } noApi "manual"
          boughtAgainDb lateCancellation)).subscriptions.rows.map
            (fun row => (row.providerSubscriptionId, row.status)) =
        [(some "sub_0", .canceled), (some "sub_1", .canceled)] ∧
      ¬ SparesOthers boughtAgainDb (Transaction.commit boughtAgainDb
          (BillingWebhookService.apply { now := 2 * day } noApi "manual" boughtAgainDb
            lateCancellation)) 1 "sub_0" := by
  refine ⟨by decide, by decide, fun spares => ?_⟩
  have kept := spares { sampleSubscription day with id := 1 } (by decide) rfl (by decide)
  exact absurd kept (by decide)

end SynapseSaas
