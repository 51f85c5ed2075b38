import SynapseSaas.Billing.Ingest

/-! Provider events that arrive one to a delivery, each under its own event id,
with nothing failing underneath. -/

set_option autoImplicit false

namespace SynapseSaas

structure Arrival where
  providerEventId : String
  env : Env
  api : BillingApi
  event : NormalizedBillingEvent

def Arrival.delivery (providerName : String) (arrival : Arrival) : Delivery where
  webhook := ⟨providerName, arrival.providerEventId, arrival.event.eventType.name,
    .ok [arrival.event]⟩
  env := arrival.env
  api := arrival.api

def receive (providerName : String) (db : Db) (arrival : Arrival) : Db :=
  deliver db (arrival.delivery providerName)

/-- Every arrival has its own event id, and the ledger knows none of them. -/
structure OwnIds (providerName : String) (db : Db) (arrivals : List Arrival) : Prop where
  distinct : (arrivals.map (·.providerEventId)).Nodup
  unknown : ∀ arrival ∈ arrivals, ¬ db.Ledgered (providerName, arrival.providerEventId)

/-- The databases agree on everything but the ledger. -/
def Db.SameData (first second : Db) : Prop :=
  second = { first with providerWebhookEvents := second.providerWebhookEvents }

section Receive

variable {providerName : String} {db : Db} {arrival : Arrival} {arrivals : List Arrival}

theorem Db.SameData.refl (db : Db) : db.SameData db := rfl

theorem Db.SameData.trans {first second third : Db} (left : first.SameData second)
    (right : second.SameData third) : first.SameData third := by
  unfold Db.SameData at *
  rw [right, left]

theorem Db.SameData.organization {first second : Db} (same : first.SameData second)
    (event : NormalizedBillingEvent) : event.organization second = event.organization first := by
  unfold Db.SameData at same
  rw [same]
  rfl

theorem settleWebhook_data {next : Db} {row : ProviderWebhookEvent} {now : Int}
    {error : Option String} (settled : db.settleWebhook row now error = .ok next) :
    db.SameData next := by
  obtain ⟨table, -, eq⟩ := write_eq_ok.mp settled
  cases eq
  rfl

/-- An arrival under a new id is applied, or refused and left out. -/
theorem receive_cases (unknown : ¬ db.Ledgered (providerName, arrival.providerEventId)) :
    ∃ claimed, db.SameData claimed ∧
      ((∃ next, BillingWebhookService.apply arrival.env arrival.api providerName claimed
          arrival.event = .ok next ∧ next.SameData (receive providerName db arrival)) ∨
        (∃ failure, BillingWebhookService.apply arrival.env arrival.api providerName claimed
          arrival.event = .error failure) ∧ db.SameData (receive providerName db arrival)) := by
  cases claim : db.claimWebhook (arrival.delivery providerName).webhook with
  | none => exact absurd (claimWebhook_eq_none.mp claim) unknown
  | some claimed =>
      obtain ⟨row, claimed⟩ := claimed
      obtain ⟨-, rows, frame⟩ := claimWebhook_some claim
      have same : db.SameData claimed := frame
      have member : row ∈ claimed.providerWebhookEvents.rows := by
        rw [rows]
        simp
      refine ⟨claimed, same, ?_⟩
      cases outcome : BillingWebhookService.apply arrival.env arrival.api providerName claimed
        arrival.event with
      | ok next =>
          -- The ledger still holds the claimed row, so it can be settled.
          obtain ⟨settled, settle⟩ := settleWebhook_accepts arrival.env.now
            (present (some ("; ".intercalate []))) (BillingWebhookService.apply_ledger outcome ▸ member)
          have handled : (arrival.delivery providerName).handle db =
              .ok (.processed 1 [], settled) := by
            simp only [Delivery.handle, BillingWebhookService.handle, claim]
            simp only [Arrival.delivery, Faults.stage, BillingWebhookService.applyAll, outcome,
              Result.ok_bind, pure, Except.pure, settle]
          refine .inl ⟨next, rfl, ?_⟩
          rw [receive, deliver, Delivery.committed, handled]
          exact settleWebhook_data settle
      | error failure =>
          refine .inr ⟨⟨failure, rfl⟩, ?_⟩
          cases failure with
          -- A business rejection is recorded with the row, and the data stays.
          | domain error =>
              have each : BillingWebhookService.applyAll arrival.env arrival.api (fun _ => none)
                  providerName 1 claimed [arrival.event] =
                    .ok (0, [arrival.event.eventType.name ++ ": " ++ error.message], claimed) := by
                simp only [BillingWebhookService.applyAll, Faults.stage, outcome, Result.ok_bind]
                rfl
              obtain ⟨settled, settle⟩ := settleWebhook_accepts arrival.env.now
                (present (some ("; ".intercalate
                  [arrival.event.eventType.name ++ ": " ++ error.message]))) member
              have handled : (arrival.delivery providerName).handle db = .ok (.processed 0
                  [arrival.event.eventType.name ++ ": " ++ error.message], settled) := by
                simp only [Delivery.handle, BillingWebhookService.handle, claim]
                simp only [Arrival.delivery, Faults.stage, each, Result.ok_bind, pure, Except.pure,
                  settle]
              rw [receive, deliver, Delivery.committed, handled]
              exact same.trans (settleWebhook_data settle)
          -- Any other failure rolls the delivery back, the claim included.
          | other error =>
              have handled : (arrival.delivery providerName).handle db = .error (.other error) := by
                simp only [Delivery.handle, BillingWebhookService.handle, claim]
                simp only [Arrival.delivery, Faults.stage, BillingWebhookService.applyAll, outcome,
                  Result.ok_bind, Result.error_bind]
              rw [receive, deliver, Delivery.committed, handled]
              exact Db.SameData.refl db

/-- An arrival leaves the ids of the others unknown. -/
theorem OwnIds.rest (own : OwnIds providerName db (arrival :: arrivals)) :
    OwnIds providerName (receive providerName db arrival) arrivals := by
  have distinct := List.nodup_cons.mp own.distinct
  refine ⟨distinct.2, fun other member known => ?_⟩
  have unknown := own.unknown other (List.mem_cons_of_mem _ member)
  cases delivered (arrival.delivery providerName) db with
  | failed unanswered unchanged =>
      rw [receive, unchanged] at known
      exact unknown known
  | duplicate answered known' unchanged =>
      rw [receive, unchanged] at known
      exact unknown known
  | ingested applies unknown' whole =>
      rcases (whole.ledgered _).mp known with known | same
      · exact unknown known
      · have ids : arrival.providerEventId = other.providerEventId := congrArg Prod.snd same
        exact distinct.1 (List.mem_map.mpr ⟨other, member, ids.symm⟩)

end Receive

end SynapseSaas
