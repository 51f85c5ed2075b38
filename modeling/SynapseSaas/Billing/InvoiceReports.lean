import SynapseSaas.Billing.Arrivals

/-! What a provider's invoice events do to the status of one invoice, in any
order and with any repetition. -/

set_option autoImplicit false

namespace SynapseSaas

/-- The status of the invoice a provider's reference stands for. -/
def Db.reportedStatus (db : Db) (providerName reference : String) : Option InvoiceStatus :=
  (db.providerInvoice providerName reference).map (·.status)

/-- The arrival is an invoice event about this reference. -/
def Arrival.ReportsOn (arrival : Arrival) (reference : String) : Prop :=
  arrival.event.invoiceStatus.isSome ∧ present arrival.event.providerInvoiceId = some reference

/-- The statuses reported by the arrivals whose organization is known. -/
def reports (db : Db) (arrivals : List Arrival) : List InvoiceStatus :=
  arrivals.filterMap fun arrival =>
    (arrival.event.organization db).bind fun _ => arrival.event.invoiceStatus

/-- The invoice came to be, stayed as it was or made a move of the table. -/
def LegalMove : Option InvoiceStatus → Option InvoiceStatus → Prop
  | none, _ => True
  | some _, none => False
  | some before, some after => before = after ∨ after ∈ invoiceTransitions before

/-- The status of the invoice after the first so many arrivals. -/
def statusAt (providerName reference : String) (db : Db) (arrivals : List Arrival) (count : Nat) :
    Option InvoiceStatus :=
  (Runs.reached (receive providerName) db arrivals count).reportedStatus providerName reference

def MovesLegally (providerName reference : String) (db : Db) (arrivals : List Arrival) : Prop :=
  ∀ count, LegalMove (statusAt providerName reference db arrivals count)
    (statusAt providerName reference db arrivals (count + 1))

/-- Every move of the invoice is one of the table, and paid it stays. -/
structure PaidStaysPaid (providerName reference : String) (db : Db) (arrivals : List Arrival) :
    Prop where
  moves : MovesLegally providerName reference db arrivals
  paid : ∀ first second, first ≤ second →
    statusAt providerName reference db arrivals first = some .paid →
    statusAt providerName reference db arrivals second = some .paid

/-- After the first report of a payment or a failure come only the like, and the
reports fit the status the invoice has, if it exists. -/
def InOrder (start : Option InvoiceStatus) (statuses : List InvoiceStatus) : Prop :=
  statuses.Pairwise (fun earlier later => earlier = .open ∨ later = earlier) ∧
    match start with
    | none => True
    | some .draft => ∀ first ∈ statuses.head?, first = .open
    | some status => ∀ report ∈ statuses, status = .open ∨ report = status

theorem inOrder_nil (start : Option InvoiceStatus) : InOrder start [] := by
  refine ⟨.nil, ?_⟩
  split <;> simp

/-- Events report no draft and no void, which is all that is asked of them here. -/
theorem inOrder_cons {start : Option InvoiceStatus} {status : InvoiceStatus}
    {statuses : List InvoiceStatus} (issued : status ≠ .draft) (valid : status ≠ .void) :
    InOrder start (status :: statuses) ↔
      LegalMove start (some status) ∧ InOrder (some status) statuses := by
  have later : InOrder (some status) statuses ↔
      statuses.Pairwise (fun earlier later => earlier = .open ∨ later = earlier) ∧
        ∀ report ∈ statuses, status = .open ∨ report = status := by
    cases status with
    | draft => exact absurd rfl issued
    | «open» | paid | void | uncollectible => rfl
  rw [later]
  simp only [InOrder, List.pairwise_cons]
  cases start with
  | none => simp [LegalMove, and_comm]
  | some before =>
      cases before <;> cases status <;>
        simp_all [LegalMove, invoiceTransitions] <;> grind

section Reports

variable {providerName reference : String} {db : Db} {arrival : Arrival} {arrivals : List Arrival}

theorem Db.SameData.reportedStatus {first second : Db} (same : first.SameData second) :
    second.reportedStatus providerName reference = first.reportedStatus providerName reference := by
  unfold Db.SameData at same
  rw [same]
  rfl

theorem NormalizedBillingEvent.invoiceStatus_issued {event : NormalizedBillingEvent}
    {status : InvoiceStatus} (asked : event.invoiceStatus = some status) :
    status ≠ .draft ∧ status ≠ .void ∧ event.targetStatus = none := by
  cases type : event.eventType <;>
    simp only [NormalizedBillingEvent.invoiceStatus, type, reduceCtorEq, Option.some.injEq] at asked <;>
    simp [NormalizedBillingEvent.targetStatus, type, ← asked]

/-- A report sets the status, whatever it was, and moves no organization. -/
theorem receive_report (unknown : ¬ db.Ledgered (providerName, arrival.providerEventId))
    (about : arrival.ReportsOn reference) :
    (receive providerName db arrival).reportedStatus providerName reference =
        (if (arrival.event.organization db).isSome then arrival.event.invoiceStatus
          else db.reportedStatus providerName reference) ∧
      ∀ event : NormalizedBillingEvent,
        event.organization (receive providerName db arrival) = event.organization db := by
  obtain ⟨asked, referenced⟩ := about
  obtain ⟨status, asked⟩ := Option.isSome_iff_exists.mp asked
  obtain ⟨-, -, untargeted⟩ := NormalizedBillingEvent.invoiceStatus_issued asked
  obtain ⟨claimed, same, outcome⟩ := receive_cases unknown
  have resolved := same.organization arrival.event
  simp only [BillingWebhookService.apply, resolved, untargeted, asked] at outcome
  cases known : arrival.event.organization db with
  -- An event of no organization is left out.
  | none =>
      simp only [known, Except.ok.injEq, reduceCtorEq, exists_false, false_and, or_false] at outcome
      obtain ⟨next, rfl, received⟩ := outcome
      exact ⟨by simp [(same.trans received).reportedStatus], (same.trans received).organization⟩
  | some organization =>
      simp only [known] at outcome
      rcases outcome with ⟨next, stored, received⟩ | ⟨⟨failure, failed⟩, -⟩
      · have effect : next.reportedStatus providerName reference = some status ∧
            ∀ event : NormalizedBillingEvent, event.organization next = event.organization claimed := by
          obtain ⟨customer, ⟨old, -, writes⟩ | ⟨-, inserts⟩⟩ :=
            BillingWebhookService.upsertInvoice_cases referenced stored
          · have found := BillingWebhookService.providerInvoice_eq_some.mpr
              ⟨(writes.mem _).mpr (.inl rfl), rfl, rfl⟩
            exact ⟨by rw [Db.reportedStatus, found]; rfl, fun event => by rw [writes.rest]; rfl⟩
          · have here : _ ∈ next.invoices.rows :=
              inserts.rows ▸ List.mem_append_right _ (List.mem_singleton_self _)
            have found := BillingWebhookService.providerInvoice_eq_some.mpr ⟨here, rfl, rfl⟩
            exact ⟨by rw [Db.reportedStatus, found]; rfl, fun event => by rw [inserts.rest]; rfl⟩
        refine ⟨?_, fun event => ?_⟩
        · rw [received.reportedStatus, effect.1, asked]
          rfl
        · rw [received.organization, effect.2, same.organization]
      -- A report is never refused, so this case cannot arise.
      · have accepts : ∃ next, BillingWebhookService.upsertInvoice arrival.env providerName claimed
            organization arrival.event status = .ok next :=
          BillingWebhookService.upsertInvoice_accepts referenced
        rw [failed] at accepts
        obtain ⟨_, ⟨⟩⟩ := accepts

/-- The first move of a run, and the moves of the rest. -/
theorem movesLegally_cons :
    MovesLegally providerName reference db (arrival :: arrivals) ↔
      LegalMove (db.reportedStatus providerName reference)
          ((receive providerName db arrival).reportedStatus providerName reference) ∧
        MovesLegally providerName reference (receive providerName db arrival) arrivals := by
  constructor
  · exact fun moves => ⟨moves 0, fun count => moves (count + 1)⟩
  · rintro ⟨first, later⟩ count
    cases count with
    | zero => exact first
    | succ count => exact later count

theorem legalMove_refl (status : Option InvoiceStatus) : LegalMove status status := by
  cases status with
  | none => trivial
  | some status => exact .inl rfl

theorem movesLegally_iff (own : OwnIds providerName db arrivals)
    (about : ∀ arrival ∈ arrivals, arrival.ReportsOn reference) :
    MovesLegally providerName reference db arrivals ↔
      InOrder (db.reportedStatus providerName reference) (reports db arrivals) := by
  induction arrivals generalizing db with
  | nil =>
      refine iff_of_true (fun count => ?_) (inOrder_nil _)
      simp [statusAt, Runs.reached, legalMove_refl]
  | cons arrival rest ih =>
      obtain ⟨status, kept⟩ := receive_report (own.unknown arrival (by simp))
        (about arrival (by simp))
      have tail := ih own.rest fun other member => about other (List.mem_cons_of_mem _ member)
      -- Receiving a report changes no owner, so the later reports stay the same.
      have same : reports (receive providerName db arrival) rest = reports db rest := by
        simp only [reports, kept]
      rw [movesLegally_cons, tail, same, status]
      obtain ⟨asked, -⟩ := about arrival (by simp)
      obtain ⟨report, asked⟩ := Option.isSome_iff_exists.mp asked
      obtain ⟨issued, valid, -⟩ := NormalizedBillingEvent.invoiceStatus_issued asked
      cases organization : arrival.event.organization db with
      | none => simp [reports, organization, legalMove_refl]
      | some organization =>
          have head : reports db (arrival :: rest) = report :: reports db rest := by
            simp [reports, organization, asked]
          rw [head, inOrder_cons issued valid]
          simp [asked]

/-- Moves of the table never leave paid. -/
theorem MovesLegally.paid (moves : MovesLegally providerName reference db arrivals)
    (first second : Nat) (before : first ≤ second)
    (paid : statusAt providerName reference db arrivals first = some .paid) :
    statusAt providerName reference db arrivals second = some .paid := by
  induction second, before using Nat.le_induction with
  | base => exact paid
  | succ second before ih =>
      have move := moves second
      rw [ih] at move
      cases after : statusAt providerName reference db arrivals (second + 1) with
      | none => simp [after, LegalMove] at move
      | some status =>
          simp only [after, LegalMove, invoiceTransitions, List.not_mem_nil, or_false] at move
          rw [← move]

/-- The events of one invoice keep to the table, and keep it paid, exactly when
they arrive in order. -/
theorem paid_stays_paid_iff (own : OwnIds providerName db arrivals)
    (about : ∀ arrival ∈ arrivals, arrival.ReportsOn reference) :
    PaidStaysPaid providerName reference db arrivals ↔
      InOrder (db.reportedStatus providerName reference) (reports db arrivals) := by
  rw [← movesLegally_iff own about]
  exact ⟨PaidStaysPaid.moves, fun moves => ⟨moves, moves.paid⟩⟩

end Reports

/-! An invoice that is created and paid, and a failure reported late. -/

def invoiceArrival (providerEventId : String) (eventType : BillingEventType) : Arrival :=
  ⟨providerEventId, { now := day }, noApi,
    { subscriptionEvent eventType with providerInvoiceId := some "in_1", amountCents := some 1000 }⟩

theorem paid_stays_paid_iff_created_paid :
    PaidStaysPaid "stripe" "in_1" (sampleDb (sampleSubscription 0))
        [invoiceArrival "evt_1" .invoiceCreated, invoiceArrival "evt_2" .invoicePaid] ↔
      InOrder none [.open, .paid] :=
  paid_stays_paid_iff ⟨by decide, by decide⟩ (by simp [Arrival.ReportsOn]; decide)

theorem late_failure_unpays_invoice :
    ¬ PaidStaysPaid "stripe" "in_1" (sampleDb (sampleSubscription 0))
      [invoiceArrival "evt_1" .invoicePaid, invoiceArrival "evt_2" .invoiceFailed] := by
  intro kept
  have paid := kept.paid 1 2 (by omega) (by decide)
  exact absurd paid (by decide)

end SynapseSaas
