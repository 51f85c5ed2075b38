import SynapseSaas.Billing.PlanChanges
import SynapseSaas.Worker.Renewals
import Mathlib.Algebra.BigOperators.Group.Multiset.Basic
import Mathlib.Tactic.Abel

/-! Conservation of queued corrections over the operations of one organization.

A correction is held by the queue of the occupying subscription or by a line of
an invoice that is not void. The books pair the database with everything that
was ever queued; nothing the code runs reads the second component. -/

set_option autoImplicit false

namespace SynapseSaas

def InvoiceLine.correction (line : InvoiceLine) : Bool := line.kind = .credit ∨ line.kind = .custom

/-- The corrections an invoice counts for an organization. -/
def Invoice.corrections (invoice : Invoice) (organization : Nat) : Multiset InvoiceLine :=
  if invoice.organizationId = organization ∧ invoice.status ≠ .void then
    invoice.lines.filter (·.correction)
  else 0

def Db.pendingOf (db : Db) (organization : Nat) : List Adjustment :=
  ((db.currentForOrg organization).map (·.pendingAdjustments)).getD []

def Db.booked (db : Db) (organization : Nat) : Multiset InvoiceLine :=
  (db.invoices.rows.map (·.corrections organization)).sum

structure Books where
  db : Db
  queued : List Adjustment

/-- The corrections queued or booked. -/
def Db.held (db : Db) (organization : Nat) : Multiset InvoiceLine :=
  adjustmentLines (db.pendingOf organization) + db.booked organization

/-- Everything queued is held exactly once. -/
def Conserved (organization : Nat) (books : Books) : Prop :=
  adjustmentLines books.queued = books.db.held organization

instance (organization : Nat) (books : Books) : Decidable (Conserved organization books) :=
  inferInstanceAs (Decidable (_ = _))

/-- What a draft just made has queued: it drained the queue, so all that is there. -/
def carried (db next : Db) (organization : Nat) (period : Int) : List Adjustment :=
  if db.draftsFor organization period = [] then next.pendingOf organization else []

inductive Command where
  | changePlan (env : Env) (provider : Provider) (planKey : String)
  | draft (env : Env) (period : Option Int)
  | finalize (now : Int) (invoiceId : Nat)
  | recordPayment (now : Int) (invoiceId : Nat) (amountCents : Int) (reference : Option String)
  | void (invoiceId : Nat)
  | startTrial (now : Int) (planKey : String) (trialDays : Option Nat)
  | cancel (now : Int) (atPeriodEnd : Bool)
  | renewal (env : Env)

/-- The renewal of an organization's subscription, if the job would claim it. -/
def renewOccupying (env : Env) (db : Db) (organization : Nat) : Result (Db × List Adjustment) :=
  match db.currentForOrg organization with
  | none => .ok (db, [])
  | some subscription =>
      if subscription.due env.now then do
        let next ← renewLocallyBilled env db subscription
        return (next, if subscription.billable then
          carried db next organization subscription.billedPeriod else [])
      else .ok (db, [])

/-- One request, with what it queued. -/
def serve (organization : Nat) (db : Db) : Command → Result (Db × List Adjustment)
  | .changePlan env provider planKey => do
      let (_, adjustment, next) ← BillingService.changePlan env provider db organization planKey
      return (next, adjustment.toList)
  | .draft env period => do
      let (_, next) ← InvoicingService.draftForOrg env db organization period
      return (next, carried db next organization (period.getD (monthBucket env.now)))
  | .finalize now invoiceId => do
      let (_, next) ← InvoicingService.finalize now db invoiceId organization
      return (next, [])
  | .recordPayment now invoiceId amountCents reference => do
      let (_, next) ← InvoicingService.recordPayment now db invoiceId organization amountCents
        reference
      return (next, [])
  | .void invoiceId => do
      let (_, next) ← InvoicingService.void db invoiceId organization
      return (next, [])
  | .startTrial now planKey trialDays => do
      let (_, next) ← SubscriptionService.startTrial db now organization planKey trialDays
      return (next, [])
  | .cancel now atPeriodEnd => do
      let (_, next) ← SubscriptionService.cancel db now organization atPeriodEnd
      return (next, [])
  | .renewal env => renewOccupying env db organization

def keepBooks (organization : Nat) : Books → Command → Books :=
  Transaction.requests fun books command => do
    let (db, queued) ← serve organization books.db command
    return ⟨db, books.queued ++ queued⟩

/-- The corrections whose holder a command ends, if it is accepted. -/
def retired (organization : Nat) (db : Db) : Command → Multiset InvoiceLine
  | .void invoiceId => ((db.invoices.get invoiceId).map (·.corrections organization)).getD 0
  | .startTrial _ _ _ | .cancel _ false => adjustmentLines (db.pendingOf organization)
  | _ => 0

/-- A trial request the service grants. -/
def Db.grantsTrial (db : Db) (organization : Nat) (planKey : String) (trialDays : Option Nat) : Prop :=
  (∃ plan, db.planByKey planKey = .ok plan ∧ (plan.trialDays ≠ 0 ∨ trialDays.isSome)) ∧
    ∀ existing, db.currentForOrg organization = some existing → existing.status ≠ .trialing

/-- The operations that retire the holder of a correction find none there. -/
def RetiresNothing (organization : Nat) (books : Books) : Command → Prop
  | .void invoiceId => ∀ invoice, books.db.getScoped invoiceId organization = .ok invoice →
      (invoice.status = .draft ∨ invoice.status = .open) → invoice.corrections organization = 0
  | .startTrial _ planKey trialDays => books.db.grantsTrial organization planKey trialDays →
      adjustmentLines (books.db.pendingOf organization) = []
  | .cancel _ atPeriodEnd =>
      atPeriodEnd = false → adjustmentLines (books.db.pendingOf organization) = []
  | _ => True

section Lines

@[simp] theorem adjustmentLines_nil : adjustmentLines [] = [] := rfl

theorem adjustmentLines_append (first second : List Adjustment) :
    adjustmentLines (first ++ second) = adjustmentLines first ++ adjustmentLines second := by
  simp [adjustmentLines]

theorem overageLines_kind {effective : EffectiveEntitlements} {db : Db} {organization : Nat}
    {period : Int} {line : InvoiceLine}
    (member : line ∈ overageLines effective db organization period) : line.kind = .overage := by
  simp only [overageLines, List.mem_filterMap] at member
  obtain ⟨⟨metric, limit⟩, -, some⟩ := member
  simp only [overageLine] at some
  split at some
  · split at some
    · cases some
    · cases some
      rfl
  · cases some

/-- The corrections among the lines of a draft are the queue it drained. -/
theorem draftLines_corrections (effective : EffectiveEntitlements) (db : Db)
    (subscription : Subscription) (period : Int) :
    (draftLines effective db subscription period).filter (·.correction) =
      adjustmentLines subscription.pendingAdjustments := by
  have plan : (planLines subscription).filter (·.correction) = [] := by
    simp only [planLines]
    split <;> simp [InvoiceLine.correction]
  have overage : (overageLines effective db subscription.organizationId period).filter
      (·.correction) = [] := by
    rw [List.filter_eq_nil_iff]
    intro line member
    simp [InvoiceLine.correction, overageLines_kind member]
  have adjustment : (adjustmentLines subscription.pendingAdjustments).filter (·.correction) =
      adjustmentLines subscription.pendingAdjustments := by
    rw [List.filter_eq_self]
    intro line member
    simp only [adjustmentLines, List.mem_map] at member
    obtain ⟨entry, -, rfl⟩ := member
    simp only [InvoiceLine.correction, Adjustment.line]
    split <;> rfl
  rw [draftLines, List.filter_append, List.filter_append, plan, overage, adjustment]
  rfl

end Lines

section Holders

variable {db next : Db} {organization : Nat}

theorem booked_writes (organization : Nat) {old new : Invoice}
    (writes : db.WritesInvoice old new next) :
    db.booked organization + new.corrections organization =
      next.booked organization + old.corrections organization := by
  obtain ⟨others, before, after⟩ := writes.perm
  rw [Db.booked, Db.booked, (before.map _).sum_eq, (after.map _).sum_eq]
  simp only [List.map_cons, List.sum_cons]
  abel

theorem booked_inserts {new : Invoice} (inserts : db.InsertsInvoice new next) :
    next.booked organization = db.booked organization + new.corrections organization := by
  simp [Db.booked, inserts.rows]

theorem pendingOf_eq {subscription : Subscription}
    (current : db.currentForOrg organization = some subscription) :
    db.pendingOf organization = subscription.pendingAdjustments := by
  simp [Db.pendingOf, current]

theorem pendingOf_none (vacant : db.currentForOrg organization = none) :
    db.pendingOf organization = [] := by
  simp [Db.pendingOf, vacant]

theorem booked_eq (invoices : next.invoices = db.invoices) :
    next.booked organization = db.booked organization := by
  rw [Db.booked, invoices, Db.booked]

/-- Opening, paying: a change of status that does not void leaves the lines counted. -/
theorem booked_reopened (organization : Nat) {old new : Invoice} (writes : db.WritesInvoice old new next)
    (same : new.organizationId = old.organizationId) (lines : new.lines = old.lines)
    (before : old.status ≠ .void) (after : new.status ≠ .void) :
    next.booked organization = db.booked organization := by
  have counted : new.corrections organization = old.corrections organization := by
    simp [Invoice.corrections, same, lines, before, after]
  have moved := booked_writes organization writes
  rw [counted] at moved
  exact (add_right_cancel moved).symm

theorem held_eq (subscriptions : next.subscriptions = db.subscriptions)
    (booked : next.booked organization = db.booked organization) :
    next.held organization = db.held organization := by
  have current : next.currentForOrg organization = db.currentForOrg organization := by
    rw [Db.currentForOrg, subscriptions, Db.currentForOrg]
  rw [Db.held, Db.held, booked, Db.pendingOf, current, Db.pendingOf]

end Holders

section Operations

variable {env : Env} {provider : Provider} {db next : Db} {organization : Nat}
  {subscription : Subscription}

/-- Switching the plan carries the queue over. -/
theorem changePlan_keeps_queue {now : Int} {planKey : String}
    {providerName providerSubscriptionId : Option String} {keepPeriod : Bool}
    (changed : SubscriptionService.changePlan db now organization planKey providerName
      providerSubscriptionId keepPeriod = .ok (subscription, next)) :
    next.currentForOrg organization = some subscription ∧
      subscription.pendingAdjustments = db.pendingOf organization ∧ next.invoices = db.invoices := by
  obtain ⟨plan, -, ⟨vacant, inserts, rfl⟩ | ⟨existing, current, writes, rfl⟩⟩ :=
    SubscriptionService.changePlan_cases changed
  · exact ⟨inserts.current rfl, (pendingOf_none vacant).symm, inserts.invoices⟩
  · have mine := (Db.currentForOrg_eq_some.mp current).2.1
    refine ⟨?_, (pendingOf_eq current).symm, writes.invoices⟩
    rw [← mine]
    exact writes.current rfl

theorem changePlan_queues {planKey : String} {adjustment : Option Adjustment}
    (changed : BillingService.changePlan env provider db organization planKey =
      .ok (subscription, adjustment, next)) :
    next.pendingOf organization = db.pendingOf organization ++ adjustment.toList ∧
      next.invoices = db.invoices := by
  obtain ⟨reference, keepPeriod, moved, mid, switched, ⟨rfl, rfl, rfl⟩ | ⟨queued, rfl, writes, rfl⟩⟩ :=
    BillingService.changePlan_cases changed
  all_goals obtain ⟨current, waiting, invoices⟩ := changePlan_keeps_queue switched
  · exact ⟨by rw [pendingOf_eq current, waiting]; simp, invoices⟩
  · obtain ⟨-, mine, occupying⟩ := Db.currentForOrg_eq_some.mp current
    have now_current := writes.current occupying
    rw [show moved.organizationId = organization from mine] at now_current
    exact ⟨by rw [pendingOf_eq now_current, waiting]; rfl, writes.invoices.trans invoices⟩

/-- A new draft leaves its carryover in the queue. -/
theorem pendingOf_drafted {invoice : Invoice} {lines : List InvoiceLine}
    {mid : Db} (current : db.currentForOrg organization = some subscription)
    (drains : db.WritesSubscription subscription
      { subscription with pendingAdjustments := carryover env.now lines } mid)
    (inserts : mid.InsertsInvoice invoice next) :
    next.pendingOf organization = carryover env.now lines := by
  obtain ⟨-, mine, occupying⟩ := Db.currentForOrg_eq_some.mp current
  have now_current := drains.current occupying
  rw [Db.currentForOrg, ← inserts.subscriptions, ← Db.currentForOrg,
    show ({ subscription with pendingAdjustments := carryover env.now lines } :
      Subscription).organizationId = organization from mine] at now_current
  exact pendingOf_eq now_current

/-- A new draft books the queue and queues its carryover. -/
theorem draft_balance {period : Option Int} {invoice : Invoice}
    (drafted : InvoicingService.draftForOrg env db organization period = .ok (invoice, next)) :
    next.held organization = db.held organization +
      adjustmentLines (carried db next organization (period.getD (monthBucket env.now))) := by
  rcases InvoicingService.draftForOrg_cases drafted with
    ⟨found, rfl⟩ | ⟨absent, subscription, lines, mid, current, lines_eq, drains, inserts, invoice_eq⟩
  · simp [carried, found]
  · obtain ⟨-, mine, -⟩ := Db.currentForOrg_eq_some.mp current
    have queue := pendingOf_drafted current drains inserts
    have counted : invoice.corrections organization = adjustmentLines subscription.pendingAdjustments := by
      have status : invoice.status ≠ .void := by simp [invoice_eq, draftInvoice]
      have owner : invoice.organizationId = organization := by rw [invoice_eq, ← mine]; rfl
      rw [Invoice.corrections, if_pos ⟨owner, status⟩, invoice_eq]
      simp only [draftInvoice, lines_eq, draftLines_corrections]
    rw [carried, if_pos absent, Db.held, Db.held, booked_inserts inserts, booked_eq drains.invoices,
      counted, queue, pendingOf_eq current]
    abel

/-- A renewal opens an existing draft, or books the queue like any new draft. -/
theorem renewal_balance
    (current : db.currentForOrg subscription.organizationId = some subscription)
    (renewed : renewLocallyBilled env db subscription = .ok next) :
    next.held subscription.organizationId = db.held subscription.organizationId +
      adjustmentLines (if subscription.billable then
        carried db next subscription.organizationId subscription.billedPeriod else []) := by
  have occupying := (Db.currentForOrg_eq_some.mp current).2.2
  -- The roll keeps the queue of whichever row it starts from.
  have queue {before : Db} {drained : Subscription} (writes : before.WritesSubscription drained
      drained.rolled next) (same : drained.organizationId = subscription.organizationId)
      (status : drained.status = subscription.status) :
      next.pendingOf subscription.organizationId = drained.pendingAdjustments := by
    have now_current := writes.current (by rw [← status] at occupying; exact occupying)
    rw [show drained.rolled.organizationId = subscription.organizationId from same] at now_current
    exact (pendingOf_eq now_current).trans rfl
  cases renewLocallyBilled_renewed current renewed with
  | unbilled idle rolls =>
      rw [Db.held, Db.held, queue rolls rfl rfl, pendingOf_eq current, booked_eq rolls.invoices, idle]
      simp
  -- A draft was there already: opening it books its lines, and the queue waits on.
  | @reused draft opened mid billable found opened_eq finalizes rolls =>
      have located : draft ∈ db.draftsFor subscription.organizationId subscription.billedPeriod := by
        simp [found]
      obtain ⟨-, -, status, -⟩ := InvoicingService.mem_draftsFor.mp located
      have booked := booked_reopened subscription.organizationId finalizes (opened_eq ▸ rfl)
        (opened_eq ▸ rfl) (by simp [status]) (by simp [opened_eq, Invoice.finalized])
      rw [Db.held, Db.held, queue rolls rfl rfl, pendingOf_eq current, booked_eq rolls.invoices,
        booked, if_pos billable, carried, found]
      simp
  -- The queue goes into the new draft; a negative total comes back as a carryover.
  | @drafted lines drained draft opened mid drafting finalizing billable absent lines_eq drained_eq
      drains draft_eq drafts opened_eq finalizes rolls =>
      have booked := booked_reopened subscription.organizationId finalizes (opened_eq ▸ rfl)
        (opened_eq ▸ rfl) (by simp [draft_eq, draftInvoice]) (by simp [opened_eq, Invoice.finalized])
      have counted : draft.corrections subscription.organizationId =
          adjustmentLines subscription.pendingAdjustments := by
        rw [Invoice.corrections, if_pos (by simp [draft_eq, draftInvoice]), draft_eq]
        simp only [draftInvoice, lines_eq, draftLines_corrections]
      rw [if_pos billable, carried, if_pos absent, Db.held, Db.held, pendingOf_eq current,
        booked_eq rolls.invoices, booked, booked_inserts drafts, booked_eq drains.invoices, counted]
      abel

theorem startTrial_balance {now : Int} {planKey : String} {trialDays : Option Nat}
    (started : SubscriptionService.startTrial db now organization planKey trialDays =
      .ok (subscription, next)) :
    next.held organization + adjustmentLines (db.pendingOf organization) = db.held organization := by
  obtain ⟨plan, mid, -, -, ended, inserts, rfl, status, empty⟩ :=
    SubscriptionService.startTrial_cases started
  have now_current := inserts.current (by rw [status]; rfl)
  have invoices : mid.invoices = db.invoices := by
    rcases ended with ⟨-, rfl⟩ | ⟨existing, -, -, writes⟩
    · rfl
    · exact writes.invoices
  rw [Db.held, Db.held, pendingOf_eq now_current, empty,
    booked_eq (inserts.invoices.trans invoices)]
  simp [add_comm]

theorem cancel_balance {now : Int} {atPeriodEnd : Bool}
    (canceled : SubscriptionService.cancel db now organization atPeriodEnd =
      .ok (subscription, next)) :
    next.held organization + (if atPeriodEnd then 0
      else (adjustmentLines (db.pendingOf organization) : Multiset InvoiceLine)) =
      db.held organization := by
  obtain ⟨existing, current, writes, rfl⟩ := SubscriptionService.cancel_cases canceled
  obtain ⟨-, rfl, occupying⟩ := Db.currentForOrg_eq_some.mp current
  cases atPeriodEnd with
  | true =>
      have now_current := writes.current occupying
      rw [Db.held, Db.held, booked_eq writes.invoices, pendingOf_eq current]
      rw [show next.pendingOf existing.organizationId = existing.pendingAdjustments from
        (pendingOf_eq now_current).trans rfl]
      simp
  | false =>
      have vacated := writes.vacated occupying (by simp [Subscription.ended, Status.occupying])
      rw [Db.held, Db.held, booked_eq writes.invoices, pendingOf_none vacated]
      simp [add_comm]

theorem void_balance {id : Nat} {invoice : Invoice}
    (voided : InvoicingService.void db id organization = .ok (invoice, next)) :
    ∃ old, db.getScoped id organization = .ok old ∧
      next.held organization + old.corrections organization = db.held organization := by
  obtain ⟨old, located, -, -, rfl, writes⟩ := InvoicingService.void_cases voided
  refine ⟨old, located, ?_⟩
  have moved := booked_writes organization writes
  have counted : ({ old with status := .void } : Invoice).corrections organization = 0 := by
    simp [Invoice.corrections]
  rw [counted, add_zero] at moved
  have current : next.currentForOrg organization = db.currentForOrg organization := by
    rw [Db.currentForOrg, writes.subscriptions, Db.currentForOrg]
  rw [Db.held, Db.held, moved, Db.pendingOf, current, Db.pendingOf]
  abel

theorem finalize_balance {now : Int} {id : Nat} {invoice : Invoice}
    (done : InvoicingService.finalize now db id organization = .ok (invoice, next)) :
    next.held organization = db.held organization := by
  obtain ⟨old, -, ⟨-, -, rfl⟩ | ⟨status, rfl, writes⟩⟩ := InvoicingService.finalize_cases done
  · rfl
  · exact held_eq writes.subscriptions (booked_reopened organization writes rfl rfl (by simp [status])
      (by simp [Invoice.finalized]))

theorem recordPayment_balance {now amountCents : Int} {id : Nat} {reference : Option String}
    {invoice : Invoice} (done : InvoicingService.recordPayment now db id organization amountCents
      reference = .ok (invoice, next)) :
    next.held organization = db.held organization := by
  obtain ⟨old, -, status, -, rfl, writes⟩ := InvoicingService.recordPayment_cases done
  exact held_eq writes.subscriptions (booked_reopened organization writes rfl rfl
    (by rcases status with status | status <;> simp [status]) (by simp))

/-- Every accepted request moves what it queued in, and only what it retires out. -/
theorem serve_balance {command : Command} {queued : List Adjustment}
    (served : serve organization db command = .ok (next, queued)) :
    next.held organization + retired organization db command =
      db.held organization + adjustmentLines queued := by
  -- Only voiding, a trial and an immediate cancellation retire anything.
  cases command with
  | changePlan env provider planKey =>
      obtain ⟨⟨subscription, adjustment, after⟩, changed, done⟩ := Result.bind_eq_ok.mp served
      cases done
      obtain ⟨queue, invoices⟩ := changePlan_queues changed
      simp only [retired, Db.held, queue, booked_eq invoices, adjustmentLines_append,
        ← Multiset.coe_add]
      abel
  | draft env period =>
      obtain ⟨⟨invoice, after⟩, drafted, done⟩ := Result.bind_eq_ok.mp served
      cases done
      exact (add_zero _).trans (draft_balance drafted)
  | finalize now invoiceId =>
      obtain ⟨⟨invoice, after⟩, finalized, done⟩ := Result.bind_eq_ok.mp served
      cases done
      simp [retired, finalize_balance finalized]
  | recordPayment now invoiceId amountCents reference =>
      obtain ⟨⟨invoice, after⟩, paid, done⟩ := Result.bind_eq_ok.mp served
      cases done
      simp [retired, recordPayment_balance paid]
  | void invoiceId =>
      obtain ⟨⟨invoice, after⟩, voided, done⟩ := Result.bind_eq_ok.mp served
      cases done
      obtain ⟨old, located, balance⟩ := void_balance voided
      obtain ⟨member, same, -⟩ := InvoicingService.getScoped_eq_ok.mp located
      simp [retired, show db.invoices.get invoiceId = some old from
        Table.get_eq_some.mpr ⟨member, same⟩, balance]
  | startTrial now planKey trialDays =>
      obtain ⟨⟨subscription, after⟩, started, done⟩ := Result.bind_eq_ok.mp served
      cases done
      simp [retired, startTrial_balance started]
  | cancel now atPeriodEnd =>
      obtain ⟨⟨subscription, after⟩, canceled, done⟩ := Result.bind_eq_ok.mp served
      cases done
      have balance := cancel_balance canceled
      cases atPeriodEnd <;> simpa [retired] using balance
  | renewal env =>
      simp only [serve, renewOccupying] at served
      split at served
      · cases served
        simp [retired]
      · next subscription current =>
          split at served
          · obtain ⟨after, renewed, done⟩ := Result.bind_eq_ok.mp served
            cases done
            obtain ⟨-, rfl, -⟩ := Db.currentForOrg_eq_some.mp current
            exact (add_zero _).trans (renewal_balance current renewed)
          · cases served
            simp [retired]

end Operations

section Acceptance

variable {db : Db} {organization : Nat}

/-- Voiding a draft or an open invoice is never refused. -/
theorem void_accepts {id : Nat} {invoice : Invoice}
    (located : db.getScoped id organization = .ok invoice)
    (status : invoice.status = .draft ∨ invoice.status = .open) :
    ∃ result, InvoicingService.void db id organization = .ok result := by
  have member := (InvoicingService.getScoped_eq_ok.mp located).1
  obtain ⟨next, put⟩ : ∃ next, db.putInvoice { invoice with status := .void } = .ok next :=
    Db.putInvoice_accepts member rfl fun _ held => held
  have legal : assertInvoiceTransition invoice.status .void = .ok () := by
    rcases status with status | status <;> rw [status] <;> rfl
  exact ⟨_, Result.bind_eq_ok.mpr ⟨invoice, located, Result.bind_eq_ok.mpr ⟨(), legal,
    Result.bind_eq_ok.mpr ⟨next, put, rfl⟩⟩⟩⟩

/-- Ending a subscription claims no index entry it did not hold. -/
theorem put_ended_accepts (now : Int) {subscription : Subscription}
    (member : subscription ∈ db.subscriptions.rows) :
    ∃ next, db.putSubscription (subscription.ended now) = .ok next :=
  Db.putSubscription_accepts member rfl fun _ held => List.mem_append_right _ held

theorem cancel_accepts (now : Int) {subscription : Subscription}
    (current : db.currentForOrg organization = some subscription) :
    ∃ result, SubscriptionService.cancel db now organization false = .ok result := by
  obtain ⟨next, put⟩ := put_ended_accepts now (Db.currentForOrg_eq_some.mp current).1
  have legal : assertTransition subscription.status "canceled" = .ok .canceled :=
    assertTransition_eq_ok.mpr ⟨rfl, canTransition_canceled _⟩
  exact ⟨_, Result.bind_eq_ok.mpr ⟨subscription,
    SubscriptionService.requireCurrent_eq_ok.mpr current, Result.bind_eq_ok.mpr ⟨_, legal,
      Result.bind_eq_ok.mpr ⟨next, put, rfl⟩⟩⟩⟩

/-- A trial can be inserted once the organization has no occupying subscription. -/
theorem createTrial_accepts (now trialEnd : Int) (plan : Plan)
    (vacant : db.currentForOrg organization = none) :
    ∃ result, SubscriptionService.createSubscription db now organization plan .trialing (some now)
      (some trialEnd) (some trialEnd) none none = .ok result := by
  have free : ∀ row ∈ db.subscriptions.rows, ∀ key ∈ row.keys,
      key ∉ [SubscriptionKey.occupies organization] := by
    intro row member key held here
    rw [List.mem_singleton.mp here, row.occupies_mem_keys] at held
    exact Db.currentForOrg_eq_none.mp vacant row member held.2 held.1
  obtain ⟨table, insert⟩ := Table.insert_accepted db.subscriptions
    (newSubscription now organization plan .trialing (some now) (some trialEnd) (some trialEnd)
      none none) rfl free
  exact ⟨_, Result.bind_eq_ok.mpr ⟨_, write_eq_ok.mpr ⟨table, insert, rfl⟩, rfl⟩⟩

theorem startTrial_accepts (now : Int) {planKey : String} {trialDays : Option Nat}
    {subscription : Subscription} (current : db.currentForOrg organization = some subscription)
    (granted : db.grantsTrial organization planKey trialDays) :
    ∃ result, SubscriptionService.startTrial db now organization planKey trialDays = .ok result := by
  obtain ⟨⟨plan, found, allowed⟩, fresh⟩ := granted
  obtain ⟨member, mine, occupying⟩ := Db.currentForOrg_eq_some.mp current
  obtain ⟨mid, put⟩ := put_ended_accepts now member
  have writes := Db.putSubscription_writes put member rfl
  have vacated := writes.vacated occupying (by simp [Subscription.ended, Status.occupying])
  rw [mine] at vacated
  -- With the old row ended, the index on occupying rows has room for the trial.
  obtain ⟨result, created⟩ := createTrial_accepts now
    (now + (trialDays.getD plan.trialDays) * day) plan vacated
  have legal : assertTransition subscription.status "canceled" = .ok .canceled :=
    assertTransition_eq_ok.mpr ⟨rfl, canTransition_canceled _⟩
  have ended : SubscriptionService.endCurrent db now organization = .ok mid := by
    simp only [SubscriptionService.endCurrent, current, if_neg (fresh subscription current)]
    exact Result.bind_eq_ok.mpr ⟨_, legal, put⟩
  have permitted : ¬ (plan.trialDays = 0 ∧ trialDays.isNone) := by
    rintro ⟨zero, none⟩
    rcases allowed with positive | given
    · exact positive zero
    · cases trialDays <;> simp_all
  refine ⟨result, Result.bind_eq_ok.mpr ⟨plan, found, ?_⟩⟩
  rw [if_neg permitted]
  exact Result.bind_eq_ok.mpr ⟨mid, ended, created⟩

end Acceptance

section Runs

variable {organization : Nat}

/-- A request that went through meets the condition iff it retired no correction. -/
theorem retiresNothing_iff_of_ok {books : Books} {command : Command}
    {result : Db × List Adjustment} (served : serve organization books.db command = .ok result) :
    RetiresNothing organization books command ↔ retired organization books.db command = 0 := by
  cases command with
  | void invoiceId =>
      obtain ⟨⟨voided, after⟩, done, -⟩ := Result.bind_eq_ok.mp served
      obtain ⟨old, located, unpaid, collectible, -⟩ := InvoicingService.void_cases done
      obtain ⟨member, same, -⟩ := InvoicingService.getScoped_eq_ok.mp located
      have found : books.db.invoices.get invoiceId = some old :=
        Table.get_eq_some.mpr ⟨member, same⟩
      simp only [RetiresNothing, retired, located, found, Except.ok.injEq, forall_eq',
        Option.map_some, Option.getD_some]
      cases status : old.status with
      | draft | «open» => simp
      | void => simp [Invoice.corrections, status]
      | paid => exact absurd status unpaid
      | uncollectible => exact absurd status collectible
  -- What was started was granted, so the condition is about the queue alone.
  | startTrial now planKey trialDays =>
      obtain ⟨⟨subscription, after⟩, started, -⟩ := Result.bind_eq_ok.mp served
      obtain ⟨plan, mid, found, permitted, ended, -⟩ := SubscriptionService.startTrial_cases started
      simp only [RetiresNothing, retired, Multiset.coe_eq_zero]
      have granted : books.db.grantsTrial organization planKey trialDays := by
        refine ⟨⟨plan, found, permitted⟩, fun existing current => ?_⟩
        rcases ended with ⟨vacant, -⟩ | ⟨other, current', fresh, -⟩
        · rw [vacant] at current
          cases current
        · rw [current'] at current
          cases current
          exact fresh
      exact ⟨fun empty => empty granted, fun empty _ => empty⟩
  | cancel now atPeriodEnd =>
      cases atPeriodEnd <;> simp [RetiresNothing, retired]
  | changePlan | draft | finalize | recordPayment | renewal => simp [RetiresNothing, retired]

/-- A request that is refused would have retired nothing. -/
theorem retiresNothing_of_error {books : Books} {command : Command} {failure : Failure}
    (refused : serve organization books.db command = .error failure) :
    RetiresNothing organization books command := by
  -- The commands with a condition are accepted wherever it applies, so none of
  -- them was refused.
  have rejected {α : Type} {operation : Result α} {next : α → Result (Db × List Adjustment)}
      (accepts : ∃ result, operation = .ok result) (continues : ∀ value, ∃ result, next value = .ok result)
      (failed : (operation >>= next) = .error failure) : False := by
    obtain ⟨value, ok⟩ := accepts
    obtain ⟨result, done⟩ := continues value
    rw [Result.bind_eq_ok.mpr ⟨value, ok, done⟩] at failed
    cases failed
  cases command with
  | void invoiceId =>
      intro invoice located status
      exact (rejected (void_accepts located status) (fun value => ⟨_, rfl⟩) refused).elim
  | startTrial now planKey trialDays =>
      intro granted
      cases current : books.db.currentForOrg organization with
      | none => rw [pendingOf_none current, adjustmentLines_nil]
      | some subscription =>
          exact (rejected (startTrial_accepts now current granted) (fun value => ⟨_, rfl⟩)
            refused).elim
  | cancel now atPeriodEnd =>
      rintro rfl
      cases current : books.db.currentForOrg organization with
      | none => rw [pendingOf_none current, adjustmentLines_nil]
      | some subscription =>
          exact (rejected (cancel_accepts now current) (fun value => ⟨_, rfl⟩) refused).elim
  | changePlan | draft | finalize | recordPayment | renewal => trivial

/-- A step conserves exactly when it retires nothing. -/
theorem conserved_keepBooks {books : Books} (command : Command)
    (conserved : Conserved organization books) :
    Conserved organization (keepBooks organization books command) ↔
      RetiresNothing organization books command := by
  cases served : serve organization books.db command with
  | error failure =>
      have unchanged : keepBooks organization books command = books := by
        simp only [keepBooks, Transaction.requests, served]
        rfl
      rw [unchanged]
      exact iff_of_true conserved (retiresNothing_of_error served)
  | ok result =>
      obtain ⟨next, queued⟩ := result
      have changed : keepBooks organization books command = ⟨next, books.queued ++ queued⟩ := by
        simp only [keepBooks, Transaction.requests, served]
        rfl
      have balance := serve_balance served
      rw [changed, retiresNothing_iff_of_ok served, Conserved, adjustmentLines_append,
        ← Multiset.coe_add, conserved, ← balance]
      exact add_eq_left

end Runs

/-- No queued correction is lost in a run exactly when no step of it retires one. -/
theorem corrections_conserved_iff (organization : Nat) (books : Books)
    (conserved : Conserved organization books) (commands : List Command) :
    Runs.Always (keepBooks organization) (Conserved organization) books commands ↔
      Runs.Guarded (keepBooks organization) (RetiresNothing organization) books commands :=
  Runs.always_iff_guarded (keepBooks organization) (fun _ _ (invariant : True) => invariant)
    (fun _ command _ => conserved_keepBooks command) trivial conserved commands

/-! An upgrade on the tenth day of a period, and the three ways to lose its credit. -/

def openBooks : Books := ⟨upAndDownCatalog, []⟩

def upgrade : Command := .changePlan { now := 10 * day } (manualProvider noApi) "pro"

theorem corrections_conserved_iff_after_upgrade :
    Runs.Always (keepBooks 1) (Conserved 1) openBooks [upgrade] ↔
      Runs.Guarded (keepBooks 1) (RetiresNothing 1) openBooks [upgrade] :=
  corrections_conserved_iff 1 openBooks (by decide) [upgrade]

theorem corrections_lost_by_void_trial_and_cancel :
    Conserved 1 (keepBooks 1 openBooks upgrade) ∧
      ¬ Runs.Always (keepBooks 1) (Conserved 1) openBooks
        [upgrade, .draft { now := 11 * day } none, .void 0] ∧
      ¬ Runs.Always (keepBooks 1) (Conserved 1) openBooks
        [upgrade, .startTrial (11 * day) "starter" none] ∧
      ¬ Runs.Always (keepBooks 1) (Conserved 1) openBooks [upgrade, .cancel (11 * day) false] := by
  decide

end SynapseSaas
