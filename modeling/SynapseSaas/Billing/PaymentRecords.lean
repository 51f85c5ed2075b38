import SynapseSaas.Billing.Invoicing
import SynapseSaas.Foundation.Runs

/-! Calls on one invoice, one after the other: what the first recorded payment does and
what the later ones do. -/

set_option autoImplicit false

namespace SynapseSaas

inductive InvoiceRequest where
  | recordPayment (now amountCents : Int) (reference : Option String)
  | finalize (now : Int)
  | void
  deriving DecidableEq

def InvoiceRequest.pays : InvoiceRequest → Bool
  | .recordPayment .. => true
  | .finalize _ => false
  | .void => false

/-- The books, and whether a payment has been recorded by an earlier call. -/
structure Recording where
  db : Db
  recorded : Bool := false

namespace Recording

variable (invoiceId organization : Nat)

def perform (db : Db) : InvoiceRequest → Result (Invoice × Db)
  | .recordPayment now amountCents reference =>
      InvoicingService.recordPayment now db invoiceId organization amountCents reference
  | .finalize now => InvoicingService.finalize now db invoiceId organization
  | .void => InvoicingService.void db invoiceId organization

/-- A refused call leaves the books as they are. -/
def step (state : Recording) (request : InvoiceRequest) : Recording :=
  match perform invoiceId organization state.db request with
  | .error _ => state
  | .ok (_, next) => ⟨next, state.recorded || request.pays⟩

/-- The status of the invoice and when it was paid. -/
def payment (db : Db) : Option (InvoiceStatus × Option Int) :=
  (db.getScoped invoiceId organization).toOption.map fun invoice => (invoice.status, invoice.paidAt)

/-- The invoice is paid now, which one event and one mail tell. -/
def FirstPayment (now : Int) (db next : Db) : Prop :=
  payment invoiceId organization next = some (.paid, some now) ∧
    ∃ paid mail : OutboxEvent, next.outboxEvents = db.outboxEvents ++ [paid, mail] ∧
      paid.eventType = "invoice.paid" ∧ mail.eventType = "invoice.email" ∧
      paid.aggregateId = invoiceId ∧ mail.aggregateId = invoiceId

def Unchanged (db next : Db) : Prop :=
  payment invoiceId organization next = payment invoiceId organization db ∧
    next.outboxEvents = db.outboxEvents

/-- The first payment that goes through is recorded, a later one changes nothing. -/
def Lawful (state : Recording) : InvoiceRequest → Prop
  | .recordPayment now amountCents reference =>
      ∀ invoice next, InvoicingService.recordPayment now state.db invoiceId organization
        amountCents reference = .ok (invoice, next) →
          if state.recorded then Unchanged invoiceId organization state.db next
          else FirstPayment invoiceId organization now state.db next
  | _ => True

/-- A payment that comes when the invoice is paid is too small for it. -/
def NotPaidAgain (state : Recording) : InvoiceRequest → Prop
  | .recordPayment _ amountCents _ =>
      ∀ invoice, state.db.getScoped invoiceId organization = .ok invoice →
        invoice.status = .paid → amountCents < invoice.totalCents
  | _ => True

/-- A payment has been recorded exactly if the invoice is paid. -/
def Faithful (state : Recording) : Prop :=
  ∀ invoice, state.db.getScoped invoiceId organization = .ok invoice →
    (state.recorded = true ↔ invoice.status = .paid)

variable {invoiceId organization : Nat} {db next : Db} {old invoice : Invoice}

theorem located_written (located : db.getScoped invoiceId organization = .ok old)
    (writes : db.WritesInvoice old invoice next)
    (owner : invoice.organizationId = old.organizationId) :
    next.getScoped invoiceId organization = .ok invoice := by
  obtain ⟨-, id, mine⟩ := InvoicingService.getScoped_eq_ok.mp located
  refine InvoicingService.getScoped_eq_ok.mpr ⟨?_, writes.same.trans id, owner.trans mine⟩
  exact (writes.mem invoice).mpr (.inl rfl)

theorem payment_of_located (located : db.getScoped invoiceId organization = .ok invoice) :
    payment invoiceId organization db = some (invoice.status, invoice.paidAt) := by
  rw [payment, located]
  rfl

/-- What a recorded payment adds to the outbox. -/
theorem recordPayment_outbox {now amountCents : Int} {reference : Option String}
    (done : InvoicingService.recordPayment now db invoiceId organization amountCents reference =
      .ok (invoice, next)) :
    ∃ paid mail : OutboxEvent, next.outboxEvents = db.outboxEvents ++ [paid, mail] ∧
      paid.eventType = "invoice.paid" ∧ mail.eventType = "invoice.email" ∧
      paid.aggregateId = invoiceId ∧ mail.aggregateId = invoiceId := by
  obtain ⟨old, located, done⟩ := Result.bind_eq_ok.mp done
  obtain ⟨-, id, -⟩ := InvoicingService.getScoped_eq_ok.mp located
  obtain ⟨_, -, done⟩ := Result.bind_eq_ok.mp done
  split at done
  · cases done
  · obtain ⟨written, put, done⟩ := Result.bind_eq_ok.mp done
    cases done
    obtain ⟨table, -, rfl⟩ := write_eq_ok.mp put
    exact ⟨_, _, List.append_assoc _ _ _, rfl, rfl, id, id⟩

theorem recordPayment_first {now amountCents : Int} {reference : Option String}
    (done : InvoicingService.recordPayment now db invoiceId organization amountCents reference =
      .ok (invoice, next)) : FirstPayment invoiceId organization now db next := by
  refine ⟨?_, recordPayment_outbox done⟩
  obtain ⟨old, located, -, -, rfl, writes⟩ := InvoicingService.recordPayment_cases done
  exact payment_of_located (located_written located writes rfl)

/-- A paid invoice takes any payment that is large enough. -/
theorem recordPayment_paid (located : db.getScoped invoiceId organization = .ok old)
    (paid : old.status = .paid) {amountCents : Int} (enough : old.totalCents ≤ amountCents)
    (now : Int) (reference : Option String) :
    ∃ invoice next, InvoicingService.recordPayment now db invoiceId organization amountCents
      reference = .ok (invoice, next) := by
  obtain ⟨member, -, -⟩ := InvoicingService.getScoped_eq_ok.mp located
  obtain ⟨written, put⟩ := @Db.putInvoice_accepts db old
    { old with status := .paid, paidAt := some now } member rfl fun _ listed => listed
  cases done : InvoicingService.recordPayment now db invoiceId organization amountCents reference with
  | ok result => exact ⟨result.1, result.2, rfl⟩
  | error failure =>
      rw [InvoicingService.recordPayment, located, Result.ok_bind, assertInvoiceTransition,
        if_pos (.inl paid), Result.ok_bind, if_neg (by omega)] at done
      dsimp only at done
      rw [put] at done
      cases done

theorem step_faithful {state : Recording} (faithful : Faithful invoiceId organization state)
    (request : InvoiceRequest) :
    Faithful invoiceId organization (step invoiceId organization state request) := by
  rw [step]
  split
  · exact faithful
  · next invoice next done =>
      intro row found
      cases request with
      | recordPayment now amountCents reference =>
          obtain ⟨old, located, -, -, rfl, writes⟩ := InvoicingService.recordPayment_cases done
          cases found.symm.trans (located_written located writes rfl)
          exact iff_of_true (Bool.or_true _) rfl
      | finalize now =>
          obtain ⟨old, located, ⟨-, -, rfl⟩ | ⟨draft, rfl, writes⟩⟩ :=
            InvoicingService.finalize_cases done
          · rw [InvoiceRequest.pays, Bool.or_false]
            exact faithful row found
          · cases found.symm.trans (located_written located writes rfl)
            have before := faithful old located
            rw [draft] at before
            rw [InvoiceRequest.pays, Bool.or_false]
            exact iff_of_false (fun recorded => nomatch before.mp recorded) nofun
      | void =>
          obtain ⟨old, located, unpaid, -, rfl, writes⟩ := InvoicingService.void_cases done
          cases found.symm.trans (located_written located writes rfl)
          have before := faithful old located
          rw [InvoiceRequest.pays, Bool.or_false]
          exact iff_of_false (fun recorded => unpaid (before.mp recorded)) nofun

/-- A call follows the law exactly if it does not pay a paid invoice again. -/
theorem lawful_iff {state : Recording} (faithful : Faithful invoiceId organization state)
    (request : InvoiceRequest) :
    Lawful invoiceId organization state request ↔
      NotPaidAgain invoiceId organization state request := by
  cases request with
  | finalize now => exact Iff.rfl
  | void => exact Iff.rfl
  | recordPayment now amountCents reference =>
      constructor
      · intro lawful old located paid
        by_contra enough
        obtain ⟨invoice, next, done⟩ := recordPayment_paid located paid (not_lt.mp enough) now
          reference
        have unchanged := lawful invoice next done
        rw [if_pos ((faithful old located).mpr paid)] at unchanged
        -- Recording it again has told of it again.
        obtain ⟨first, mail, told, -⟩ := recordPayment_outbox done
        have lengths := congrArg List.length (told.symm.trans unchanged.2)
        simp at lengths
      · intro once invoice next done
        obtain ⟨old, located, -, enough, -⟩ := InvoicingService.recordPayment_cases done
        have unpaid : old.status ≠ .paid := by
          intro paid
          have small := once old located paid
          omega
        rw [if_neg (fun recorded => unpaid ((faithful old located).mp recorded))]
        exact recordPayment_first done

end Recording

open Recording in
/-- In a run of calls on an invoice that is not paid yet, the first payment that goes
through is recorded and none after it changes anything, exactly if no payment large
enough comes when the invoice is paid. -/
theorem payment_recorded_once_iff (invoiceId organization : Nat) (db : Db)
    (unpaid : ∀ invoice, db.getScoped invoiceId organization = .ok invoice → invoice.status ≠ .paid)
    (requests : List InvoiceRequest) :
    Runs.Guarded (step invoiceId organization) (Lawful invoiceId organization) { db } requests ↔
      Runs.Guarded (step invoiceId organization) (NotPaidAgain invoiceId organization) { db }
        requests :=
  Runs.guarded_congr_of_invariant _ (fun _ request faithful => step_faithful faithful request)
    (fun _ request faithful => lawful_iff faithful request)
    (fun invoice located => iff_of_false Bool.false_ne_true (unpaid invoice located)) requests

/-! An open invoice of 4900 cents. -/

def openInvoice : Invoice :=
  { id := 0, organizationId := 1, totalCents := 4900, status := .open, createdAt := 0 }

def openInvoiceDb : Db :=
  { invoices := ⟨[openInvoice], 1, by decide⟩ }

theorem openInvoiceDb_unpaid (invoice : Invoice)
    (located : openInvoiceDb.getScoped 0 1 = .ok invoice) : invoice.status ≠ .paid := by
  cases (show Except.ok openInvoice = Except.ok invoice from located)
  decide

open Recording in
theorem payment_recorded_once_iff_small :
    Runs.Guarded (step 0 1) (Lawful 0 1) { db := openInvoiceDb }
        [.recordPayment 10 4900 none, .recordPayment 20 100 none, .void] ↔
      Runs.Guarded (step 0 1) (NotPaidAgain 0 1) { db := openInvoiceDb }
        [.recordPayment 10 4900 none, .recordPayment 20 100 none, .void] :=
  payment_recorded_once_iff 0 1 openInvoiceDb openInvoiceDb_unpaid _

open Recording in
/-- The same payment recorded twice is announced and mailed twice, and the day it was
paid on is lost. -/
theorem payment_recorded_twice :
    ¬ Runs.Guarded (step 0 1) (Lawful 0 1) { db := openInvoiceDb }
        [.recordPayment 10 4900 (some "bank-1"), .recordPayment 20 4900 (some "bank-1")] ∧
      payment 0 1 (Runs.run (step 0 1) { db := openInvoiceDb }
        [.recordPayment 10 4900 (some "bank-1"), .recordPayment 20 4900 (some "bank-1")]).db =
          some (.paid, some 20) ∧
      (Runs.run (step 0 1) { db := openInvoiceDb }
        [.recordPayment 10 4900 (some "bank-1"), .recordPayment 20 4900 (some "bank-1")]
        ).db.outboxEvents.length = 4 := by
  refine ⟨?_, by decide +kernel, by decide +kernel⟩
  rintro ⟨-, again, -⟩
  have faithful : Faithful 0 1 { db := openInvoiceDb } := fun invoice located =>
    iff_of_false Bool.false_ne_true (openInvoiceDb_unpaid invoice located)
  have once := (lawful_iff (step_faithful faithful _) _).mp again
  exact absurd (once _ rfl rfl) (by decide)

end SynapseSaas
