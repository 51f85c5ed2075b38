import SynapseSaas.Billing.Invoicing
import SynapseSaas.Foundation.Runs
import SynapseSaas.Foundation.Sessions

/-! Finalize requests on the invoices of one organization, statement by statement.

The status of the invoice is checked before the organization's row is locked; the
number is counted and written under the lock, and the lock is held to the end. -/

set_option autoImplicit false

namespace SynapseSaas

/-- The events of a finalized invoice. -/
def Db.announceFinalized (db : Db) (organization : Nat) (opened : Invoice)
    (number : InvoiceNumber) : Db :=
  (db.appendOutbox "invoice.created" "invoice" opened.id (some organization)
    [("number", .str number.render), ("total_cents", .int opened.totalCents),
      ("status", .str "open")]).appendOutbox "invoice.email" "invoice" opened.id (some organization)
    [("invoice_id", .str (toString opened.id)), ("reason", .str "finalized")]

inductive FinalizePhase where
  | waiting                                 -- for the organization's row
  | locked
  | counted (number : InvoiceNumber)
  | flushed (number : InvoiceNumber) (issuedAt : Int)
  | violated                                -- the unique index refused the number
  deriving DecidableEq

/-- The number the session has counted. -/
def FinalizePhase.number : FinalizePhase → Option InvoiceNumber
  | .counted number | .flushed number _ => some number
  | .waiting | .locked | .violated => none

/-- A finalize that found its invoice to be a draft. -/
structure Finalizing where
  invoice : Invoice
  phase : FinalizePhase

structure Numbering where
  db : Db
  lock : Option Nat := none
  sessions : Nat → Option Finalizing := fun _ => none

inductive NumberingAction where
  | read (session invoice : Nat)
  | lock (session : Nat)
  | count (session : Nat) (now : Int)
  | flush (session : Nat) (now : Int)
  | commit (session : Nat)
  | rollback (session : Nat)

namespace Numbering

variable (organization : Nat)

def enter (state : Numbering) (session : Nat) (invoice : Invoice) (phase : FinalizePhase) :
    Numbering :=
  { state with sessions := Function.update state.sessions session (some ⟨invoice, phase⟩) }

def leave (state : Numbering) (session : Nat) : Numbering :=
  { state with
    sessions := Function.update state.sessions session none
    lock := if state.lock = some session then none else state.lock }

/-- The invoice a finalize goes on with: an open one is answered as it is. -/
def toFinalize (db : Db) (invoiceId : Nat) : Option Invoice :=
  match db.getScoped invoiceId organization with
  | .error _ => none
  | .ok invoice =>
      if invoice.status = .open then none
      else match assertInvoiceTransition invoice.status .open with
        | .error _ => none
        | .ok () => some invoice

def step (state : Numbering) : NumberingAction → Numbering
  | .read session invoiceId =>
      match state.sessions session, toFinalize organization state.db invoiceId with
      | none, some invoice => state.enter session invoice .waiting
      | _, _ => state
  | .lock session =>
      match state.sessions session, state.lock with
      | some ⟨invoice, .waiting⟩, none =>
          { state.enter session invoice .locked with lock := some session }
      | _, _ => state
  | .count session now =>
      match state.sessions session with
      | some ⟨invoice, .locked⟩ =>
          state.enter session invoice (.counted (state.db.nextNumber now organization))
      | _ => state
  | .flush session now =>
      match state.sessions session with
      | some ⟨invoice, .counted number⟩ =>
          match state.db.putInvoice (invoice.finalized number now) with
          | .ok _ => state.enter session invoice (.flushed number now)
          | .error _ => state.enter session invoice .violated
      | _ => state
  | .commit session =>
      match state.sessions session with
      | some ⟨invoice, .flushed number now⟩ =>
          match state.db.putInvoice (invoice.finalized number now) with
          | .ok db =>
              { state.leave session with
                db := db.announceFinalized organization (invoice.finalized number now) number }
          | .error _ => state
      | _ => state
  | .rollback session => state.leave session

end Numbering

/-- The numbers announced for an invoice. -/
def Db.assignments (db : Db) (invoice : Nat) : List Value :=
  db.outboxEvents.filterMap fun event =>
    if event.eventType = "invoice.created" ∧ event.aggregateType = "invoice" ∧
        event.aggregateId = invoice then
      event.payload.lookup "number"
    else none

/-- How often its finalization was mailed. -/
def Db.finalizedMails (db : Db) (invoice : Nat) : Nat :=
  db.outboxEvents.countP fun event =>
    event.eventType = "invoice.email" ∧ event.aggregateType = "invoice" ∧
      event.aggregateId = invoice ∧ event.payload.lookup "reason" = some (.str "finalized")

def Db.numbered (db : Db) (organization : Nat) : Nat :=
  db.invoices.rows.countP fun invoice =>
    invoice.organizationId = organization ∧ invoice.number.isSome

/-- Every invoice was given its number once, and no finalize was refused one. -/
structure WellNumbered (organization : Nat) (state : Numbering) : Prop where
  assigned : ∀ invoice ∈ state.db.invoices.rows, invoice.organizationId = organization →
    state.db.assignments invoice.id = invoice.number.toList.map fun number => .str number.render
  mailed : ∀ invoice ∈ state.db.invoices.rows, invoice.organizationId = organization →
    state.db.finalizedMails invoice.id = invoice.number.toList.length
  distinct : ∀ first ∈ state.db.invoices.rows, ∀ second ∈ state.db.invoices.rows,
    first.organizationId = organization → second.organizationId = organization →
    ∀ number, first.number = some number → second.number = some number → first = second
  accepted : ∀ id session, state.sessions id = some session → session.phase ≠ .violated

/-- The lock is granted while the invoice is a draft still. -/
def StillDraft (state : Numbering) : NumberingAction → Prop
  | .lock id => ∀ invoice, state.sessions id = some ⟨invoice, .waiting⟩ → state.lock = none →
      ∃ current ∈ state.db.invoices.rows, current.id = invoice.id ∧ current.status = .draft
  | _ => True

/-- An organization whose numbers were all given out by counting. -/
structure NumberedBooks (organization : Nat) (db : Db) : Prop where
  assigned : ∀ invoice ∈ db.invoices.rows, invoice.organizationId = organization →
    db.assignments invoice.id = invoice.number.toList.map fun number => .str number.render
  mailed : ∀ invoice ∈ db.invoices.rows, invoice.organizationId = organization →
    db.finalizedMails invoice.id = invoice.number.toList.length
  drafts : ∀ invoice ∈ db.invoices.rows, invoice.organizationId = organization →
    invoice.status = .draft → invoice.number = none
  counted : ∀ invoice ∈ db.invoices.rows, invoice.organizationId = organization →
    ∀ number, invoice.number = some number → number.sequence ≤ db.numbered organization

/-- What a session knows: its invoice is as it read it, or has been finalized since;
once it holds the lock, the former, and the number it counted is the next one. -/
structure Knows (organization : Nat) (state : Numbering) (id : Nat) (session : Finalizing) :
    Prop where
  mine : session.invoice.organizationId = organization
  draft : session.invoice.status = .draft
  seen : session.invoice ∈ state.db.invoices.rows ∨
    ∀ current ∈ state.db.invoices.rows, current.id = session.invoice.id → current.status ≠ .draft
  holds : session.phase ≠ .waiting →
    state.lock = some id ∧ session.invoice ∈ state.db.invoices.rows
  next : ∀ number, session.phase.number = some number →
    number.sequence = state.db.numbered organization + 1
  accepted : session.phase ≠ .violated

structure NumberingInvariant (organization : Nat) (state : Numbering) : Prop where
  books : NumberedBooks organization state.db
  knows : ∀ id session, state.sessions id = some session → Knows organization state id session

theorem Invoice.number_mem_keys {invoice : Invoice} {organization : Nat} {number : InvoiceNumber} :
    InvoiceKey.number organization number ∈ Keyed.keys invoice ↔
      invoice.organizationId = organization ∧ invoice.number = some number := by
  have apart : InvoiceKey.number organization number ∉ invoice.providerKeys := by
    unfold Invoice.providerKeys
    split <;> simp
  change _ ∈ invoice.providerKeys ++ invoice.numberKeys ↔ _
  rw [List.mem_append, or_iff_right apart]
  unfold Invoice.numberKeys
  split
  · next other numbered => simp [numbered, eq_comm]
  · next unnumbered => simp [unnumbered]

section Steps

variable {organization : Nat} {state : Numbering} {id : Nat} {invoice : Invoice}
  {number : InvoiceNumber} {now : Int}

theorem toFinalize_eq_some {invoiceId : Nat} {db : Db}
    (found : Numbering.toFinalize organization db invoiceId = some invoice) :
    invoice ∈ db.invoices.rows ∧ invoice.organizationId = organization ∧ invoice.status = .draft := by
  unfold Numbering.toFinalize at found
  split at found
  · cases found
  · next other located =>
    obtain ⟨member, -, mine⟩ := InvoicingService.getScoped_eq_ok.mp located
    split at found
    · cases found
    · next closed =>
      split at found
      · cases found
      · next legal =>
        cases found
        refine ⟨member, mine, ?_⟩
        cases status : invoice.status with
        | draft => rfl
        | «open» => exact absurd status closed
        | paid | void | uncollectible =>
            rw [status] at legal
            cases legal

/-- The next number is nobody's: counting gave out smaller ones only. -/
theorem putInvoice_next {db : Db} (now : Int) (books : NumberedBooks organization db)
    (member : invoice ∈ db.invoices.rows) (mine : invoice.organizationId = organization)
    (next : number.sequence = db.numbered organization + 1) :
    ∃ written, db.putInvoice (invoice.finalized number now) = .ok written := by
  obtain ⟨table, put⟩ := db.invoices.put_free member
    (show Keyed.id (invoice.finalized number now) = Keyed.id invoice from rfl)
    fun other here apart key claimed theirs => by
      rcases List.mem_append.mp claimed with provider | numbered
      · -- It had its provider's reference before.
        exact apart (congrArg Keyed.id (db.invoices.eq_of_key here member theirs
          (List.mem_append_left _ provider)))
      · rw [List.mem_singleton.mp numbered] at theirs
        obtain ⟨owner, taken⟩ := Invoice.number_mem_keys.mp theirs
        have bound := books.counted other here (owner.trans mine) number taken
        omega
  exact ⟨_, write_eq_ok.mpr ⟨table, put, rfl⟩⟩

theorem Knows.keep {next : Numbering} {session : Finalizing}
    (knows : Knows organization state id session) (db : next.db = state.db)
    (lock : state.lock = some id → next.lock = some id) : Knows organization next id session where
  mine := knows.mine
  draft := knows.draft
  seen := by
    rw [db]
    exact knows.seen
  holds started := by
    rw [db]
    exact ⟨lock (knows.holds started).1, (knows.holds started).2⟩
  next := by
    rw [db]
    exact knows.next
  accepted := knows.accepted

/-- A session moves on while the database stays as it is. -/
theorem NumberingInvariant.enter (invariant : NumberingInvariant organization state)
    {phase : FinalizePhase} (lock : Option Nat)
    (knows : Knows organization { state.enter id invoice phase with lock := lock } id
      ⟨invoice, phase⟩)
    (others : ∀ other, other ≠ id → state.lock = some other → lock = some other) :
    NumberingInvariant organization { state.enter id invoice phase with lock := lock } where
  books := invariant.books
  knows other session found := by
    rcases Sessions.entered found with ⟨rfl, rfl⟩ | ⟨different, before⟩
    · exact knows
    · exact (invariant.knows other session before).keep rfl (others other different)

theorem NumberingInvariant.leave (invariant : NumberingInvariant organization state) (id : Nat) :
    NumberingInvariant organization (state.leave id) where
  books := invariant.books
  knows other session found := by
    obtain ⟨different, before⟩ := Sessions.left found
    refine (invariant.knows other session before).keep rfl fun held => ?_
    simp only [Numbering.leave, held, Option.some.injEq]
    exact if_neg different

/-- The events of a finalized invoice are its own. -/
theorem assignments_announce (db : Db) (opened : Invoice) (number : InvoiceNumber) (other : Nat) :
    (db.announceFinalized organization opened number).assignments other =
      db.assignments other ++ if other = opened.id then [.str number.render] else [] := by
  by_cases same : other = opened.id
  · simp [Db.assignments, Db.announceFinalized, Db.appendOutbox, same]
  · simp [Db.assignments, Db.announceFinalized, Db.appendOutbox, same, eq_comm]

theorem finalizedMails_announce (db : Db) (opened : Invoice) (number : InvoiceNumber) (other : Nat) :
    (db.announceFinalized organization opened number).finalizedMails other =
      db.finalizedMails other + if other = opened.id then 1 else 0 := by
  have reason (text : String) : [("invoice_id", Value.str text), ("reason", .str "finalized")].lookup
      "reason" = some (.str "finalized") := rfl
  by_cases same : other = opened.id
  · simp [Db.finalizedMails, Db.announceFinalized, Db.appendOutbox, same, List.countP_append, reason]
  · simp [Db.finalizedMails, Db.announceFinalized, Db.appendOutbox, same, eq_comm,
      List.countP_append]

/-- The commit of a finalize gives its draft the next number. -/
theorem NumberedBooks.finalize {db written : Db} (books : NumberedBooks organization db)
    (member : invoice ∈ db.invoices.rows) (mine : invoice.organizationId = organization)
    (draft : invoice.status = .draft) (next : number.sequence = db.numbered organization + 1)
    (put : db.putInvoice (invoice.finalized number now) = .ok written) :
    NumberedBooks organization
        (written.announceFinalized organization (invoice.finalized number now) number) ∧
      (written.announceFinalized organization (invoice.finalized number now) number).numbered
        organization = db.numbered organization + 1 := by
  have writes := Db.putInvoice_writes put member
    (show (invoice.finalized number now).id = invoice.id from rfl)
  have unnumbered := books.drafts invoice member mine draft
  have outbox : written.outboxEvents = db.outboxEvents := by
    obtain ⟨table, -, rfl⟩ := write_eq_ok.mp put
    rfl
  have rows (other : Invoice) : other ∈ (written.announceFinalized organization
      (invoice.finalized number now) number).invoices.rows ↔
        other = invoice.finalized number now ∨ other ∈ db.invoices.rows ∧ other ≠ invoice :=
    writes.mem other
  have assignments (other : Nat) : written.assignments other = db.assignments other := by
    rw [Db.assignments, outbox, Db.assignments]
  have mails (other : Nat) : written.finalizedMails other = db.finalizedMails other := by
    rw [Db.finalizedMails, outbox, Db.finalizedMails]
  have grown : (written.announceFinalized organization (invoice.finalized number now)
      number).numbered organization = db.numbered organization + 1 := by
    have count := writes.countP fun row => row.organizationId = organization ∧ row.number.isSome
    simp only [unnumbered, Invoice.finalized, mine, Option.isSome_none, Option.isSome_some,
      Bool.false_eq_true, and_false, decide_false, and_self, decide_true, if_true, if_false] at count
    change written.numbered organization = _
    rw [Db.numbered, Db.numbered]
    omega
  have elsewhere {other : Invoice} (here : other ∈ db.invoices.rows) (distinct : other ≠ invoice) :
      other.id ≠ (invoice.finalized number now).id := fun same =>
    distinct (db.invoices.eq_of_id here member same)
  refine ⟨⟨fun other there owner => ?_, fun other there owner => ?_, fun other there owner => ?_,
    fun other there owner => ?_⟩, grown⟩
  · rw [assignments_announce, assignments]
    rcases (rows other).mp there with rfl | ⟨here, distinct⟩
    · rw [if_pos rfl, show (invoice.finalized number now).id = invoice.id from rfl,
        books.assigned invoice member mine, unnumbered]
      rfl
    · rw [if_neg (elsewhere here distinct), List.append_nil]
      exact books.assigned other here owner
  · rw [finalizedMails_announce, mails]
    rcases (rows other).mp there with rfl | ⟨here, distinct⟩
    · rw [if_pos rfl, show (invoice.finalized number now).id = invoice.id from rfl,
        books.mailed invoice member mine, unnumbered]
      rfl
    · rw [if_neg (elsewhere here distinct), Nat.add_zero]
      exact books.mailed other here owner
  · intro status
    rcases (rows other).mp there with rfl | ⟨here, -⟩
    · cases status
    · exact books.drafts other here owner status
  · intro given numbered
    rw [grown]
    rcases (rows other).mp there with rfl | ⟨here, -⟩
    · cases numbered
      omega
    · have bound := books.counted other here owner given numbered
      omega

/-- Every statement keeps the invariant, if the lock is granted for drafts only. -/
theorem NumberingInvariant.step (invariant : NumberingInvariant organization state)
    (action : NumberingAction) (still : StillDraft state action) :
    NumberingInvariant organization (Numbering.step organization state action) := by
  cases action with
  | read id invoiceId =>
      simp only [Numbering.step]
      split
      · next invoice vacant found =>
        obtain ⟨member, mine, draft⟩ := toFinalize_eq_some found
        refine invariant.enter state.lock ⟨mine, draft, .inl member,
          fun started => absurd rfl started, fun number found => ?_, by simp⟩ fun _ _ held => held
        cases found
      · exact invariant
  | lock id =>
      simp only [Numbering.step]
      split
      · next invoice found free =>
        have knows := invariant.knows id _ found
        obtain ⟨current, here, same, draft⟩ := still invoice found free
        -- A draft still is the one it read.
        have member : invoice ∈ state.db.invoices.rows :=
          knows.seen.resolve_right fun gone => gone current here same draft
        refine invariant.enter (some id) ⟨knows.mine, knows.draft, .inl member,
          fun _ => ⟨rfl, member⟩, fun number found => ?_, by simp⟩ fun other _ held => ?_
        · cases found
        · rw [free] at held
          cases held
      · exact invariant
  | count id now =>
      simp only [Numbering.step]
      split
      · next invoice found =>
        have knows := invariant.knows id _ found
        refine invariant.enter state.lock ⟨knows.mine, knows.draft, knows.seen,
          fun _ => knows.holds (by simp), fun number found => ?_, by simp⟩ fun _ _ held => held
        cases found
        rfl
      · exact invariant
  | flush id now =>
      simp only [Numbering.step]
      split
      · next invoice number found =>
        have knows := invariant.knows id _ found
        have next := knows.next number rfl
        obtain ⟨written, put⟩ := putInvoice_next now invariant.books
          (knows.holds (by simp)).2 knows.mine next
        rw [put]
        refine invariant.enter state.lock ⟨knows.mine, knows.draft, knows.seen,
          fun _ => knows.holds (by simp), fun other found => ?_, by simp⟩ fun _ _ held => held
        cases found
        exact next
      · exact invariant
  | rollback id => exact invariant.leave id
  | commit id =>
      simp only [Numbering.step]
      split
      · next invoice number now found =>
        split
        · next written put =>
          have knows := invariant.knows id _ found
          obtain ⟨locked, member⟩ := knows.holds (by simp)
          have next := knows.next number rfl
          obtain ⟨books, -⟩ := invariant.books.finalize member knows.mine knows.draft next put
          have writes := Db.putInvoice_writes put member
            (show (invoice.finalized number now).id = invoice.id from rfl)
          refine ⟨books, fun other session here => ?_⟩
          simp only [Numbering.leave, Function.update_apply] at here
          split at here
          · cases here
          · next different =>
            have before := invariant.knows other session here
            -- Nobody else is past the lock.
            have waiting : session.phase = .waiting := by
              by_contra started
              have held := (before.holds started).1
              rw [locked] at held
              exact different (Option.some.inj held).symm
            refine ⟨before.mine, before.draft, ?_, fun started => absurd waiting started, ?_,
              before.accepted⟩
            · change _ ∈ written.invoices.rows ∨ ∀ current ∈ written.invoices.rows, _
              rcases before.seen with seen | gone
              · by_cases same : session.invoice = invoice
                · refine .inr fun current there named => ?_
                  rcases (writes.mem current).mp there with rfl | ⟨there, distinct⟩
                  · simp [Invoice.finalized]
                  · exact absurd (state.db.invoices.eq_of_id there member
                      (named.trans (congrArg Invoice.id same))) distinct
                · exact .inl ((writes.mem _).mpr (.inr ⟨seen, same⟩))
              · refine .inr fun current there named => ?_
                rcases (writes.mem current).mp there with rfl | ⟨there, -⟩
                · simp [Invoice.finalized]
                · exact gone current there named
            · intro number counted
              rw [waiting] at counted
              cases counted
        · exact invariant
      · exact invariant

theorem NumberingInvariant.wellNumbered (invariant : NumberingInvariant organization state) :
    WellNumbered organization state where
  assigned := invariant.books.assigned
  mailed := invariant.books.mailed
  distinct _ here _ there mine yours _ left right :=
    state.db.invoices.eq_of_key here there (Invoice.number_mem_keys.mpr ⟨mine, left⟩)
      (Invoice.number_mem_keys.mpr ⟨yours, right⟩)
  accepted id session found := (invariant.knows id session found).accepted

end Steps

/-- In every interleaving of finalize requests that grants the organization's lock
for drafts only, each invoice is numbered and announced once, and no number is refused. -/
theorem numbering_of_still_draft (organization : Nat) (db : Db)
    (books : NumberedBooks organization db) (actions : List NumberingAction)
    (still : Runs.Guarded (Numbering.step organization) StillDraft { db := db } actions) :
    Runs.Always (Numbering.step organization) (WellNumbered organization) { db := db } actions := by
  have initial : NumberingInvariant organization { db := db } :=
    ⟨books, fun _ _ found => by cases found⟩
  have always : Runs.Always (Numbering.step organization) (NumberingInvariant organization)
      { db := db } actions :=
    Runs.always_of_guarded _ (fun _ action invariant still => invariant.step action still) initial
      still
  exact always.mono _ fun _ invariant => invariant.wellNumbered

/-- Undisturbed, the statements amount to the service's finalize. -/
theorem finalize_alone {organization : Nat} {db next : Db} {invoiceId : Nat} {invoice : Invoice}
    {now : Int} (draft : ∀ row, db.getScoped invoiceId organization = .ok row → row.status = .draft)
    (done : InvoicingService.finalize now db invoiceId organization = .ok (invoice, next)) :
    (Runs.run (Numbering.step organization) { db := db }
      [.read 0 invoiceId, .lock 0, .count 0 now, .flush 0 now, .commit 0]).db = next := by
  obtain ⟨old, located, done⟩ := Result.bind_eq_ok.mp done
  have status := draft old located
  have found : Numbering.toFinalize organization db invoiceId = some old := by
    simp only [Numbering.toFinalize, located, status]
    rfl
  simp only [status, reduceCtorEq, if_false] at done
  obtain ⟨_, -, done⟩ := Result.bind_eq_ok.mp done
  obtain ⟨written, put, done⟩ := Result.bind_eq_ok.mp done
  cases done
  simp only [Runs.run_cons, Runs.run_nil, Numbering.step, Numbering.enter, found,
    Function.update_self, put]
  rfl

/-! Two drafts of an organization. -/

def emptyDraft (id : Nat) : Invoice := { id := id, organizationId := 1, createdAt := 0 }

def draftsDb : Db :=
  { sampleDb (sampleSubscription 0) with
    invoices := ⟨[emptyDraft 0, emptyDraft 1], 2, by
      refine ⟨by decide, ?_⟩
      rw [List.pairwise_pair]
      exact ⟨by decide, fun key mine => by cases mine⟩⟩ }

theorem draftsDb_books : NumberedBooks 1 draftsDb where
  assigned invoice member _ := by
    rcases List.mem_pair.mp member with rfl | rfl <;> rfl
  mailed invoice member _ := by
    rcases List.mem_pair.mp member with rfl | rfl <;> rfl
  drafts invoice member _ _ := by
    rcases List.mem_pair.mp member with rfl | rfl <;> rfl
  counted invoice member _ number numbered := by
    rcases List.mem_pair.mp member with rfl | rfl <;> cases numbered

/-- One finalize, undisturbed. -/
def singleFinalize : List NumberingAction :=
  [.read 0 0, .lock 0, .count 0 day, .flush 0 day, .commit 0]

theorem numbering_of_still_draft_single :
    Runs.Always (Numbering.step 1) (WellNumbered 1) { db := draftsDb } singleFinalize := by
  refine numbering_of_still_draft 1 draftsDb draftsDb_books singleFinalize ?_
  refine ⟨trivial, fun invoice found _ => ⟨emptyDraft 0, List.mem_cons_self, ?_, rfl⟩,
    trivial, trivial, trivial, trivial⟩
  cases found
  rfl

/-- Two requests finalize the first draft, and a third one the second. -/
def doubledFinalize : List NumberingAction :=
  [.read 0 0, .read 1 0, .lock 0, .count 0 day, .flush 0 day, .commit 0,
    .lock 1, .count 1 day, .flush 1 day, .commit 1,
    .read 2 1, .lock 2, .count 2 day, .flush 2 day]

/-- The first draft gets two numbers, and the second one is refused the number that
the count arrives at from then on. -/
theorem doubled_finalize_violates :
    ¬ Runs.Always (Numbering.step 1) (WellNumbered 1) { db := draftsDb } doubledFinalize ∧
      ((Runs.run (Numbering.step 1) { db := draftsDb } doubledFinalize).db.assignments 0).length = 2 ∧
      ((Runs.run (Numbering.step 1) { db := draftsDb } doubledFinalize).sessions 2).map (·.phase) =
        some .violated := by
  have violated : ((Runs.run (Numbering.step 1) { db := draftsDb } doubledFinalize).sessions
      2).map (·.phase) = some .violated := by decide +kernel
  refine ⟨fun always => ?_, by decide +kernel, violated⟩
  obtain ⟨session, found, phase⟩ := Option.map_eq_some_iff.mp violated
  exact always.last.accepted 2 session found phase

end SynapseSaas
