import SynapseSaas.Foundation.Sessions
import SynapseSaas.Worker.Renewals

/-! Draft requests and renewals of one organization, statement by statement.

A draft is looked for first and inserted last; in between the subscription's queue
of corrections is read, and drained by the same write that inserts. A renewal holds
the subscription's row from the start, a draft request from that write on. -/

set_option autoImplicit false

namespace SynapseSaas

/-- A queued correction, told from others that say the same. -/
structure Queued where
  tag : Nat
  adjustment : Adjustment
  deriving DecidableEq

/-- What a request has read when it writes its invoice. -/
structure DraftRead where
  subscription : Subscription
  entries : List Queued           -- the queue of the subscription
  overage : List InvoiceLine
  now : Int
  deriving DecidableEq

def DraftRead.lines (read : DraftRead) : List InvoiceLine :=
  planLines read.subscription ++ read.overage ++
    adjustmentLines read.subscription.pendingAdjustments

def DraftRead.carried (read : DraftRead) : List Adjustment := carryover read.now read.lines

/-- There is something to drain or to queue; otherwise the queue is not written. -/
def DraftRead.changes (read : DraftRead) : Bool :=
  read.subscription.pendingAdjustments ≠ [] ∨ read.carried ≠ []

inductive DraftPhase where
  | searched                      -- and found no draft of the period
  | found (invoice : Nat)         -- a renewal opens the draft there is
  | failed                        -- several drafts matched
  | read (read : DraftRead)
  | written (read : DraftRead)
  deriving DecidableEq

structure DraftSession where
  renewal : Bool
  period : Int
  phase : DraftPhase
  deriving DecidableEq

/-- The database, the queue of the subscription entry by entry, and which invoice
each drained entry went to. -/
structure Drafting where
  db : Db
  queued : List Queued
  billed : List (Nat × Queued) := []
  next : Nat
  lock : Option Nat := none
  sessions : Nat → Option DraftSession := fun _ => none

inductive DraftAction where
  | draft (session : Nat) (period : Int)
  | renew (session : Nat)
  | read (session : Nat) (now : Int) (overage : List InvoiceLine)
  | write (session : Nat)
  | commit (session : Nat) (now : Int)
  | rollback (session : Nat)

/-- `UPDATE subscriptions SET pending_adjustments`. -/
def Db.requeue (db : Db) (subscription : Nat) (pendingAdjustments : List Adjustment) : Result Db :=
  match db.subscriptions.get subscription with
  | some current => db.putSubscription { current with pendingAdjustments := pendingAdjustments }
  | none => .error (.other .noResult)

/-- What a renewal does once it has its invoice. -/
def Db.renewed (db : Db) (organization : Nat) (now : Int) (invoice : Nat) : Result Db := do
  let (_, db) ← InvoicingService.finalize now db invoice organization
  match db.currentForOrg organization with
  | some current => db.putSubscription current.rolled
  | none => .error (.other .noResult)

def Db.drained (db : Db) (read : DraftRead) : Result Db :=
  if read.changes then db.requeue read.subscription.id read.carried else .ok db

namespace Drafting

variable (organization : Nat)

def enter (state : Drafting) (id : Nat) (session : DraftSession) : Drafting :=
  { state with sessions := Function.update state.sessions id (some session) }

def leave (state : Drafting) (id : Nat) : Drafting :=
  { state with
    sessions := Function.update state.sessions id none
    lock := if state.lock = some id then none else state.lock }

/-- The lookup every request starts with; a draft request is done if it finds one. -/
def search (state : Drafting) (id : Nat) (renewal : Bool) (period : Int) : Drafting :=
  match state.db.findDraft organization period with
  | .error _ => state.enter id ⟨renewal, period, .failed⟩
  | .ok none => state.enter id ⟨renewal, period, .searched⟩
  | .ok (some invoice) =>
      if renewal then state.enter id ⟨renewal, period, .found invoice.id⟩ else state

/-- The queue written back, if it changed, and the invoice inserted. -/
def inserted (db : Db) (period : Int) (read : DraftRead) : Result (Invoice × Db) := do
  let db ← db.drained read
  db.insertInvoice (draftInvoice read.now read.subscription period read.lines)

def outcome (db : Db) (now : Int) (renewal : Bool) (period : Int) (read : DraftRead) :
    Result Db := do
  let (invoice, db) ← inserted db period read
  if renewal then db.renewed organization now invoice.id else .ok db

/-- The entries queued once the read ones are drained. -/
def requeued (state : Drafting) (read : DraftRead) : List Queued :=
  if read.changes then read.carried.map (⟨state.next, ·⟩) else state.queued

def step (state : Drafting) : DraftAction → Drafting
  | .draft id period =>
      match state.sessions id with
      | some _ => state
      | none => state.search organization id false period
  | .renew id =>
      match state.sessions id, state.lock, state.db.currentForOrg organization with
      | none, none, some subscription =>
          if subscription.billable then
            { state.search organization id true subscription.billedPeriod with lock := some id }
          else state
      | _, _, _ => state
  | .read id now overage =>
      match state.sessions id, state.db.currentForOrg organization with
      | some ⟨renewal, period, .searched⟩, some subscription =>
          state.enter id ⟨renewal, period, .read ⟨subscription, state.queued, overage, now⟩⟩
      | _, _ => state
  | .write id =>
      match state.sessions id with
      | some ⟨renewal, period, .read read⟩ =>
          if read.changes then
            if state.lock = none ∨ state.lock = some id then
              { state.enter id ⟨renewal, period, .written read⟩ with lock := some id }
            else state
          else state.enter id ⟨renewal, period, .written read⟩
      | _ => state
  | .commit id now =>
      match state.sessions id with
      | some ⟨true, _, .found invoice⟩ =>
          match state.db.renewed organization now invoice with
          | .ok db => { state.leave id with db := db }
          | .error _ => state.leave id
      | some ⟨renewal, period, .written read⟩ =>
          match outcome organization state.db now renewal period read with
          | .ok db =>
              { state.leave id with
                db := db
                queued := state.requeued read
                billed := state.billed ++ read.entries.map (⟨state.db.invoices.next, ·⟩)
                next := state.next + 1 }
          | .error _ => state.leave id
      | _ => state
  | .rollback id => state.leave id

end Drafting

/-- One draft a period, and each queued correction on one invoice. -/
structure WellDrafted (organization : Nat) (state : Drafting) : Prop where
  single : ∀ period, (state.db.draftsFor organization period).length ≤ 1
  once : (state.billed.map (·.2.tag)).Nodup
  drained : ∀ entry ∈ state.queued, entry.tag ∉ state.billed.map (·.2.tag)
  queue : ∀ subscription, state.db.currentForOrg organization = some subscription →
    subscription.pendingAdjustments = state.queued.map (·.adjustment)
  lined : ∀ pair ∈ state.billed, ∃ invoice ∈ state.db.invoices.rows, invoice.id = pair.1 ∧
    (pair.2.adjustment.amountCents ≠ 0 → pair.2.adjustment.line ∈ invoice.lines)
  found : ∀ id session, state.sessions id = some session → session.phase ≠ .failed

/-- When a request commits, what it read still holds: the period has no draft yet, if
it leaves one, and the corrections it drains are still queued. -/
def StillQueued (organization : Nat) (state : Drafting) : DraftAction → Prop
  | .commit id _ => ∀ renewal period read,
      state.sessions id = some ⟨renewal, period, .written read⟩ →
      (renewal = false → state.db.draftsFor organization period = []) ∧
        ∀ entry ∈ read.entries, entry ∈ state.queued
  | _ => True

/-! ### One invoice more -/

/-- Invoices keep their lines, and the drafts of each period grow by at most this. -/
structure KeepsInvoices (organization : Nat) (growth : Int → Nat) (db next : Db) : Prop where
  kept : ∀ row ∈ db.invoices.rows, ∃ later ∈ next.invoices.rows,
    later.id = row.id ∧ later.lines = row.lines
  drafts : ∀ period, (next.draftsFor organization period).length ≤
    (db.draftsFor organization period).length + growth period

section Invoices

variable {organization : Nat} {db mid next : Db} {first second growth : Int → Nat}

theorem KeepsInvoices.refl (db : Db) : KeepsInvoices organization (fun _ => 0) db db :=
  ⟨fun row here => ⟨row, here, rfl, rfl⟩, fun _ => Nat.le_refl _⟩

theorem KeepsInvoices.of_eq (same : next.invoices = db.invoices) :
    KeepsInvoices organization (fun _ => 0) db next := by
  refine ⟨fun row here => ⟨row, by rw [same]; exact here, rfl, rfl⟩, fun period => ?_⟩
  rw [Db.draftsFor, same]
  exact Nat.le_refl _

theorem KeepsInvoices.trans (one : KeepsInvoices organization first db mid)
    (two : KeepsInvoices organization second mid next) :
    KeepsInvoices organization (fun period => first period + second period) db next where
  kept row here := by
    obtain ⟨later, there, id, lines⟩ := one.kept row here
    obtain ⟨last, end_, id', lines'⟩ := two.kept later there
    exact ⟨last, end_, id'.trans id, lines'.trans lines⟩
  drafts period := by
    have grown := one.drafts period
    have grown' := two.drafts period
    omega

theorem drafts_eq_countP (db : Db) (organization : Nat) (period : Int) :
    (db.draftsFor organization period).length = db.invoices.rows.countP fun invoice =>
      invoice.organizationId = organization ∧ invoice.status = .draft ∧
        invoice.periodStart.map dateOf = some period :=
  List.countP_eq_length_filter.symm

/-- Opening a draft takes it from its period. -/
theorem keeps_finalized {old : Invoice} {number : InvoiceNumber} {now : Int}
    (writes : db.WritesInvoice old (old.finalized number now) next) :
    KeepsInvoices organization (fun _ => 0) db next := by
  refine ⟨fun row here => ?_, fun period => ?_⟩
  · by_cases same : row = old
    · subst same
      exact ⟨_, (writes.mem _).mpr (.inl rfl), rfl, rfl⟩
    · exact ⟨row, (writes.mem _).mpr (.inr ⟨here, same⟩), rfl, rfl⟩
  · rw [drafts_eq_countP, drafts_eq_countP]
    have count := writes.countP fun invoice => invoice.organizationId = organization ∧
      invoice.status = .draft ∧ invoice.periodStart.map dateOf = some period
    have opened : (old.finalized number now).status ≠ .draft := by simp [Invoice.finalized]
    simp only [opened, false_and, and_false, decide_false, Bool.false_eq_true, if_false] at count
    omega

/-- A new draft of a period is one more of that period. -/
theorem keeps_inserted {invoice : Invoice} {now period : Int} {subscription : Subscription}
    {lines : List InvoiceLine} {id : Nat} (inserts : db.InsertsInvoice invoice next)
    (made : invoice = draftInvoice now subscription period lines id) :
    KeepsInvoices organization (fun other => if other = period then 1 else 0) db next := by
  refine ⟨fun row here => ⟨row, ?_, rfl, rfl⟩, fun other => ?_⟩
  · rw [inserts.rows]
    exact List.mem_append_left _ here
  · rw [drafts_eq_countP, drafts_eq_countP, inserts.rows, List.countP_append, List.countP_singleton]
    by_cases same : other = period
    · rw [if_pos same]
      split <;> omega
    · have elsewhere : invoice.periodStart.map dateOf ≠ some other := by
        rw [made]
        simp only [draftInvoice, Option.map_some, dateOf_midnight, ne_eq, Option.some.injEq]
        exact fun eq => same eq.symm
      simp [elsewhere, same]

/-- The organization's subscription is the same row still, with this queue. -/
def Keeping (organization : Nat) (db next : Db) (pendingAdjustments : List Adjustment) : Prop :=
  ∀ subscription, db.currentForOrg organization = some subscription →
    ∃ after, next.currentForOrg organization = some after ∧ after.id = subscription.id ∧
      after.pendingAdjustments = pendingAdjustments

theorem currentForOrg_congr (same : next.subscriptions = db.subscriptions) :
    next.currentForOrg organization = db.currentForOrg organization := by
  rw [Db.currentForOrg, same, Db.currentForOrg]

theorem currentForOrg_written {existing changed : Subscription}
    (current : db.currentForOrg organization = some existing)
    (put : db.putSubscription changed = .ok next) (id : changed.id = existing.id)
    (owner : changed.organizationId = existing.organizationId)
    (status : changed.status = existing.status) :
    next.currentForOrg organization = some changed ∧ next.invoices = db.invoices := by
  obtain ⟨member, mine, occupying⟩ := Db.currentForOrg_eq_some.mp current
  have writes := Db.putSubscription_writes put member id
  have kept := writes.current (by rw [status]; exact occupying)
  rw [owner, mine] at kept
  exact ⟨kept, writes.invoices⟩

/-- A renewal opens its invoice and rolls the period, which leaves the queue alone. -/
theorem renewed_cases {now : Int} {invoice : Nat} {subscription : Subscription}
    (current : db.currentForOrg organization = some subscription)
    (renewed : db.renewed organization now invoice = .ok next) :
    (∃ after, next.currentForOrg organization = some after ∧ after.id = subscription.id ∧
      after.pendingAdjustments = subscription.pendingAdjustments) ∧
    KeepsInvoices organization (fun _ => 0) db next ∧
    ∀ old ∈ db.invoices.rows, old.id = invoice → old.status = .draft →
      ∃ number, ∃ mid : Db, db.WritesInvoice old (old.finalized number now) mid ∧
        next.invoices = mid.invoices := by
  obtain ⟨⟨opened, mid⟩, finalized, renewed⟩ := Result.bind_eq_ok.mp renewed
  obtain ⟨old, located, outcome⟩ := InvoicingService.finalize_cases finalized
  obtain ⟨here, named, -⟩ := InvoicingService.getScoped_eq_ok.mp located
  have kept : KeepsInvoices organization (fun _ => 0) db mid := by
    rcases outcome with ⟨-, -, rfl⟩ | ⟨-, rfl, writes⟩
    · exact .refl _
    · exact keeps_finalized writes
  have subscriptions : mid.subscriptions = db.subscriptions := by
    rcases outcome with ⟨-, -, rfl⟩ | ⟨-, -, writes⟩
    · rfl
    · exact writes.subscriptions
  simp only [currentForOrg_congr subscriptions, current] at renewed
  obtain ⟨after, invoices⟩ := currentForOrg_written
    ((currentForOrg_congr subscriptions).trans current) renewed rfl rfl rfl
  refine ⟨⟨_, after, rfl, rfl⟩, ?_, fun row there same draft => ?_⟩
  · exact kept.trans (.of_eq invoices)
  · obtain rfl := db.invoices.eq_of_id there here (same.trans named.symm)
    rcases outcome with ⟨opened, -⟩ | ⟨-, rfl, writes⟩
    · rw [draft] at opened
      cases opened
    · exact ⟨_, mid, writes, invoices⟩

end Invoices

/-! ### The invariant -/

/-- What a session has read of the queue. -/
structure Reads (organization : Nat) (state : Drafting) (read : DraftRead) : Prop where
  distinct : (read.entries.map (·.tag)).Nodup
  queue : read.subscription.pendingAdjustments = read.entries.map (·.adjustment)
  current : ∃ subscription, state.db.currentForOrg organization = some subscription ∧
    subscription.id = read.subscription.id

structure DraftInvariant (organization : Nat) (state : Drafting) : Prop where
  well : WellDrafted organization state
  distinct : (state.queued.map (·.tag)).Nodup
  fresh : ∀ entry ∈ state.queued, entry.tag < state.next
  spent : ∀ pair ∈ state.billed, pair.2.tag < state.next
  reads : ∀ id renewal period read,
    state.sessions id = some ⟨renewal, period, .read read⟩ ∨
      state.sessions id = some ⟨renewal, period, .written read⟩ → Reads organization state read

section Steps

variable {organization : Nat} {state : Drafting} {id : Nat} {session : DraftSession}

/-- A session moves on while the database stays as it is. -/
theorem DraftInvariant.enter (invariant : DraftInvariant organization state) (lock : Option Nat)
    (found : session.phase ≠ .failed)
    (reads : ∀ read, session.phase = .read read ∨ session.phase = .written read →
      Reads organization state read) :
    DraftInvariant organization { state.enter id session with lock := lock } where
  well := by
    refine ⟨invariant.well.single, invariant.well.once, invariant.well.drained,
      invariant.well.queue, invariant.well.lined, fun other held here => ?_⟩
    simp only [Drafting.enter, Function.update_apply] at here
    split at here
    · cases here
      exact found
    · exact invariant.well.found other held here
  distinct := invariant.distinct
  fresh := invariant.fresh
  spent := invariant.spent
  reads other renewal period read here := by
    have same : Reads organization state read := by
      simp only [Drafting.enter, Function.update_apply] at here
      by_cases mine : other = id
      · simp only [if_pos mine, Option.some.injEq] at here
        exact reads read (here.imp (fun eq => by rw [eq]) fun eq => by rw [eq])
      · simp only [if_neg mine] at here
        exact invariant.reads other renewal period read here
    exact ⟨same.distinct, same.queue, same.current⟩

/-- A session ends, having changed the database or not. -/
theorem DraftInvariant.leave (invariant : DraftInvariant organization state) (id : Nat) {db : Db}
    {queued : List Queued} {billed : List (Nat × Queued)} {next : Nat}
    (well : WellDrafted organization { state.leave id with
      db := db, queued := queued, billed := billed, next := next })
    (distinct : (queued.map (·.tag)).Nodup) (fresh : ∀ entry ∈ queued, entry.tag < next)
    (spent : ∀ pair ∈ billed, pair.2.tag < next)
    (current : ∀ subscription, state.db.currentForOrg organization = some subscription →
      ∃ after, db.currentForOrg organization = some after ∧ after.id = subscription.id) :
    DraftInvariant organization { state.leave id with
      db := db, queued := queued, billed := billed, next := next } where
  well := well
  distinct := distinct
  fresh := fresh
  spent := spent
  reads other renewal period read here := by
    have before : Reads organization state read := by
      have earlier := here.imp (fun found => (Sessions.left found).2) fun found =>
        (Sessions.left found).2
      exact invariant.reads other renewal period read earlier
    obtain ⟨subscription, occupant, same⟩ := before.current
    obtain ⟨after, there, kept⟩ := current subscription occupant
    exact ⟨before.distinct, before.queue, after, there, kept.trans same⟩

/-- Who is left after a session ended. -/
theorem leave_found (invariant : DraftInvariant organization state) (id other : Nat)
    (held : DraftSession) (here : (state.leave id).sessions other = some held) :
    held.phase ≠ .failed := by
  obtain ⟨-, before⟩ := Sessions.left here
  exact invariant.well.found other held before

theorem DraftInvariant.rollback (invariant : DraftInvariant organization state) (id : Nat) :
    DraftInvariant organization (state.leave id) :=
  invariant.leave id ⟨invariant.well.single, invariant.well.once, invariant.well.drained,
    invariant.well.queue, invariant.well.lined, leave_found invariant id⟩ invariant.distinct
    invariant.fresh invariant.spent fun subscription current => ⟨subscription, current, rfl⟩

/-- No lookup meets several drafts. -/
theorem DraftInvariant.search (invariant : DraftInvariant organization state) (id : Nat)
    (renewal : Bool) (period : Int) (lock : Option Nat) :
    DraftInvariant organization
      { state.search organization id renewal period with lock := lock } := by
  have relock : DraftInvariant organization { state with lock := lock } :=
    ⟨⟨invariant.well.single, invariant.well.once, invariant.well.drained, invariant.well.queue,
      invariant.well.lined, invariant.well.found⟩, invariant.distinct, invariant.fresh,
      invariant.spent, fun id renewal period read here =>
        ⟨(invariant.reads id renewal period read here).distinct,
          (invariant.reads id renewal period read here).queue,
          (invariant.reads id renewal period read here).current⟩⟩
  simp only [Drafting.search]
  split
  · next failure several =>
    have single := invariant.well.single period
    unfold Db.findDraft at several
    split at several
    · cases several
    · cases several
    · next drafts notNone notOne =>
      match listed : state.db.draftsFor organization period with
      | [] => exact absurd listed notNone
      | [draft] => exact absurd listed (notOne draft)
      | first :: second :: rest =>
          rw [listed] at single
          simp at single
  · exact invariant.enter lock (by simp) fun read phase => by simp at phase
  · split
    · exact invariant.enter lock (by simp) fun read phase => by simp at phase
    · exact relock

theorem carryover_short (now : Int) (lines : List InvoiceLine) : (carryover now lines).length ≤ 1 := by
  unfold carryover
  split <;> simp

/-- What a request commits: its invoice, and the queue as it wrote it. -/
theorem outcome_cases {now : Int} {renewal : Bool} {period : Int} {read : DraftRead} {db next : Db}
    {subscription : Subscription} (current : db.currentForOrg organization = some subscription)
    (same : subscription.id = read.subscription.id)
    (done : Drafting.outcome organization db now renewal period read = .ok next) :
    (∃ after, next.currentForOrg organization = some after ∧ after.id = subscription.id ∧
      after.pendingAdjustments =
        if read.changes then read.carried else subscription.pendingAdjustments) ∧
    KeepsInvoices organization
      (fun other => if other = period ∧ renewal = false then 1 else 0) db next ∧
    ∃ invoice ∈ next.invoices.rows, invoice.id = db.invoices.next ∧ invoice.lines = read.lines := by
  obtain ⟨⟨invoice, mid⟩, inserted, done⟩ := Result.bind_eq_ok.mp done
  obtain ⟨drained, drain, insert⟩ := Result.bind_eq_ok.mp inserted
  obtain ⟨inserts, made⟩ := Db.insertInvoice_inserts insert
  -- The write of the queue leaves the invoices, and the insert the queue.
  obtain ⟨⟨after, there, sameId, pending⟩, invoices⟩ :
      (∃ after, drained.currentForOrg organization = some after ∧ after.id = subscription.id ∧
        after.pendingAdjustments =
          if read.changes then read.carried else subscription.pendingAdjustments) ∧
      drained.invoices = db.invoices := by
    unfold Db.drained at drain
    split at drain
    · next changes =>
      have stored : db.subscriptions.get read.subscription.id = some subscription :=
        Table.get_eq_some.mpr ⟨(Db.currentForOrg_eq_some.mp current).1, same⟩
      simp only [Db.requeue, stored] at drain
      obtain ⟨there, invoices⟩ := currentForOrg_written current drain rfl rfl rfl
      exact ⟨⟨_, there, rfl, by simp [changes]⟩, invoices⟩
    · next idle =>
      cases drain
      exact ⟨⟨subscription, current, rfl, by simp [idle]⟩, rfl⟩
  have now_there : mid.currentForOrg organization = some after :=
    (currentForOrg_congr inserts.subscriptions).trans there
  have added : KeepsInvoices organization (fun other => if other = period then 1 else 0) drained mid :=
    keeps_inserted inserts made
  have member : invoice ∈ mid.invoices.rows := by
    rw [inserts.rows]
    simp
  have number : invoice.id = db.invoices.next := by
    rw [made, ← invoices]
    rfl
  have lines : invoice.lines = read.lines := by
    rw [made]
    rfl
  have untouched : KeepsInvoices organization (fun _ => 0) db drained :=
    KeepsInvoices.of_eq invoices
  have through := untouched.trans added
  cases renewal with
  | false =>
      cases done
      refine ⟨⟨after, now_there, sameId, pending⟩, ⟨through.kept, fun other => ?_⟩, invoice, member,
        number, lines⟩
      have grown := through.drafts other
      simpa using grown
  | true =>
      obtain ⟨⟨last, current', sameId', pending'⟩, kept, opened⟩ := renewed_cases now_there done
      have draft : invoice.status = .draft := by
        rw [made]
        rfl
      obtain ⟨number', rest, writes, sameInvoices⟩ := opened invoice member rfl draft
      refine ⟨⟨last, current', sameId'.trans sameId, pending'.trans pending⟩,
        ⟨(through.trans kept).kept, fun other => ?_⟩, ?_⟩
      · -- The draft inserted is the one opened.
        have count := writes.countP fun row => row.organizationId = organization ∧
          row.status = .draft ∧ row.periodStart.map dateOf = some other
        have extended : mid.invoices.rows.countP (fun row => row.organizationId = organization ∧
            row.status = .draft ∧ row.periodStart.map dateOf = some other) =
              db.invoices.rows.countP (fun row => row.organizationId = organization ∧
                row.status = .draft ∧ row.periodStart.map dateOf = some other) +
              if (decide (invoice.organizationId = organization ∧ invoice.status = .draft ∧
                invoice.periodStart.map dateOf = some other)) = true then 1 else 0 := by
          rw [inserts.rows, invoices, List.countP_append, List.countP_singleton]
        have opened : (invoice.finalized number' now).status ≠ .draft := by
          simp [Invoice.finalized]
        simp only [opened, false_and, and_false, decide_false, Bool.false_eq_true, if_false] at count
        rw [drafts_eq_countP, drafts_eq_countP, sameInvoices]
        omega
      · obtain ⟨later, there, id, same⟩ := kept.kept invoice member
        exact ⟨later, there, id.trans number, same.trans lines⟩

theorem search_lock (state : Drafting) (id : Nat) (renewal : Bool) (period : Int) :
    { state.search organization id renewal period with lock := state.lock } =
      state.search organization id renewal period := by
  unfold Drafting.search
  split
  · rfl
  · rfl
  · split <;> rfl

/-- Rows kept keep what they were billed. -/
theorem KeepsInvoices.lined {growth : Int → Nat} {db next : Db} {billed : List (Nat × Queued)}
    (keeps : KeepsInvoices organization growth db next)
    (lined : ∀ pair ∈ billed, ∃ invoice ∈ db.invoices.rows, invoice.id = pair.1 ∧
      (pair.2.adjustment.amountCents ≠ 0 → pair.2.adjustment.line ∈ invoice.lines)) :
    ∀ pair ∈ billed, ∃ invoice ∈ next.invoices.rows, invoice.id = pair.1 ∧
      (pair.2.adjustment.amountCents ≠ 0 → pair.2.adjustment.line ∈ invoice.lines) := by
  intro pair member
  obtain ⟨invoice, here, named, line⟩ := lined pair member
  obtain ⟨later, there, id, lines⟩ := keeps.kept invoice here
  exact ⟨later, there, id.trans named, fun owed => lines ▸ line owed⟩

/-- The queue after a commit: the carried credit under a fresh tag, or what it was. -/
theorem requeued_cases (read : DraftRead) {entry : Queued}
    (member : entry ∈ state.requeued read) :
    read.changes = true ∧ entry.tag = state.next ∨
      read.changes = false ∧ entry ∈ state.queued := by
  unfold Drafting.requeued at member
  split at member
  · next changes =>
    obtain ⟨adjustment, -, rfl⟩ := List.mem_map.mp member
    exact .inl ⟨changes, rfl⟩
  · next idle => exact .inr ⟨by simpa using idle, member⟩

theorem requeued_nodup (invariant : DraftInvariant organization state) (read : DraftRead) :
    ((state.requeued read).map (·.tag)).Nodup := by
  unfold Drafting.requeued
  split
  · have short := carryover_short read.now read.lines
    change ((carryover read.now read.lines).map _ |>.map _).Nodup
    match carryover read.now read.lines, short with
    | [], _ => simp
    | [only], _ => simp
  · exact invariant.distinct

/-- The commit of a request whose corrections are still queued, and whose period has
no draft yet if it leaves one. -/
theorem DraftInvariant.commit (invariant : DraftInvariant organization state) {now : Int}
    {renewal : Bool} {period : Int} {read : DraftRead} {db : Db}
    (found : state.sessions id = some ⟨renewal, period, .written read⟩)
    (free : renewal = false → state.db.draftsFor organization period = [])
    (still : ∀ entry ∈ read.entries, entry ∈ state.queued)
    (done : Drafting.outcome organization state.db now renewal period read = .ok db) :
    DraftInvariant organization { state.leave id with
      db := db
      queued := state.requeued read
      billed := state.billed ++ read.entries.map (⟨state.db.invoices.next, ·⟩)
      next := state.next + 1 } := by
  have reads := invariant.reads id renewal period read (.inr found)
  obtain ⟨subscription, current, same⟩ := reads.current
  obtain ⟨⟨after, there, sameId, pending⟩, keeps, invoice, member, number, lines⟩ :=
    outcome_cases current same done
  -- Nothing read is in the queue unless the queue is rewritten.
  have idle (quiet : read.changes = false) : read.entries = [] := by
    simp only [DraftRead.changes, decide_eq_false_iff_not, not_or, ne_eq, Decidable.not_not] at quiet
    exact List.map_eq_nil_iff.mp (reads.queue.symm.trans quiet.1)
  have tags : (state.billed ++ read.entries.map fun entry => (state.db.invoices.next, entry)).map
      (·.2.tag) = state.billed.map (·.2.tag) ++ read.entries.map (·.tag) := by
    simp [Function.comp_def]
  refine invariant.leave id ⟨fun other => ?_, ?_, fun entry queued => ?_, fun row occupant => ?_, ?_,
    leave_found invariant id⟩ (requeued_nodup invariant read) (fun entry queued => ?_)
    (fun pair billed => ?_) fun row occupant => ?_
  · have grown := keeps.drafts other
    have before := invariant.well.single other
    change (db.draftsFor organization other).length ≤ 1
    by_cases leaves : other = period ∧ renewal = false
    · rw [leaves.1] at grown ⊢
      rw [free leaves.2] at grown
      simpa [leaves.2] using grown
    · simp only [if_neg leaves] at grown
      omega
  · change ((state.billed ++ _).map _).Nodup
    rw [tags]
    refine List.nodup_append'.mpr ⟨invariant.well.once, reads.distinct, ?_⟩
    intro tag earlier now_billed
    obtain ⟨entry, here, rfl⟩ := List.mem_map.mp now_billed
    exact invariant.well.drained entry (still entry here) earlier
  · change entry.tag ∉ (state.billed ++ _).map _
    rw [tags, List.mem_append, not_or]
    rcases requeued_cases read queued with ⟨-, fresh⟩ | ⟨quiet, earlier⟩
    · rw [fresh]
      constructor
      · intro spent
        obtain ⟨pair, here, same⟩ := List.mem_map.mp spent
        have bound := invariant.spent pair here
        omega
      · intro spent
        obtain ⟨entry, here, same⟩ := List.mem_map.mp spent
        have bound := invariant.fresh entry (still entry here)
        omega
    · rw [idle quiet]
      exact ⟨invariant.well.drained entry earlier, by simp⟩
  · change row.pendingAdjustments = (state.requeued read).map (·.adjustment)
    rw [show db.currentForOrg organization = some after from there] at occupant
    cases occupant
    rw [pending, Drafting.requeued]
    split
    · simp [Function.comp_def]
    · exact invariant.well.queue subscription current
  · intro pair billed
    rcases List.mem_append.mp billed with earlier | latest
    · exact keeps.lined invariant.well.lined pair earlier
    · obtain ⟨entry, here, rfl⟩ := List.mem_map.mp latest
      refine ⟨invoice, member, number, fun owed => ?_⟩
      rw [lines, DraftRead.lines, reads.queue]
      refine List.mem_append_right _ (List.mem_map_of_mem (List.mem_filter.mpr ⟨?_, by simpa using owed⟩))
      exact List.mem_map_of_mem here
  · rcases requeued_cases read queued with ⟨-, fresh⟩ | ⟨-, earlier⟩
    · omega
    · have bound := invariant.fresh entry earlier
      omega
  · rcases List.mem_append.mp billed with earlier | latest
    · have bound := invariant.spent pair earlier
      omega
    · obtain ⟨entry, here, rfl⟩ := List.mem_map.mp latest
      have bound := invariant.fresh entry (still entry here)
      change entry.tag < state.next + 1
      omega
  · rw [current] at occupant
    cases occupant
    exact ⟨after, there, sameId⟩

theorem DraftInvariant.step (invariant : DraftInvariant organization state) (action : DraftAction)
    (still : StillQueued organization state action) :
    DraftInvariant organization (Drafting.step organization state action) := by
  cases action with
  | draft id period =>
      simp only [Drafting.step]
      split
      · exact invariant
      · rw [← search_lock]
        exact invariant.search id false period state.lock
  | renew id =>
      simp only [Drafting.step]
      split
      · split
        · exact invariant.search id true _ (some id)
        · exact invariant
      · exact invariant
  | read id now overage =>
      simp only [Drafting.step]
      split
      · next renewal period subscription found current =>
        refine invariant.enter state.lock (by simp) fun read phase => ?_
        rcases phase with phase | phase
        · cases phase
          exact ⟨invariant.distinct, invariant.well.queue subscription current, subscription,
            current, rfl⟩
        · cases phase
      · exact invariant
  | write id =>
      simp only [Drafting.step]
      split
      · next renewal period read found =>
        have reads (other : DraftRead) (phase : (⟨renewal, period, .written read⟩ :
            DraftSession).phase = .read other ∨ (⟨renewal, period, .written read⟩ :
            DraftSession).phase = .written other) : Reads organization state other := by
          rcases phase with phase | phase
          · cases phase
          · cases phase
            exact invariant.reads id renewal period read (.inl found)
        split
        · split
          · exact invariant.enter (some id) (by simp) reads
          · exact invariant
        · exact invariant.enter state.lock (by simp) reads
      · exact invariant
  | rollback id => exact invariant.rollback id
  | commit id now =>
      simp only [Drafting.step]
      split
      · next period invoice found =>
        split
        · next db renewed =>
          cases current : state.db.currentForOrg organization with
          | none =>
              obtain ⟨⟨opened, mid⟩, finalized, renewed⟩ := Result.bind_eq_ok.mp renewed
              obtain ⟨old, -, outcome⟩ := InvoicingService.finalize_cases finalized
              have subscriptions : mid.subscriptions = state.db.subscriptions := by
                rcases outcome with ⟨-, -, rfl⟩ | ⟨-, -, writes⟩
                · rfl
                · exact writes.subscriptions
              simp only [currentForOrg_congr subscriptions, current] at renewed
              cases renewed
          | some subscription =>
              obtain ⟨⟨after, there, sameId, pending⟩, keeps, -⟩ := renewed_cases current renewed
              refine invariant.leave id ⟨fun period => ?_, invariant.well.once,
                invariant.well.drained, fun row occupant => ?_, keeps.lined invariant.well.lined,
                leave_found invariant id⟩ invariant.distinct invariant.fresh invariant.spent
                fun row occupant => ?_
              · exact (keeps.drafts period).trans (invariant.well.single period)
              · rw [show db.currentForOrg organization = some after from there] at occupant
                cases occupant
                rw [pending]
                exact invariant.well.queue subscription current
              · rw [current] at occupant
                cases occupant
                exact ⟨after, there, sameId⟩
        · exact invariant.rollback id
      · next renewal period read found =>
        split
        · next db done =>
          obtain ⟨free, queued⟩ := still renewal period read found
          exact invariant.commit found free queued done
        · exact invariant.rollback id
      · exact invariant

end Steps

/-- The queue of the organization's subscription, its entries numbered. -/
def Drafting.opening (organization : Nat) (db : Db) : Drafting :=
  let queue := ((db.currentForOrg organization).map (·.pendingAdjustments)).getD []
  { db := db
    queued := queue.zipIdx.map fun pair => ⟨pair.2, pair.1⟩
    next := queue.length }

theorem DraftInvariant.opening {organization : Nat} {db : Db}
    (single : ∀ period, (db.draftsFor organization period).length ≤ 1) :
    DraftInvariant organization (Drafting.opening organization db) where
  well := by
    refine ⟨single, List.nodup_nil, fun _ _ => List.not_mem_nil, fun subscription current => ?_,
      fun _ billed => (by cases billed), fun _ _ found => (by cases found)⟩
    change db.currentForOrg organization = some subscription at current
    simp [Drafting.opening, current, Function.comp_def]
  distinct := by
    simp only [Drafting.opening, List.map_map]
    exact List.zipIdx_map_snd 0 _ ▸ List.nodup_range'
  fresh entry queued := by
    obtain ⟨pair, member, rfl⟩ := List.mem_map.mp queued
    have bound := List.snd_lt_of_mem_zipIdx member
    simpa [Drafting.opening] using bound
  spent _ billed := by cases billed
  reads _ _ _ _ found := by
    rcases found with found | found <;> cases found

/-- In every interleaving of draft requests and renewals that commits only what still
holds, there is one draft a period and no correction is billed twice. -/
theorem drafting_of_still_queued (organization : Nat) (db : Db)
    (single : ∀ period, (db.draftsFor organization period).length ≤ 1) (actions : List DraftAction)
    (still : Runs.Guarded (Drafting.step organization) (StillQueued organization)
      (Drafting.opening organization db) actions) :
    Runs.Always (Drafting.step organization) (WellDrafted organization)
      (Drafting.opening organization db) actions := by
  have always : Runs.Always (Drafting.step organization) (DraftInvariant organization)
      (Drafting.opening organization db) actions :=
    Runs.always_of_guarded _ (fun _ action invariant still => invariant.step action still)
      (DraftInvariant.opening single) still
  exact always.mono _ fun _ invariant => invariant.well

/-! An organization with a credit waiting. -/

def queuedDb : Db :=
  sampleDb { sampleSubscription 0 with
    pendingAdjustments :=
      [{ kind := "proration", amountCents := -200, description := "credit", createdAt := 0 }] }

def singleDraft : List DraftAction := [.draft 0 0, .read 0 day [], .write 0, .commit 0 day]

theorem drafting_of_still_queued_single :
    Runs.Always (Drafting.step 1) (WellDrafted 1) (Drafting.opening 1 queuedDb) singleDraft := by
  refine drafting_of_still_queued 1 queuedDb (fun period => ?_) singleDraft ?_
  · simp [Db.draftsFor, queuedDb, sampleDb, Table.empty]
  · refine ⟨trivial, trivial, trivial, fun renewal period read found => ?_, trivial⟩
    cases found
    exact ⟨fun _ => rfl, fun _ member => member⟩

/-- Two requests look for the draft of a period before either has inserted it. -/
def doubledDraft : List DraftAction :=
  [.draft 0 0, .draft 1 0, .read 0 day [], .read 1 day [], .write 0, .commit 0 day, .write 1,
    .commit 1 day, .draft 2 0]

/-- Both insert a draft with the same credit on it, and the next request for the
period meets both. -/
theorem doubled_draft_bills_twice :
    ¬ Runs.Always (Drafting.step 1) (WellDrafted 1) (Drafting.opening 1 queuedDb) doubledDraft ∧
      ((Runs.run (Drafting.step 1) (Drafting.opening 1 queuedDb) doubledDraft).billed.map
        fun pair => (pair.1, pair.2.tag)) = [(0, 0), (1, 0)] ∧
      ((Runs.run (Drafting.step 1) (Drafting.opening 1 queuedDb) doubledDraft).db.draftsFor
        1 0).length = 2 ∧
      ((Runs.run (Drafting.step 1) (Drafting.opening 1 queuedDb) doubledDraft).sessions 2).map
        (·.phase) = some .failed := by
  have failed : ((Runs.run (Drafting.step 1) (Drafting.opening 1 queuedDb) doubledDraft).sessions
      2).map (·.phase) = some .failed := by decide +kernel
  refine ⟨fun always => ?_, by decide +kernel, by decide +kernel, failed⟩
  obtain ⟨session, found, phase⟩ := Option.map_eq_some_iff.mp failed
  exact always.last.found 2 session found phase

end SynapseSaas
