import SynapseSaas.Billing.Invoicing
import SynapseSaas.Billing.Providers
import SynapseSaas.Foundation.Runs

/-! The renewal job: bill the period that ended, in arrears, then roll the
subscription to the next one. -/

set_option autoImplicit false

namespace SynapseSaas

def renewalBatch : Nat := 100

/-- The step of a renewal: 365 days for a yearly snapshot, 30 days otherwise. -/
def Subscription.renewalInterval (subscription : Subscription) : Int :=
  (if subscription.yearly then 365 else 30) * day

theorem Subscription.interval_pos (subscription : Subscription) :
    0 < subscription.renewalInterval := by
  simp only [Subscription.renewalInterval]
  split <;> decide

def Subscription.rolled (subscription : Subscription) : Subscription :=
  { subscription with
    currentPeriodStart := subscription.currentPeriodEnd
    currentPeriodEnd := subscription.currentPeriodEnd + subscription.renewalInterval }

/-- The month a renewal bills: the one its ended period starts in. -/
def Subscription.billedPeriod (subscription : Subscription) : Int :=
  firstOfMonth (dateOf subscription.currentPeriodStart)

/-- There is something to invoice: a price, or corrections waiting. -/
def Subscription.billable (subscription : Subscription) : Bool :=
  0 < subscription.priceCents ∨ subscription.pendingAdjustments ≠ []

def billEndedPeriod (env : Env) (db : Db) (subscription : Subscription) : Result Db := do
  if subscription.billable then
    let (invoice, db) ← InvoicingService.draftForOrg env db subscription.organizationId
      (some subscription.billedPeriod)
    if invoice.status = .draft then
      let (_, db) ← InvoicingService.finalize env.now db invoice.id subscription.organizationId
      return db
    else return db
  else return db

def renewLocallyBilled (env : Env) (db : Db) (subscription : Subscription) : Result Db := do
  let db ← billEndedPeriod env db subscription
  match db.subscriptions.get subscription.id with
  | some current => db.putSubscription current.rolled
  | none => .error (.other .noResult)

/-- Active, ended, not canceling, and billed here rather than by its provider. -/
def Subscription.due (subscription : Subscription) (now : Int) : Bool :=
  subscription.status = .active ∧ subscription.currentPeriodEnd ≤ now ∧
    subscription.cancelAtPeriodEnd = false ∧
    subscription.provider.all (· ∈ locallyBilledProviderNames)

/-- What makes a row due once its period ends; a renewal leaves it so. -/
def Subscription.Renewable (subscription : Subscription) : Prop :=
  subscription.status = .active ∧ subscription.cancelAtPeriodEnd = false ∧
    subscription.provider.all (· ∈ locallyBilledProviderNames)

/-- The rows a pass claims, those that ended first in front. -/
def dueBatch (env : Env) (db : Db) : List Nat :=
  (((db.subscriptions.rows.filter (·.due env.now)).insertionSort fun first second =>
    first.currentPeriodEnd ≤ second.currentPeriodEnd).take renewalBatch).map (·.id)

/-- One row of a batch, in its own savepoint: a renewal that fails is logged and
leaves the database as it was. -/
def renewRow (env : Env) (state : Nat × Db) (id : Nat) : Nat × Db :=
  match state.2.subscriptions.get id with
  | none => state
  | some subscription =>
      match renewLocallyBilled env state.2 subscription with
      | .ok next => (state.1 + 1, next)
      | .error _ => state

def advanceRecurringBilling (env : Env) (db : Db) : Nat × Db :=
  (dueBatch env db).foldl (renewRow env) (0, db)

/-- What a successful renewal does. -/
inductive Renewed (env : Env) (db : Db) (subscription : Subscription) (next : Db) : Prop where
  | unbilled (idle : subscription.billable = false)
      (rolls : db.WritesSubscription subscription subscription.rolled next)
  | reused {draft opened : Invoice} {mid : Db} (billable : subscription.billable)
      (found : db.draftsFor subscription.organizationId subscription.billedPeriod = [draft])
      (opened_eq : opened =
        draft.finalized (db.nextNumber env.now subscription.organizationId) env.now)
      (finalizes : db.WritesInvoice draft opened mid)
      (rolls : mid.WritesSubscription subscription subscription.rolled next)
  | drafted {lines : List InvoiceLine} {drained : Subscription} {draft opened : Invoice}
      {mid drafting finalizing : Db} (billable : subscription.billable)
      (absent : db.draftsFor subscription.organizationId subscription.billedPeriod = [])
      (lines_eq : lines = draftLines (effectiveForOrg env db subscription.organizationId) db
        subscription subscription.billedPeriod)
      (drained_eq : drained =
        { subscription with pendingAdjustments := carryover env.now lines })
      (drains : db.WritesSubscription subscription drained mid)
      (draft_eq : draft = draftInvoice env.now subscription subscription.billedPeriod lines
        mid.invoices.next)
      (drafts : mid.InsertsInvoice draft drafting)
      (opened_eq : opened =
        draft.finalized (drafting.nextNumber env.now subscription.organizationId) env.now)
      (finalizes : drafting.WritesInvoice draft opened finalizing)
      (rolls : finalizing.WritesSubscription drained drained.rolled next)

section Specifications

variable {env : Env} {db next : Db} {subscription : Subscription}

/-- The row read back after billing is the one billing left. -/
theorem roll_writes {current : Subscription} (member : current ∈ db.subscriptions.rows)
    (same : current.id = subscription.id)
    (rolled : (match db.subscriptions.get subscription.id with
      | some current => db.putSubscription current.rolled
      | none => .error (.other .noResult)) = .ok next) :
    db.WritesSubscription current current.rolled next := by
  rw [Table.get_eq_some.mpr ⟨member, same⟩] at rolled
  exact Db.putSubscription_writes rolled member rfl

theorem finalize_draft {draft : Invoice} {result : Invoice × Db}
    (member : draft ∈ db.invoices.rows) (status : draft.status = .draft)
    (mine : draft.organizationId = subscription.organizationId)
    (done : InvoicingService.finalize env.now db draft.id subscription.organizationId =
      .ok result) :
    db.WritesInvoice draft
      (draft.finalized (db.nextNumber env.now subscription.organizationId) env.now) result.2 := by
  obtain ⟨old, located, ⟨opened, -, -⟩ | ⟨-, eq, writes⟩⟩ := InvoicingService.finalize_cases done
  all_goals
    rw [InvoicingService.getScoped_eq_ok.mpr ⟨member, rfl, mine⟩] at located
    cases located
  · rw [status] at opened
    cases opened
  · exact eq ▸ writes

theorem renewLocallyBilled_renewed
    (current : db.currentForOrg subscription.organizationId = some subscription)
    (renewed : renewLocallyBilled env db subscription = .ok next) :
    Renewed env db subscription next := by
  have member := (Db.currentForOrg_eq_some.mp current).1
  obtain ⟨billed, bills, rolled⟩ := Result.bind_eq_ok.mp renewed
  cases billable : subscription.billable with
  | false =>
      rw [billEndedPeriod, billable] at bills
      cases bills
      exact .unbilled billable (roll_writes member rfl rolled)
  | true =>
      rw [billEndedPeriod, if_pos billable] at bills
      obtain ⟨⟨draft, drafting⟩, drafted, opening⟩ := Result.bind_eq_ok.mp bills
      simp only at opening
      -- A draft of the ended period was there, or it is computed from the events.
      rcases InvoicingService.draftForOrg_cases drafted with
        ⟨found, rfl⟩ | ⟨absent, other, lines, mid, active, lines_eq, drains, drafts, draft_eq⟩
      · have located : draft ∈ drafting.draftsFor subscription.organizationId
            subscription.billedPeriod := by simp only [Option.getD_some] at found; simp [found]
        obtain ⟨here, mine, status, -⟩ := InvoicingService.mem_draftsFor.mp located
        rw [if_pos status] at opening
        obtain ⟨result, done, eq⟩ := Result.bind_eq_ok.mp opening
        cases eq
        have finalizes := finalize_draft here status mine done
        refine .reused billable found rfl finalizes (roll_writes ?_ rfl rolled)
        rw [finalizes.subscriptions]
        exact member
      · rw [current] at active
        cases active
        have status : draft.status = .draft := draft_eq ▸ rfl
        have here : draft ∈ drafting.invoices.rows := by rw [drafts.rows]; simp
        rw [if_pos status] at opening
        obtain ⟨result, done, eq⟩ := Result.bind_eq_ok.mp opening
        cases eq
        have finalizes := finalize_draft here status (draft_eq ▸ rfl) done
        refine .drafted billable absent lines_eq rfl drains draft_eq drafts rfl finalizes
          (roll_writes ?_ rfl rolled)
        rw [finalizes.subscriptions, drafts.subscriptions]
        exact (drains.mem _).mpr (.inl rfl)

/-- A renewal replaces its subscription by the rolled one, the queue aside. -/
theorem Renewed.mem (renewed : Renewed env db subscription next) :
    ∃ drained : Subscription,
      drained = { subscription with pendingAdjustments := drained.pendingAdjustments } ∧
      ∀ other, other ∈ next.subscriptions.rows ↔
        other = drained.rolled ∨ other ∈ db.subscriptions.rows ∧ other ≠ subscription := by
  cases renewed with
  | unbilled idle rolls => exact ⟨subscription, rfl, rolls.mem⟩
  | reused billable found opened_eq finalizes rolls =>
      refine ⟨subscription, rfl, fun other => ?_⟩
      rw [rolls.mem, finalizes.subscriptions]
  | @drafted lines drained draft opened mid drafting finalizing billable absent lines_eq drained_eq
      drains draft_eq drafts opened_eq finalizes rolls =>
      refine ⟨drained, drained_eq ▸ rfl, fun other => ?_⟩
      rw [rolls.mem, finalizes.subscriptions, drafts.subscriptions, drains.mem]
      constructor
      · rintro (rolled | ⟨rfl | kept, distinct⟩)
        · exact .inl rolled
        · exact absurd rfl distinct
        · exact .inr kept
      · rintro (rolled | ⟨here, distinct⟩)
        · exact .inl rolled
        · refine .inr ⟨.inr ⟨here, distinct⟩, fun eq => distinct ?_⟩
          exact Table.eq_of_id _ here drains.member (eq ▸ drained_eq ▸ rfl)

theorem Renewed.keeps_renewable {id : Nat} (renewed : Renewed env db subscription next)
    (member : subscription ∈ db.subscriptions.rows)
    (renewable : ∀ row ∈ db.subscriptions.rows, row.id = id → row.Renewable) :
    ∀ row ∈ next.subscriptions.rows, row.id = id → row.Renewable := by
  obtain ⟨drained, drained_eq, rows⟩ := renewed.mem
  intro row here same
  rcases (rows row).mp here with rfl | ⟨here, -⟩
  · rw [drained_eq] at same ⊢
    exact renewable subscription member same
  · exact renewable row here same

theorem renewable_of_mem_dueBatch {id : Nat} (due : id ∈ dueBatch env db) :
    ∀ row ∈ db.subscriptions.rows, row.id = id → row.Renewable := by
  obtain ⟨claimed, taken, same⟩ := List.mem_map.mp due
  have sorted := List.mem_of_mem_take taken
  rw [List.mem_insertionSort, List.mem_filter] at sorted
  obtain ⟨here, due⟩ := sorted
  simp only [Subscription.due, decide_eq_true_eq] at due
  obtain ⟨active, -, renews, locally⟩ := due
  intro row member mine
  have alike : row = claimed := Table.eq_of_id _ member here (mine.trans same.symm)
  rw [alike]
  exact ⟨active, renews, locally⟩

/-- The rule of a batch: what every renewal of a renewable row keeps, the batch keeps. -/
theorem batch_invariant {invariant : Db → Prop}
    (preserved : ∀ db row next, invariant db → row ∈ db.subscriptions.rows → row.Renewable →
      Renewed env db row next → invariant next)
    (ids : List Nat) {renewals : Nat} (holds : invariant db)
    (renewable : ∀ id ∈ ids, ∀ row ∈ db.subscriptions.rows, row.id = id → row.Renewable) :
    invariant (ids.foldl (renewRow env) (renewals, db)).2 := by
  induction ids generalizing db renewals with
  | nil => exact holds
  | cons id rest ih =>
      obtain ⟨first, others⟩ := List.forall_mem_cons.mp renewable
      rw [List.foldl_cons]
      simp only [renewRow]
      split
      · exact ih holds others
      · next row found =>
          obtain ⟨member, same⟩ := Table.get_eq_some.mp found
          have renews := first row member same
          split
          · next next ok =>
              have current : db.currentForOrg row.organizationId = some row :=
                Db.currentForOrg_eq_some.mpr ⟨member, rfl, by rw [renews.1]; rfl⟩
              have renewed := renewLocallyBilled_renewed current ok
              apply ih (preserved db row next holds member renews renewed)
              intro other later
              exact renewed.keeps_renewable member (others other later)
          · -- the savepoint of a failed renewal is rolled back
            exact ih holds others

theorem advanceRecurringBilling_invariant {invariant : Db → Prop}
    (preserved : ∀ db row next, invariant db → row ∈ db.subscriptions.rows → row.Renewable →
      Renewed env db row next → invariant next) (holds : invariant db) :
    invariant (advanceRecurringBilling env db).2 :=
  batch_invariant preserved _ holds fun _ => renewable_of_mem_dueBatch

end Specifications

end SynapseSaas
