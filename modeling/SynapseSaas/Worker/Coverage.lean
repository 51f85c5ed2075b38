import SynapseSaas.Worker.Renewals
import Mathlib.Data.Finset.Card
import Mathlib.Data.Finset.Range

/-! Which calendar months a run of the renewal job bills.

Usage is counted by calendar month and periods move in steps of 30 or 365 days:
a renewal bills the month its period starts in. -/

set_option autoImplicit false

namespace SynapseSaas

/-- A finalized invoice of the organization whose lines bill a month's usage. -/
def Invoice.bills (invoice : Invoice) (organization : Nat) (month : Int) : Bool :=
  invoice.organizationId = organization ∧ invoice.status ≠ .draft ∧ invoice.status ≠ .void ∧
    invoice.periodStart.map dateOf = some (Calendar.firstDay month)

/-- How many finalized invoices bill a month. -/
def Db.billed (db : Db) (organization : Nat) (month : Int) : Nat :=
  db.invoices.rows.countP (·.bills organization month)

namespace Subscription

variable (subscription : Subscription)

/-- The start of the period after so many renewals. -/
def startOf : Nat → Int
  | 0 => subscription.currentPeriodStart
  | count + 1 => subscription.currentPeriodEnd + count * subscription.renewalInterval

/-- The month the renewal after so many others bills. -/
def monthOf (count : Nat) : Int := Calendar.monthOf (dateOf (subscription.startOf count))

/-- The month lies inside the span of the first so many periods. -/
def Spans (count : Nat) (month : Int) : Prop :=
  subscription.startOf 0 ≤ midnight (Calendar.firstDay month) ∧
    midnight (Calendar.firstDay (month + 1)) ≤ subscription.startOf count

end Subscription

/-- Every month inside the renewed span is billed on exactly one finalized
invoice, and no month on two. -/
def Covered (subscription : Subscription) (count : Nat) (db : Db) : Prop :=
  (∀ month, db.billed subscription.organizationId month ≤ 1) ∧
    ∀ month, subscription.Spans count month → db.billed subscription.organizationId month = 1

/-- The renewed periods keep step with the calendar: they start in different
months, none of them billed before, and leave out no month of the span that was
not billed before. -/
structure InStep (subscription : Subscription) (count : Nat) (db : Db) : Prop where
  distinct : ∀ i j, i < j → j < count → subscription.monthOf i ≠ subscription.monthOf j
  unbilled : ∀ i < count, db.billed subscription.organizationId (subscription.monthOf i) = 0
  gapless : ∀ month, subscription.Spans count month → (∀ i < count, subscription.monthOf i ≠ month) →
    db.billed subscription.organizationId month = 1
  single : ∀ month, db.billed subscription.organizationId month ≤ 1

/-- One pass of the job, over whatever usage, grants and catalog it finds. -/
structure Pass where
  env : Env
  usageCounters : List UsageCounter
  entitlements : List Entitlement
  plans : List Plan
  metrics : List Metric

def Pass.meet (pass : Pass) (db : Db) : Db :=
  { db with
    usageCounters := pass.usageCounters
    entitlements := pass.entitlements
    plans := pass.plans
    metrics := pass.metrics }

def runPass (db : Db) (pass : Pass) : Db := (advanceRecurringBilling pass.env (pass.meet db)).2

/-- How many of the first so many renewals bill a month. -/
def hits (subscription : Subscription) (count : Nat) (month : Int) : Nat :=
  ((Finset.range count).filter fun i => subscription.monthOf i = month).card

section Renewal

variable {env : Env} {db next : Db} {subscription : Subscription}

/-- A renewal adds one invoice for the month its period starts in. -/
theorem Renewed.billed (renewed : Renewed env db subscription next) (organization : Nat)
    (month : Int) :
    next.billed organization month = db.billed organization month +
      if subscription.billable ∧ subscription.organizationId = organization ∧
        Calendar.monthOf (dateOf subscription.currentPeriodStart) = month then 1 else 0 := by
  have period_iff : subscription.billedPeriod = Calendar.firstDay month ↔
      Calendar.monthOf (dateOf subscription.currentPeriodStart) = month :=
    Calendar.firstDay_strictMono.injective.eq_iff
  cases renewed with
  | unbilled idle rolls => simp [Db.billed, rolls.invoices, idle]
  | @reused draft opened mid billable found opened_eq finalizes rolls =>
      have located : draft ∈ db.draftsFor subscription.organizationId subscription.billedPeriod := by
        simp [found]
      obtain ⟨-, mine, status, period⟩ := InvoicingService.mem_draftsFor.mp located
      have counted := finalizes.countP (·.bills organization month)
      -- A draft does not count as a bill, and once opened it does.
      have before : draft.bills organization month = false := by simp [Invoice.bills, status]
      have after : opened.bills organization month = true ↔
          subscription.organizationId = organization ∧
            Calendar.monthOf (dateOf subscription.currentPeriodStart) = month := by
        simp [opened_eq, Invoice.finalized, Invoice.bills, mine, period, period_iff]
      simp only [before, Bool.false_eq_true, if_false, add_zero, after] at counted
      simpa only [Db.billed, rolls.invoices, billable, true_and] using counted
  | @drafted lines drained draft opened mid drafting finalizing billable absent lines_eq drained_eq
      drains draft_eq drafts opened_eq finalizes rolls =>
      have counted := finalizes.countP (·.bills organization month)
      have before : draft.bills organization month = false := by
        simp [draft_eq, draftInvoice, Invoice.bills]
      have after : opened.bills organization month = true ↔
          subscription.organizationId = organization ∧
            Calendar.monthOf (dateOf subscription.currentPeriodStart) = month := by
        simp [opened_eq, Invoice.finalized, draft_eq, draftInvoice, Invoice.bills, period_iff]
      simp only [before, Bool.false_eq_true, if_false, add_zero, after, drafts.rows,
        List.countP_append, List.countP_singleton, drains.invoices] at counted
      simpa only [Db.billed, rolls.invoices, billable, true_and] using counted

end Renewal

section Run

variable {env : Env} {start db next : Db} {subscription : Subscription} {count : Nat}

/-- The row of a subscription after so many renewals. -/
structure Follows (subscription : Subscription) (count : Nat) (current : Subscription) : Prop where
  id : current.id = subscription.id
  organization : current.organizationId = subscription.organizationId
  active : current.status = .active
  snapshot : current.planSnapshot = subscription.planSnapshot
  starts : current.currentPeriodStart = subscription.startOf count
  ends : current.currentPeriodEnd = subscription.startOf (count + 1)

/-- What a run keeps: the subscription is so many renewals on, and each of them
billed its month once. -/
structure Renewing (start : Db) (subscription : Subscription) (count : Nat) (db : Db) : Prop where
  follows : ∃ current ∈ db.subscriptions.rows, Follows subscription count current
  billed : ∀ month, db.billed subscription.organizationId month =
    start.billed subscription.organizationId month + hits subscription count month

theorem Follows.rolled {current : Subscription} (follows : Follows subscription count current) :
    Follows subscription (count + 1) current.rolled := by
  refine ⟨follows.id, follows.organization, follows.active, follows.snapshot, follows.ends, ?_⟩
  have yearly : current.yearly = subscription.yearly := by
    rw [Subscription.yearly, follows.snapshot, Subscription.yearly]
  have interval : current.renewalInterval = subscription.renewalInterval := by
    rw [Subscription.renewalInterval, yearly, Subscription.renewalInterval]
  simp only [Subscription.rolled, follows.ends, interval, Subscription.startOf]
  push_cast
  ring

theorem hits_succ (month : Int) :
    hits subscription (count + 1) month =
      hits subscription count month + if subscription.monthOf count = month then 1 else 0 := by
  simp only [hits, Finset.range_add_one, Finset.filter_insert]
  split
  · rw [Finset.card_insert_of_notMem (by simp)]
  · rfl

/-- The renewal of one row: of the subscription itself, or of another organization's. -/
theorem Renewing.renewed {other : Subscription} (priced : 0 < subscription.priceCents)
    (renewing : Renewing start subscription count db) (member : other ∈ db.subscriptions.rows)
    (active : other.status = .active) (renewed : Renewed env db other next) :
    ∃ count', Renewing start subscription count' next := by
  obtain ⟨⟨current, here, follows⟩, billed⟩ := renewing
  obtain ⟨drained, drained_eq, rows⟩ := renewed.mem
  have price : current.priceCents = subscription.priceCents := by
    simp only [Subscription.priceCents, follows.snapshot]
  -- The renewal is of this subscription, or of another organization.
  by_cases same : other.organizationId = subscription.organizationId
  · have self : other = current := Table.occupying_unique _ member here
      (same.trans follows.organization.symm) (by rw [active]; rfl) (by rw [follows.active]; rfl)
    subst self
    have billable : other.billable = true := by simp [Subscription.billable, price, priced]
    refine ⟨count + 1, ⟨drained.rolled, (rows _).mpr (.inl rfl), ?_⟩, fun month => ?_⟩
    · rw [drained_eq]
      exact Follows.rolled ⟨follows.id, follows.organization, follows.active, follows.snapshot,
        follows.starts, follows.ends⟩
    · rw [renewed.billed, billed, hits_succ]
      simp only [billable, same, follows.starts, Subscription.monthOf, true_and, add_assoc]
      congr
  · refine ⟨count, ⟨current, (rows _).mpr (.inr ⟨here, ?_⟩), follows⟩, fun month => ?_⟩
    · rintro rfl
      exact same follows.organization
    · rw [renewed.billed, billed]
      simp [same]

theorem Renewing.pass (priced : 0 < subscription.priceCents) (pass : Pass)
    (renewing : Renewing start subscription count db) :
    ∃ count', Renewing start subscription count' (runPass db pass) := by
  have met : Renewing start subscription count (pass.meet db) := ⟨renewing.follows, renewing.billed⟩
  have kept : ∀ db row next, (∃ count, Renewing start subscription count db) →
      row ∈ db.subscriptions.rows → row.Renewable → Renewed pass.env db row next →
      ∃ count, Renewing start subscription count next := by
    rintro db row next ⟨count, renewing⟩ member renewable renewed
    exact renewing.renewed priced member renewable.1 renewed
  exact advanceRecurringBilling_invariant kept ⟨count, met⟩

/-- Every run leaves the subscription some number of renewals on. -/
theorem Renewing.run (priced : 0 < subscription.priceCents) (passes : List Pass)
    (renewing : Renewing start subscription count db) :
    ∃ count', Renewing start subscription count' (Runs.run runPass db passes) := by
  obtain ⟨count', final⟩ := Runs.run_invariant runPass
    (fun state pass (here : ∃ count, Renewing start subscription count state) =>
      here.elim fun _ renewing => renewing.pass priced pass) ⟨count, renewing⟩ passes
  exact ⟨count', final⟩

end Run

section Months

variable {start db : Db} {subscription : Subscription} {count : Nat}

theorem hits_le_one_iff : (∀ month, hits subscription count month ≤ 1) ↔
    ∀ i j, i < j → j < count → subscription.monthOf i ≠ subscription.monthOf j := by
  constructor
  · intro once i j before less same
    have two : 1 < hits subscription count (subscription.monthOf j) :=
      Finset.one_lt_card.mpr ⟨i, by simp [same]; omega, j, by simp [less], by omega⟩
    have := once (subscription.monthOf j)
    omega
  · intro distinct month
    refine Finset.card_le_one.mpr fun i first j second => ?_
    simp only [Finset.mem_filter, Finset.mem_range] at first second
    by_contra ne
    rcases Nat.lt_or_gt_of_ne ne with less | less
    · exact distinct i j less second.1 (first.2.trans second.2.symm)
    · exact distinct j i less first.1 (second.2.trans first.2.symm)

theorem hits_eq_zero_iff (month : Int) :
    hits subscription count month = 0 ↔ ∀ i < count, subscription.monthOf i ≠ month := by
  simp [hits, Finset.filter_eq_empty_iff]

/-- Where each renewal bills its month once more, covering the months is keeping
step with them. -/
theorem covered_iff_inStep (renewing : Renewing start subscription count db) :
    Covered subscription count db ↔ InStep subscription count start := by
  have hit (i : Nat) (less : i < count) : 0 < hits subscription count (subscription.monthOf i) := by
    rw [Nat.pos_iff_ne_zero]
    exact fun none => (hits_eq_zero_iff _).mp none i less rfl
  simp only [Covered, renewing.billed]
  constructor
  · rintro ⟨once, inside⟩
    have bounded (month : Int) : hits subscription count month ≤ 1 := by
      have := once month
      omega
    have distinct := hits_le_one_iff.mp bounded
    refine ⟨distinct, fun i less => ?_, fun month spans missed => ?_, fun month => ?_⟩
    · have := once (subscription.monthOf i)
      have := hit i less
      omega
    · have := inside month spans
      have := (hits_eq_zero_iff month).mpr missed
      omega
    · have := once month
      omega
  · rintro ⟨distinct, unbilled, gapless, single⟩
    have once := hits_le_one_iff.mpr distinct
    -- A month that was hit is billed by that renewal and by no earlier invoice.
    have total (month : Int) (missed : hits subscription count month ≠ 0) :
        start.billed subscription.organizationId month + hits subscription count month = 1 := by
      rw [Ne, hits_eq_zero_iff] at missed
      push Not at missed
      obtain ⟨i, less, rfl⟩ := missed
      have := unbilled i less
      have := once (subscription.monthOf i)
      have := hit i less
      omega
    constructor
    · intro month
      by_cases missed : hits subscription count month = 0
      · rw [missed]
        exact single month
      · exact (total month missed).le
    · intro month spans
      by_cases missed : hits subscription count month = 0
      · rw [missed]
        exact gapless month spans ((hits_eq_zero_iff month).mp missed)
      · exact total month missed

theorem startOf_mono (ordered : subscription.currentPeriodStart ≤ subscription.currentPeriodEnd) :
    Monotone subscription.startOf := by
  refine monotone_nat_of_le_succ fun i => ?_
  cases i with
  | zero => simpa [Subscription.startOf] using ordered
  | succ i =>
      have := subscription.interval_pos
      simp only [Subscription.startOf]
      push_cast
      linarith

theorem monthOf_mono (ordered : subscription.currentPeriodStart ≤ subscription.currentPeriodEnd) :
    Monotone subscription.monthOf := fun _ _ le =>
  Calendar.monthOf_mono (Int.ediv_le_ediv (by decide) (startOf_mono ordered le))

/-- Strictly between the month of the first start and the month the span ends in,
every month is whole; none before or after is. -/
theorem spans_iff_of_lt {month : Int} (after : subscription.monthOf 0 < month) :
    subscription.Spans count month ↔ month < subscription.monthOf count := by
  simp only [Subscription.Spans, midnight_le_iff, ← Calendar.le_monthOf_iff]
  have started : subscription.startOf 0 ≤ midnight (Calendar.firstDay month) := by
    have beyond : ¬ midnight (Calendar.firstDay month) ≤ subscription.startOf 0 := by
      rw [midnight_le_iff, ← Calendar.le_monthOf_iff]
      exact not_le.mpr after
    omega
  simp only [started, true_and]
  exact Int.add_one_le_iff

theorem le_of_spans {month : Int} (spans : subscription.Spans count month) :
    subscription.monthOf 0 ≤ month ∧ month < subscription.monthOf count := by
  obtain ⟨started, ended⟩ := spans
  constructor
  · rw [← Calendar.monthOf_firstDay month, ← dateOf_midnight (Calendar.firstDay month)]
    exact Calendar.monthOf_mono (Int.ediv_le_ediv (by decide) started)
  · rwa [midnight_le_iff, ← Calendar.le_monthOf_iff, Int.add_one_le_iff] at ended

/-- For an organization nothing was billed to, keeping step is starting every
period in the month after the last one, and ending the last by the month after. -/
theorem inStep_iff_consecutive
    (fresh : ∀ month, start.billed subscription.organizationId month = 0)
    (ordered : subscription.currentPeriodStart ≤ subscription.currentPeriodEnd) :
    InStep subscription count start ↔
      (∀ i, i + 1 < count → subscription.monthOf (i + 1) = subscription.monthOf i + 1) ∧
        ∀ i, i + 1 = count → subscription.monthOf (i + 1) ≤ subscription.monthOf i + 1 := by
  have mono := monthOf_mono ordered
  constructor
  · rintro ⟨distinct, -, gapless, -⟩
    have close (i : Nat) (less : i < count) :
        subscription.monthOf (i + 1) ≤ subscription.monthOf i + 1 := by
      -- A step over a whole month leaves that month without a bill.
      by_contra wide
      have first := mono (Nat.zero_le i)
      have last := mono (show i + 1 ≤ count by omega)
      have missed : start.billed subscription.organizationId (subscription.monthOf i + 1) = 1 := by
        refine gapless _ ((spans_iff_of_lt (by omega)).mpr (by omega)) fun j _ => ?_
        rcases Nat.lt_or_ge i j with later | earlier
        · have := mono (show i + 1 ≤ j by omega)
          omega
        · have := mono earlier
          omega
      rw [fresh] at missed
      cases missed
    refine ⟨fun i less => ?_, fun i last => close i (by omega)⟩
    have := close i (by omega)
    have := distinct i (i + 1) (by omega) less
    have := mono (show i ≤ i + 1 by omega)
    omega
  · rintro ⟨consecutive, last⟩
    -- Consecutive months are counted from the first.
    have nth (i : Nat) (less : i < count) : subscription.monthOf i = subscription.monthOf 0 + i := by
      induction i with
      | zero => simp
      | succ i ih =>
          rw [consecutive i less, ih (by omega)]
          push_cast
          ring
    refine ⟨fun i j before less => ?_, fun i _ => fresh _, fun month spans missed => ?_,
      fun month => by rw [fresh]; omega⟩
    · rw [nth i (by omega), nth j less]
      omega
    · obtain ⟨low, high⟩ := le_of_spans spans
      cases count with
      | zero => exact absurd (low.trans_lt high) (lt_irrefl _)
      | succ count =>
          have final := last count rfl
          rw [nth count (by omega)] at final
          have here : (month - subscription.monthOf 0).toNat < count + 1 := by omega
          refine absurd ?_ (missed _ here)
          rw [nth _ here]
          omega

end Months

def yearUsage : List UsageCounter :=
  [⟨1, "api_calls", Calendar.firstDay 24312, 150⟩, ⟨1, "api_calls", Calendar.firstDay 24313, 150⟩]

def passOn (date : Int) : Pass :=
  ⟨{ now := midnight date }, yearUsage, [], [samplePlan], []⟩

def fromJanuaryFirst : Subscription := sampleSubscription (midnight (Calendar.firstDay 24312))

def twoPasses : List Pass :=
  [passOn (Calendar.firstDay 24312 + 30), passOn (Calendar.firstDay 24312 + 60)]

/-- How many finalized invoices of a month have an overage line for a metric. -/
def Db.overageBilled (db : Db) (organization : Nat) (metric : String) (month : Int) : Nat :=
  db.invoices.rows.countP fun invoice => invoice.bills organization month ∧
    invoice.lines.any fun line => line.kind = .overage ∧ line.metric = some metric

end SynapseSaas
