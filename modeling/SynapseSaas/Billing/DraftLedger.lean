import SynapseSaas.Billing.Corrections

/-! What drafts invoice over time: the plan charges, the overages and the corrections
queued are invoiced or still pending, to the cent. -/

set_option autoImplicit false

namespace SynapseSaas

/-- What a plan costs a period; a plan without a price costs nothing. -/
def Subscription.planCharge (subscription : Subscription) : Int := max 0 subscription.priceCents

/-- What the usage of a metric past its limit costs. -/
def overageCharge (db : Db) (organization : Nat) (period : Int) (metric : String) (limit : Limit) : Int :=
  match limit.value, limit.overage with
  | some value, some overage => (overage.bill (usedInPeriod db organization metric period - value)).2
  | _, _ => 0

def overageCharges (effective : EffectiveEntitlements) (db : Db) (organization : Nat) (period : Int) :
    Int :=
  (effective.limits.map fun (metric, limit) => overageCharge db organization period metric limit).sum

/-- The database of an organization with what its drafts have invoiced, what each of
them left pending, and all that was to be paid. -/
structure DraftLedger where
  db : Db
  invoices : List Invoice
  carries : List (List Adjustment)
  charged : Int
  queued : Int

inductive DraftLedger.Action where
  | queue (adjustments : List Adjustment)
  | draft (env : Env) (period : Option Int)
  | meanwhile (db : Db)

/-- Corrections join the queue of the occupying subscription. -/
def DraftLedger.enqueue (organization : Nat) (ledger : DraftLedger) (adjustments : List Adjustment) :
    DraftLedger :=
  match ledger.db.currentForOrg organization with
  | none => ledger
  | some subscription =>
      match ledger.db.putSubscription
        { subscription with pendingAdjustments := subscription.pendingAdjustments ++ adjustments } with
      | .error _ => ledger
      | .ok db => { ledger with db, queued := ledger.queued + queuedCents adjustments }

/-- The bill of a subscription for a period before any correction. -/
def Db.chargesFor (db : Db) (env : Env) (organization : Nat) (period : Int) : Int :=
  ((db.currentForOrg organization).map (·.planCharge)).getD 0 +
    overageCharges (effectiveForOrg env db organization) db organization period

/-- A call that finds the draft of its period makes no invoice. -/
def DraftLedger.draft (organization : Nat) (ledger : DraftLedger) (env : Env) (period : Option Int) :
    DraftLedger :=
  let month := period.getD (monthBucket env.now)
  match InvoicingService.draftForOrg env ledger.db organization period with
  | .error _ => ledger
  | .ok (invoice, db) =>
      if ledger.db.draftsFor organization month ≠ [] then { ledger with db }
      else
        { db
          invoices := ledger.invoices ++ [invoice]
          carries := ledger.carries ++ [db.pendingOf organization]
          charged := ledger.charged + ledger.db.chargesFor env organization month
          queued := ledger.queued }

/-- Between the calls anything may happen that leaves the queue alone: usage, other
snapshots, other grants. -/
def DraftLedger.step (organization : Nat) (ledger : DraftLedger) : DraftLedger.Action → DraftLedger
  | .queue adjustments => ledger.enqueue organization adjustments
  | .draft env period => ledger.draft organization env period
  | .meanwhile db =>
      if db.pendingOf organization = ledger.db.pendingOf organization then { ledger with db }
      else ledger

/-- Before the first draft only the corrections queued so far are to be paid. -/
def DraftLedger.opening (organization : Nat) (db : Db) : DraftLedger :=
  ⟨db, [], [], 0, queuedCents (db.pendingOf organization)⟩

/-- An invoice adds up. -/
structure Invoice.Reconciles (invoice : Invoice) : Prop where
  lines : ∀ line ∈ invoice.lines, line.quantity * line.unitAmountCents = line.amountCents
  total : invoice.totalCents = max 0 (totalOf invoice.lines)
  subtotal : invoice.subtotalCents = invoice.totalCents

/-- What is invoiced and what is pending is what was to be paid. -/
structure DraftLedger.Balanced (organization : Nat) (ledger : DraftLedger) : Prop where
  reconciles : ∀ invoice ∈ ledger.invoices, invoice.Reconciles
  carries : ∀ carry ∈ ledger.carries, ∀ adjustment ∈ carry, adjustment.amountCents ≤ 0
  conserved : (ledger.invoices.map (·.totalCents)).sum + queuedCents (ledger.db.pendingOf organization) =
    ledger.charged + ledger.queued

section Totals

variable {effective : EffectiveEntitlements} {db : Db} {organization : Nat} {period : Int}
  {subscription : Subscription}

theorem totalOf_append (first second : List InvoiceLine) :
    totalOf (first ++ second) = totalOf first + totalOf second := by
  simp [totalOf]

theorem totalOf_planLines : totalOf (planLines subscription) = subscription.planCharge := by
  unfold planLines Subscription.planCharge
  by_cases priced : 0 < subscription.priceCents
  · simp only [priced, if_true, totalOf, List.map_cons, List.map_nil, List.sum_cons, List.sum_nil]
    omega
  · simp only [priced, if_false, totalOf, List.map_nil, List.sum_nil]
    omega

/-- A metric without a line costs nothing. -/
theorem amount_overageLine (metric : String) (limit : Limit) :
    ((overageLine db organization period metric limit).map (·.amountCents)).getD 0 =
      overageCharge db organization period metric limit := by
  obtain ⟨value, soft, overage⟩ := limit
  cases value with
  | none => rfl
  | some value =>
      cases overage with
      | none => rfl
      | some overage =>
          simp only [overageLine, overageCharge]
          by_cases within : usedInPeriod db organization metric period - value ≤ 0
          · rw [if_pos within, Overage.bill, if_pos within]
            rfl
          · rw [if_neg within]
            rfl

theorem totalOf_overageLines :
    totalOf (overageLines effective db organization period) =
      overageCharges effective db organization period := by
  have listed (limits : List (String × Limit)) :
      totalOf (limits.filterMap fun (metric, limit) => overageLine db organization period metric limit) =
        (limits.map fun (metric, limit) => overageCharge db organization period metric limit).sum := by
    induction limits with
    | nil => rfl
    | cons head rest ih =>
        obtain ⟨metric, limit⟩ := head
        rw [List.map_cons, List.sum_cons, ← ih]
        simp only [← amount_overageLine metric limit]
        cases made : overageLine db organization period metric limit with
        | none => simp [made]
        | some line => simp [made, totalOf]
  unfold overageLines overageCharges
  rw [listed]
  exact ((List.perm_insertionSort _ _).map _).sum_eq

theorem totalOf_adjustmentLines (adjustments : List Adjustment) :
    totalOf (adjustmentLines adjustments) = queuedCents adjustments := by
  induction adjustments with
  | nil => rfl
  | cons adjustment rest ih =>
      by_cases zero : adjustment.amountCents = 0
      · simpa [adjustmentLines, queuedCents, zero] using ih
      · simp only [adjustmentLines, queuedCents, totalOf, ne_eq, zero, not_false_eq_true, decide_true,
          List.filter_cons_of_pos, List.map_cons, List.sum_cons] at ih ⊢
        rw [ih]
        rfl

theorem totalOf_draftLines :
    totalOf (draftLines effective db subscription period) =
      subscription.planCharge + overageCharges effective db subscription.organizationId period +
        queuedCents subscription.pendingAdjustments := by
  rw [draftLines, totalOf_append, totalOf_append, totalOf_planLines, totalOf_overageLines,
    totalOf_adjustmentLines]

/-- The lines of a draft reconcile one by one. -/
theorem draftLines_reconcile {line : InvoiceLine}
    (member : line ∈ draftLines effective db subscription period) :
    line.quantity * line.unitAmountCents = line.amountCents := by
  rw [draftLines, List.mem_append, List.mem_append] at member
  rcases member with (plan | overage) | adjustment
  · by_cases priced : 0 < subscription.priceCents
    · simp only [planLines, priced, if_true, List.mem_singleton] at plan
      rw [plan]
      exact one_mul _
    · simp only [planLines, priced, if_false, List.not_mem_nil] at plan
  · obtain ⟨⟨metric, limit⟩, -, made⟩ := List.mem_filterMap.mp overage
    simp only [overageLine] at made
    split at made
    · split at made
      · cases made
      · cases made
        exact (Overage.bill_reconciles _ _).symm
    · cases made
  · obtain ⟨entry, -, rfl⟩ := List.mem_map.mp adjustment
    exact one_mul _

/-- What is not invoiced for want of a positive total is carried over. -/
theorem carryover_balances (now : Int) (lines : List InvoiceLine) :
    max (totalOf lines) 0 + queuedCents (carryover now lines) = totalOf lines := by
  unfold carryover
  split
  · simp only [queuedCents, List.map_cons, List.map_nil, List.sum_cons, List.sum_nil]
    omega
  · simp only [queuedCents, List.map_nil, List.sum_nil]
    omega

theorem carryover_credit {now : Int} {lines : List InvoiceLine} {adjustment : Adjustment}
    (carried : adjustment ∈ carryover now lines) : adjustment.amountCents ≤ 0 := by
  unfold carryover at carried
  split at carried
  · next negative =>
      rw [List.mem_singleton.mp carried]
      exact negative.le
  · cases carried

theorem queuedCents_append (first second : List Adjustment) :
    queuedCents (first ++ second) = queuedCents first + queuedCents second := by
  simp [queuedCents]

end Totals

section Steps

variable {organization : Nat} {ledger : DraftLedger}

theorem DraftLedger.Balanced.opening (organization : Nat) (db : Db) :
    (DraftLedger.opening organization db).Balanced organization where
  reconciles := fun _ member => by cases member
  carries := fun _ member => by cases member
  conserved := rfl

theorem DraftLedger.Balanced.enqueue (balanced : ledger.Balanced organization)
    (adjustments : List Adjustment) : (ledger.enqueue organization adjustments).Balanced organization := by
  unfold DraftLedger.enqueue
  split
  · exact balanced
  · next subscription current =>
      split
      · exact balanced
      · next db put =>
          obtain ⟨member, mine, occupying⟩ := Db.currentForOrg_eq_some.mp current
          have now_current := (Db.putSubscription_writes put member rfl).current occupying
          rw [show ({ subscription with
            pendingAdjustments := subscription.pendingAdjustments ++ adjustments } :
              Subscription).organizationId = organization from mine] at now_current
          have conserved := balanced.conserved
          rw [pendingOf_eq current] at conserved
          refine ⟨balanced.reconciles, balanced.carries, ?_⟩
          simp only [pendingOf_eq now_current, queuedCents_append]
          omega

theorem DraftLedger.Balanced.draft (balanced : ledger.Balanced organization) (env : Env)
    (period : Option Int) : (ledger.draft organization env period).Balanced organization := by
  unfold DraftLedger.draft
  split
  · exact balanced
  · next invoice db drafted =>
      rcases InvoicingService.draftForOrg_cases drafted with
        ⟨found, rfl⟩ | ⟨absent, subscription, lines, mid, current, lines_eq, drains, inserts, invoice_eq⟩
      · simp only [found, ne_eq, List.cons_ne_self, not_false_eq_true, if_true]
        exact balanced
      · have mine := (Db.currentForOrg_eq_some.mp current).2.1
        have queue := pendingOf_drafted current drains inserts
        have conserved := balanced.conserved
        have whole := carryover_balances env.now lines
        have bill : totalOf lines =
            ledger.db.chargesFor env organization (period.getD (monthBucket env.now)) +
              queuedCents subscription.pendingAdjustments := by
          rw [lines_eq, totalOf_draftLines, Db.chargesFor, current, mine]
          rfl
        have reconciles : invoice.Reconciles := by
          rw [invoice_eq]
          refine ⟨fun line member => ?_, max_comm _ _, rfl⟩
          rw [show (draftInvoice env.now subscription (period.getD (monthBucket env.now)) lines
            mid.invoices.next).lines = lines from rfl, lines_eq] at member
          exact draftLines_reconcile member
        rw [pendingOf_eq current] at conserved
        simp only [absent, ne_eq, not_true_eq_false, if_false]
        constructor
        · intro other member
          rcases List.mem_append.mp member with earlier | made
          · exact balanced.reconciles other earlier
          · rw [List.mem_singleton.mp made]
            exact reconciles
        · intro carry member adjustment inside
          rcases List.mem_append.mp member with earlier | left
          · exact balanced.carries carry earlier adjustment inside
          · rw [List.mem_singleton.mp left, queue] at inside
            exact carryover_credit inside
        · have total : invoice.totalCents = max (totalOf lines) 0 := by rw [invoice_eq]; rfl
          simp only [List.map_append, List.map_cons, List.map_nil, List.sum_append, List.sum_cons,
            List.sum_nil, queue, total]
          omega

theorem DraftLedger.Balanced.step (balanced : ledger.Balanced organization) (action : DraftLedger.Action) :
    (ledger.step organization action).Balanced organization := by
  cases action with
  | queue adjustments => exact balanced.enqueue adjustments
  | draft env period => exact balanced.draft env period
  | meanwhile db =>
      simp only [DraftLedger.step]
      by_cases same : db.pendingOf organization = ledger.db.pendingOf organization
      · rw [if_pos same]
        exact ⟨balanced.reconciles, balanced.carries, same ▸ balanced.conserved⟩
      · rw [if_neg same]
        exact balanced

end Steps

/-- However drafts follow one another and whatever is queued between them, money is
neither lost nor made. -/
theorem drafts_conserve_money (organization : Nat) (db : Db) (actions : List DraftLedger.Action) :
    Runs.Always (DraftLedger.step organization) (DraftLedger.Balanced organization)
      (DraftLedger.opening organization db) actions :=
  Runs.always_of_invariant _ (fun _ action balanced => balanced.step action)
    (DraftLedger.Balanced.opening organization db) actions

end SynapseSaas
