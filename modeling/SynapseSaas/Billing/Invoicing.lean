import SynapseSaas.Entitlements.Service

/-! The invoicing engine: draft from the plan, the usage and the queued
corrections, then finalize, pay or void. -/

set_option autoImplicit false

namespace SynapseSaas

def invoiceTransitions : InvoiceStatus → List InvoiceStatus
  | .draft => [.open, .void]
  | .open => [.paid, .void, .uncollectible]
  | .paid => []
  | .void => []
  | .uncollectible => []

def assertInvoiceTransition (current target : InvoiceStatus) : Result Unit :=
  if current = target ∨ target ∈ invoiceTransitions current then .ok ()
  else raise .validationFailed
    ("Cannot move invoice from " ++ quoted current.name ++ " to " ++ quoted target.name)
    [("from", .str current.name), ("to", .str target.name),
      ("allowed", .list (((invoiceTransitions current).map InvoiceStatus.name).insertionSort (· ≤ ·)))]

/-- Reversed digits with a comma before every third. -/
def separated : List Char → Nat → List Char
  | [], _ => []
  | digit :: rest, position =>
      if 0 < position ∧ position % 3 = 0 then ',' :: digit :: separated rest (position + 1)
      else digit :: separated rest (position + 1)

/-- A number formatted with thousands separators. -/
def grouped (number : Int) : String :=
  String.ofList (separated (toString number.toNat).toList.reverse 0).reverse

example : grouped 1234567 = "1,234,567" := by decide

/-- The plan charge, from the purchase-time snapshot. -/
def planLines (subscription : Subscription) : List InvoiceLine :=
  let price := subscription.priceCents
  if 0 < price then
    let name := (subscription.planSnapshot.map (·.name)).getD "unknown"
    let interval := match subscription.planSnapshot with
      | some snapshot => (snapshot.interval.map Interval.name).getD "None"
      | none => "month"
    [{ kind := .plan
       description := name ++ " plan (" ++ interval ++ "ly)"
       quantity := 1
       unitAmountCents := price
       amountCents := price }]
  else []

/-- The usage a metric accumulated in a month. -/
def usedInPeriod (db : Db) (organization : Nat) (metric : String) (period : Int) : Int :=
  ((db.usageCounters.filter fun counter =>
    counter.organizationId = organization ∧ counter.metric = metric ∧
      counter.periodStart = period).map (·.quantityTotal)).sum

/-- The line of one metric, if its usage exceeded a priced limit. -/
def overageLine (db : Db) (organization : Nat) (period : Int) (metric : String) (limit : Limit) :
    Option InvoiceLine :=
  match limit.value, limit.overage with
  | some value, some overage =>
      let unitsOver := usedInPeriod db organization metric period - value
      if unitsOver ≤ 0 then none
      else
        let (quantity, cents) := overage.bill unitsOver
        let per := if 1 < overage.unit then " (per " ++ grouped overage.unit ++ ")" else ""
        some
          { kind := .overage
            description := metric ++ " overage — " ++ grouped unitsOver ++ " units over plan" ++ per
            quantity := quantity
            unitAmountCents := overage.priceCents
            amountCents := cents
            metric := some metric
            properties := .overage unitsOver value overage.unit }
  | _, _ => none

/-- One line per metric over its included amount, in the order of the metrics. -/
def overageLines (effective : EffectiveEntitlements) (db : Db) (organization : Nat) (period : Int) :
    List InvoiceLine :=
  (effective.limits.insertionSort fun first second => first.1 ≤ second.1).filterMap
    fun (metric, limit) => overageLine db organization period metric limit

def Adjustment.line (adjustment : Adjustment) : InvoiceLine where
  kind := if adjustment.amountCents < 0 then .credit else .custom
  description :=
    if adjustment.description = "" then adjustment.kind else adjustment.description
  quantity := 1
  unitAmountCents := adjustment.amountCents
  amountCents := adjustment.amountCents
  properties := .adjustment adjustment.kind adjustment.fromPlan adjustment.toPlan
    adjustment.fromPriceCents adjustment.toPriceCents adjustment.createdAt

/-- Queued corrections as lines: credits when negative, nothing for zero. -/
def adjustmentLines (adjustments : List Adjustment) : List InvoiceLine :=
  (adjustments.filter (·.amountCents ≠ 0)).map Adjustment.line

def totalOf (lines : List InvoiceLine) : Int := (lines.map (·.amountCents)).sum

/-- What a draft bills of a subscription. -/
def draftLines (effective : EffectiveEntitlements) (db : Db) (subscription : Subscription)
    (period : Int) : List InvoiceLine :=
  planLines subscription ++ overageLines effective db subscription.organizationId period ++
    adjustmentLines subscription.pendingAdjustments

/-- A draft never collects a negative amount: the credit left over is queued again. -/
def carryover (now : Int) (lines : List InvoiceLine) : List Adjustment :=
  if totalOf lines < 0 then
    [{ kind := "credit_carryover"
       amountCents := totalOf lines
       description := "Credit carried forward from the previous invoice"
       createdAt := now }]
  else []

def draftInvoice (now : Int) (subscription : Subscription) (period : Int) (lines : List InvoiceLine)
    (id : Nat) : Invoice where
  id := id
  organizationId := subscription.organizationId
  provider := some "synapse"
  currency := (subscription.planSnapshot.map (·.currency)).getD "PHP"
  subtotalCents := max (totalOf lines) 0
  totalCents := max (totalOf lines) 0
  status := .draft
  periodStart := some (midnight period)
  periodEnd := some (midnight (Calendar.lastDay period) + 86399 * second)
  createdAt := now
  lines := lines

def Db.draftsFor (db : Db) (organization : Nat) (period : Int) : List Invoice :=
  db.invoices.rows.filter fun invoice =>
    invoice.organizationId = organization ∧ invoice.status = .draft ∧
      invoice.periodStart.map dateOf = some period

/-- The draft of a period; more than one is an error. -/
def Db.findDraft (db : Db) (organization : Nat) (period : Int) : Result (Option Invoice) :=
  match db.draftsFor organization period with
  | [] => .ok none
  | [invoice] => .ok (some invoice)
  | _ => .error (.other .multipleResults)

def Db.activeSubscription (db : Db) (organization : Nat) : Result Subscription :=
  match db.currentForOrg organization with
  | some subscription => .ok subscription
  | none => raise .validationFailed "Organization has no active subscription to bill"

def Db.getScoped (db : Db) (invoiceId organization : Nat) : Result Invoice :=
  match db.invoices.get invoiceId with
  | some invoice =>
      if invoice.organizationId = organization then .ok invoice
      else raise .invoiceNotFound "Invoice not found"
  | none => raise .invoiceNotFound "Invoice not found"

/-- The count of numbers given out, plus one, stamped with the month. -/
def Db.nextNumber (db : Db) (now : Int) (organization : Nat) : InvoiceNumber where
  month := Calendar.monthOf (dateOf now)
  sequence := (db.invoices.rows.countP fun invoice =>
    invoice.organizationId = organization ∧ invoice.number.isSome) + 1

def Invoice.finalized (invoice : Invoice) (number : InvoiceNumber) (now : Int) : Invoice :=
  { invoice with status := .open, number := some number, issuedAt := some now }

namespace InvoicingService

/-- Create the draft of a period, draining the queued corrections into it, or
return the existing draft unchanged. -/
def draftForOrg (env : Env) (db : Db) (organization : Nat) (period : Option Int) :
    Result (Invoice × Db) := do
  let periodStart := period.getD (monthBucket env.now)
  match ← db.findDraft organization periodStart with
  | some existing => return (existing, db)
  | none =>
      let subscription ← db.activeSubscription organization
      let lines := draftLines (effectiveForOrg env db organization) db subscription periodStart
      let db ← db.putSubscription
        { subscription with pendingAdjustments := carryover env.now lines }
      db.insertInvoice (draftInvoice env.now subscription periodStart lines)

def finalize (now : Int) (db : Db) (invoiceId organization : Nat) : Result (Invoice × Db) := do
  let invoice ← db.getScoped invoiceId organization
  if invoice.status = .open then return (invoice, db)
  else
    assertInvoiceTransition invoice.status .open
    let number := db.nextNumber now organization
    let opened := invoice.finalized number now
    let db ← db.putInvoice opened
    let db := db.appendOutbox "invoice.created" "invoice" opened.id (some organization)
      [("number", .str number.render), ("total_cents", .int opened.totalCents),
        ("status", .str "open")]
    let db := db.appendOutbox "invoice.email" "invoice" opened.id (some organization)
      [("invoice_id", .str (toString opened.id)), ("reason", .str "finalized")]
    return (opened, db)

def recordPayment (now : Int) (db : Db) (invoiceId organization : Nat) (amountCents : Int)
    (reference : Option String) : Result (Invoice × Db) := do
  let invoice ← db.getScoped invoiceId organization
  assertInvoiceTransition invoice.status .paid
  if amountCents < invoice.totalCents then
    raise .validationFailed "Partial payments are not supported in v1"
      [("expected", .int invoice.totalCents), ("received", .int amountCents)]
  else
    let paid := { invoice with status := .paid, paidAt := some now }
    let db ← db.putInvoice paid
    let db := db.appendOutbox "invoice.paid" "invoice" paid.id (some organization)
      [("total_cents", .int paid.totalCents), ("currency", .str paid.currency),
        ("reference", .ofOption reference)]
    let db := db.appendOutbox "invoice.email" "invoice" paid.id (some organization)
      [("invoice_id", .str (toString paid.id)), ("reason", .str "paid")]
    return (paid, db)

def void (db : Db) (invoiceId organization : Nat) : Result (Invoice × Db) := do
  let invoice ← db.getScoped invoiceId organization
  assertInvoiceTransition invoice.status .void
  let voided := { invoice with status := .void }
  let db ← db.putInvoice voided
  return (voided, db)

section Specifications

variable {env : Env} {db next : Db} {organization : Nat} {invoice : Invoice}

theorem mem_draftsFor {period : Int} :
    invoice ∈ db.draftsFor organization period ↔ invoice ∈ db.invoices.rows ∧
      invoice.organizationId = organization ∧ invoice.status = .draft ∧
        invoice.periodStart.map dateOf = some period := by
  simp [Db.draftsFor]

theorem findDraft_eq_ok {period : Int} {found : Option Invoice} :
    db.findDraft organization period = .ok found ↔
      db.draftsFor organization period = found.toList := by
  unfold Db.findDraft
  split
  · next none => cases found <;> simp [none]
  · next draft one => cases found <;> simp [one]
  · next drafts notNone notOne =>
      simp only [reduceCtorEq, false_iff]
      cases found with
      | none => exact notNone
      | some draft => exact notOne draft

theorem activeSubscription_eq_ok {subscription : Subscription} :
    db.activeSubscription organization = .ok subscription ↔
      db.currentForOrg organization = some subscription := by
  unfold Db.activeSubscription
  split
  · next found => simp [found]
  · next vacant => simp [vacant, raise]

/-- A draft is found, or created while the corrections queued so far are drained
into it and its negative total, if any, is queued again. -/
theorem draftForOrg_cases {period : Option Int}
    (drafted : draftForOrg env db organization period = .ok (invoice, next)) :
    (db.draftsFor organization (period.getD (monthBucket env.now)) = [invoice] ∧ next = db) ∨
      (db.draftsFor organization (period.getD (monthBucket env.now)) = [] ∧
        ∃ subscription lines mid, db.currentForOrg organization = some subscription ∧
          lines = draftLines (effectiveForOrg env db organization) db subscription
            (period.getD (monthBucket env.now)) ∧
          db.WritesSubscription subscription
            { subscription with pendingAdjustments := carryover env.now lines } mid ∧
          mid.InsertsInvoice invoice next ∧
          invoice = draftInvoice env.now subscription (period.getD (monthBucket env.now)) lines
            mid.invoices.next) := by
  obtain ⟨found, lookup, drafted⟩ := Result.bind_eq_ok.mp drafted
  have drafts := findDraft_eq_ok.mp lookup
  -- A draft of the period is taken up again; otherwise one is made.
  cases found with
  | some existing =>
      cases drafted
      exact .inl ⟨drafts, rfl⟩
  | none =>
      obtain ⟨subscription, active, drafted⟩ := Result.bind_eq_ok.mp drafted
      obtain ⟨mid, put, insert⟩ := Result.bind_eq_ok.mp drafted
      have current := activeSubscription_eq_ok.mp active
      obtain ⟨inserts, eq⟩ := Db.insertInvoice_inserts insert
      exact .inr ⟨drafts, subscription, _, mid, current, rfl,
        Db.putSubscription_writes put (Db.currentForOrg_eq_some.mp current).1 rfl, inserts, eq⟩

theorem getScoped_eq_ok {id : Nat} :
    db.getScoped id organization = .ok invoice ↔
      invoice ∈ db.invoices.rows ∧ invoice.id = id ∧ invoice.organizationId = organization := by
  have row (other : Invoice) : db.invoices.get id = some other ↔
      other ∈ db.invoices.rows ∧ other.id = id := Table.get_eq_some
  unfold Db.getScoped
  split
  · next other found =>
      obtain ⟨member, same⟩ := (row other).mp found
      split
      · next mine =>
          constructor
          · rintro ⟨⟩
            exact ⟨member, same, mine⟩
          · rintro ⟨here, this, -⟩
            rw [Table.eq_of_id db.invoices member here (same.trans this.symm)]
      -- An invoice of another organization is reported missing.
      · next foreign =>
          simp only [raise, reduceCtorEq, false_iff]
          rintro ⟨here, this, mine⟩
          rw [Table.eq_of_id db.invoices member here (same.trans this.symm)] at foreign
          exact foreign mine
  · next missing =>
      simp only [raise, reduceCtorEq, false_iff]
      rintro ⟨here, this, -⟩
      exact absurd ((row invoice).mpr ⟨here, this⟩) (by simp [missing])

/-- Only drafts are opened; an open invoice is returned as it is. -/
theorem finalize_cases {now : Int} {id : Nat}
    (done : finalize now db id organization = .ok (invoice, next)) :
    ∃ old, db.getScoped id organization = .ok old ∧
      (old.status = .open ∧ invoice = old ∧ next = db ∨
        old.status = .draft ∧ invoice = old.finalized (db.nextNumber now organization) now ∧
          db.WritesInvoice old invoice next) := by
  obtain ⟨old, located, done⟩ := Result.bind_eq_ok.mp done
  refine ⟨old, located, ?_⟩
  split at done
  · next opened =>
      cases done
      exact .inl ⟨opened, rfl, rfl⟩
  · next closed =>
      obtain ⟨_, legal, done⟩ := Result.bind_eq_ok.mp done
      obtain ⟨mid, put, done⟩ := Result.bind_eq_ok.mp done
      cases done
      have member := (getScoped_eq_ok.mp located).1
      refine .inr ⟨?_, rfl,
        ((Db.putInvoice_writes put member rfl).outbox _ _ _ _ _).outbox _ _ _ _ _⟩
      -- Only a draft can still be opened.
      cases status : old.status with
      | draft => rfl
      | «open» => exact absurd status closed
      | paid | void | uncollectible =>
          rw [status] at legal
          cases legal

theorem recordPayment_cases {now amountCents : Int} {id : Nat} {reference : Option String}
    (done : recordPayment now db id organization amountCents reference = .ok (invoice, next)) :
    ∃ old, db.getScoped id organization = .ok old ∧ (old.status = .open ∨ old.status = .paid) ∧
      old.totalCents ≤ amountCents ∧ invoice = { old with status := .paid, paidAt := some now } ∧
      db.WritesInvoice old invoice next := by
  obtain ⟨old, located, done⟩ := Result.bind_eq_ok.mp done
  obtain ⟨_, legal, done⟩ := Result.bind_eq_ok.mp done
  split at done
  · cases done
  · next enough =>
      obtain ⟨mid, put, done⟩ := Result.bind_eq_ok.mp done
      cases done
      have member := (getScoped_eq_ok.mp located).1
      refine ⟨old, located, ?_, by omega, rfl,
        ((Db.putInvoice_writes put member rfl).outbox _ _ _ _ _).outbox _ _ _ _ _⟩
      cases status : old.status with
      | «open» => exact .inl rfl
      | paid => exact .inr rfl
      | draft | void | uncollectible =>
          rw [status] at legal
          cases legal

theorem void_cases {id : Nat} (done : void db id organization = .ok (invoice, next)) :
    ∃ old, db.getScoped id organization = .ok old ∧ old.status ≠ .paid ∧
      old.status ≠ .uncollectible ∧ invoice = { old with status := .void } ∧
      db.WritesInvoice old invoice next := by
  obtain ⟨old, located, done⟩ := Result.bind_eq_ok.mp done
  obtain ⟨_, legal, done⟩ := Result.bind_eq_ok.mp done
  obtain ⟨mid, put, done⟩ := Result.bind_eq_ok.mp done
  cases done
  have member := (getScoped_eq_ok.mp located).1
  refine ⟨old, located, ?_, ?_, rfl, Db.putInvoice_writes put member rfl⟩
  · intro status
    rw [status] at legal
    cases legal
  · intro status
    rw [status] at legal
    cases legal

end Specifications

end InvoicingService

end SynapseSaas
