import SynapseSaas.Billing.Webhooks
import SynapseSaas.Worker.Renewals

/-! Which service periods the invoices of one organization charge.

Three paths put a plan's price on an invoice: a checkout for the period it
starts, a provider's own invoice for the period it arrives in, and a renewal for
the period that ended. The account keeps what each of them charged next to the
database; nothing the code runs reads it. -/

set_option autoImplicit false

namespace SynapseSaas

structure ServicePeriod where
  subscription : Nat
  starts : Int
  ends : Int
  deriving DecidableEq, Repr

def Subscription.servicePeriod (subscription : Subscription) : ServicePeriod :=
  ⟨subscription.id, subscription.currentPeriodStart, subscription.currentPeriodEnd⟩

inductive ChargeSource where
  | checkout | provider | renewal
  deriving DecidableEq, Repr

structure Charge where
  period : ServicePeriod
  invoice : Nat
  source : ChargeSource
  deriving DecidableEq, Repr

structure Account where
  db : Db
  clock : Int
  charges : List Charge

inductive BillingAction where
  | checkout (env : Env) (provider : Provider) (planKey : String) (reference : Option String)
      (contactUser : Option User) (source : CheckoutSource)
  | changePlan (env : Env) (provider : Provider) (planKey : String)
  | providerInvoice (env : Env) (providerName : String) (event : NormalizedBillingEvent)
  | renewal (env : Env)

/-- An action, and the time that passed since the one before it. -/
structure BillingStep where
  elapsed : Nat
  action : BillingAction

def Env.at (env : Env) (now : Int) : Env := { env with now := now }

def InvoiceLine.charges (line : InvoiceLine) : Bool := line.kind = .plan

/-- The invoice a renewal opens. -/
def renewalInvoice (db : Db) (subscription : Subscription) : Nat :=
  match db.draftsFor subscription.organizationId subscription.billedPeriod with
  | draft :: _ => draft.id
  | [] => db.invoices.next

/-- The invoice of a renewal has a line for the plan. -/
def renewalCharges (db : Db) (subscription : Subscription) : Bool :=
  subscription.billable &&
    match db.draftsFor subscription.organizationId subscription.billedPeriod with
    | draft :: _ => draft.lines.any InvoiceLine.charges
    | [] => decide (0 < subscription.priceCents)

def Account.charged (account : Account) (invoice : Nat) : Bool :=
  account.charges.any (·.invoice = invoice)

/-- The invoice a provider's event stores. -/
def storedInvoice (db : Db) (providerName : String) (event : NormalizedBillingEvent) : Nat :=
  (((present event.providerInvoiceId).bind (db.providerInvoice providerName)).map (·.id)).getD
    db.invoices.next

/-- A provider's invoice charges when it first carries an amount. -/
def reportCharges (account : Account) (organization : Nat) (providerName : String)
    (event : NormalizedBillingEvent) : Bool :=
  0 < event.amountCents.getD 0 ∧ (present event.providerInvoiceId).isSome ∧
    ((present event.providerInvoiceId).bind (account.db.providerInvoice providerName)).all
      (·.organizationId = organization) ∧
    account.charged (storedInvoice account.db providerName event) = false

/-- One action at an instant, and the charge it made. -/
def perform (row : Organization) (account : Account) (now : Int) :
    BillingAction → Result (Db × Option Charge)
  | .checkout env provider planKey reference contactUser source => do
      let plan ← account.db.planByKey planKey
      let (subscription, invoice, next) ← BillingService.completeCheckout (env.at now) provider
        account.db row plan reference contactUser source
      -- The period is the one the switch has just started.
      return (next, invoice.map fun invoice => ⟨subscription.servicePeriod, invoice.id, .checkout⟩)
  | .changePlan env provider planKey => do
      let (_, _, next) ← BillingService.changePlan (env.at now) provider account.db row.id planKey
      return (next, none)
  | .providerInvoice env providerName event =>
      match event.invoiceStatus with
      | none => .ok (account.db, none)
      | some status => do
          let next ← BillingWebhookService.upsertInvoice (env.at now) providerName account.db row.id
            event status
          return (next, if reportCharges account row.id providerName event then
            (account.db.currentForOrg row.id).map fun subscription =>
              ⟨subscription.servicePeriod, storedInvoice account.db providerName event, .provider⟩
            else none)
  -- The job takes due rows only, whatever it is asked for.
  | .renewal env =>
      match account.db.currentForOrg row.id with
      | none => .ok (account.db, none)
      | some subscription =>
          if subscription.due now then do
            let next ← renewLocallyBilled (env.at now) account.db subscription
            return (next, if renewalCharges account.db subscription then
              some ⟨subscription.servicePeriod, renewalInvoice account.db subscription, .renewal⟩
              else none)
          else .ok (account.db, none)

/-- A step moves the clock; a refused action changes nothing else. -/
def advance (row : Organization) (account : Account) (step : BillingStep) : Account :=
  let now := account.clock + step.elapsed
  match perform row account now step.action with
  | .ok (next, charge) => ⟨next, now, account.charges ++ charge.toList⟩
  | .error _ => { account with clock := now }

/-- The service period an action would charge, read off before it runs. -/
def periodToCharge (row : Organization) (account : Account) (now : Int) :
    BillingAction → Option ServicePeriod
  | .checkout _ _ planKey _ _ _ =>
      match account.db.planByKey planKey with
      | .ok plan =>
          if plan.priceCents.getD 0 = 0 then none
          else some ⟨((account.db.currentForOrg row.id).map (·.id)).getD account.db.subscriptions.next,
            now, now + plan.intervalDelta⟩
      | .error _ => none
  | .changePlan _ _ _ => none
  | .providerInvoice _ providerName event =>
      if event.invoiceStatus.isSome ∧ reportCharges account row.id providerName event then
        (account.db.currentForOrg row.id).map (·.servicePeriod)
      else none
  | .renewal _ =>
      ((account.db.currentForOrg row.id).filter fun subscription =>
        subscription.due now ∧ renewalCharges account.db subscription).map (·.servicePeriod)

/-- The period a step is about to charge was not charged by a checkout or on a
provider's invoice. -/
def NotPrepaid (row : Organization) (account : Account) (step : BillingStep) : Prop :=
  ∀ period ∈ periodToCharge row account (account.clock + step.elapsed) step.action,
    ∀ charge ∈ account.charges, charge.source ≠ .renewal → charge.period ≠ period

/-- The invoices in force that charge a service period. -/
def Account.invoicesFor (account : Account) (period : ServicePeriod) : List Invoice :=
  account.db.invoices.rows.filter fun invoice => invoice.status ≠ .void ∧
    account.charges.any fun charge => charge.period = period ∧ charge.invoice = invoice.id

/-- The charge is on an issued invoice of the organization that is in force. -/
def Db.Records (db : Db) (organization : Nat) (charge : Charge) : Prop :=
  ∃ invoice ∈ db.invoices.rows, invoice.id = charge.invoice ∧
    invoice.organizationId = organization ∧ invoice.status ≠ .draft ∧ invoice.status ≠ .void

/-- No service period is charged on two invoices. -/
structure ChargedOnce (organization : Nat) (account : Account) : Prop where
  once : ∀ period, (account.invoicesFor period).length ≤ 1
  recorded : ∀ charge ∈ account.charges, account.db.Records organization charge

/-- What every step keeps: charges are on invoices in force and for known
subscriptions, and what renewals charged is over and behind its subscription. -/
structure Kept (organization : Nat) (account : Account) : Prop where
  recorded : ∀ charge ∈ account.charges, account.db.Records organization charge
  known : ∀ charge ∈ account.charges, charge.period.subscription < account.db.subscriptions.next
  past : ∀ charge ∈ account.charges, charge.source = .renewal → charge.period.ends ≤ account.clock
  behind : ∀ charge ∈ account.charges, charge.source = .renewal →
    ∀ row ∈ account.db.subscriptions.rows, row.id = charge.period.subscription →
      charge.period.ends < row.currentPeriodEnd

section Keeping

variable {organization : Nat} {db next : Db} {clock now : Int} {charges : List Charge}

theorem Kept.later (kept : Kept organization ⟨db, clock, charges⟩) (le : clock ≤ now) :
    Kept organization ⟨db, now, charges⟩ :=
  ⟨kept.recorded, kept.known, fun charge member source => (kept.past charge member source).trans le,
    kept.behind⟩

/-- A write of a subscription whose new period is not behind what it renewed. -/
theorem Kept.writesSubscription {old new : Subscription}
    (kept : Kept organization ⟨db, clock, charges⟩) (writes : db.WritesSubscription old new next)
    (ahead : clock < new.currentPeriodEnd ∨ old.currentPeriodEnd ≤ new.currentPeriodEnd) :
    Kept organization ⟨next, clock, charges⟩ := by
  refine ⟨fun charge member => ?_, fun charge member => ?_, kept.past, fun charge member source row
    here same => ?_⟩
  · simpa only [Db.Records, writes.invoices] using kept.recorded charge member
  · have grown := Table.put_next writes.written
    simpa only [grown] using kept.known charge member
  · rcases (writes.mem row).mp here with rfl | ⟨here, -⟩
    · rcases ahead with later | further
      · exact (kept.past charge member source).trans_lt later
      · exact (kept.behind charge member source old writes.member
          (writes.same.symm.trans same)).trans_le further
    · exact kept.behind charge member source row here same

theorem Kept.insertsSubscription {new : Subscription}
    (kept : Kept organization ⟨db, clock, charges⟩) (inserts : db.InsertsSubscription new next)
    (id : new.id = db.subscriptions.next) : Kept organization ⟨next, clock, charges⟩ := by
  obtain ⟨make, inserted, -⟩ := inserts.inserted
  refine ⟨fun charge member => ?_, fun charge member => ?_, kept.past, fun charge member source row
    here same => ?_⟩
  · simpa only [Db.Records, inserts.invoices] using kept.recorded charge member
  · have := kept.known charge member
    simp only [Table.insert_next inserted]
    simp only at this
    omega
  · simp only [inserts.rows, List.mem_append, List.mem_singleton] at here
    rcases here with here | rfl
    · exact kept.behind charge member source row here same
    · have := kept.known charge member
      simp only at this
      omega

theorem Kept.writesInvoice {old new : Invoice} (kept : Kept organization ⟨db, clock, charges⟩)
    (writes : db.WritesInvoice old new next) (owner : new.organizationId = old.organizationId)
    (issued : new.status ≠ .draft) (valid : new.status ≠ .void) :
    Kept organization ⟨next, clock, charges⟩ := by
  refine ⟨fun charge member => ?_, ?_, kept.past, ?_⟩
  · obtain ⟨invoice, here, same, mine, status⟩ := kept.recorded charge member
    by_cases hit : invoice = old
    · subst hit
      exact ⟨new, (writes.mem new).mpr (.inl rfl), writes.same.trans same, owner.trans mine, issued,
        valid⟩
    · exact ⟨invoice, (writes.mem invoice).mpr (.inr ⟨here, hit⟩), same, mine, status⟩
  · simpa only [writes.subscriptions] using kept.known
  · simpa only [writes.subscriptions] using kept.behind

theorem Kept.insertsInvoice {new : Invoice} (kept : Kept organization ⟨db, clock, charges⟩)
    (inserts : db.InsertsInvoice new next) : Kept organization ⟨next, clock, charges⟩ := by
  refine ⟨fun charge member => ?_, ?_, kept.past, ?_⟩
  · obtain ⟨invoice, here, rest⟩ := kept.recorded charge member
    exact ⟨invoice, by rw [inserts.rows]; exact List.mem_append_left _ here, rest⟩
  · simpa only [inserts.subscriptions] using kept.known
  · simpa only [inserts.subscriptions] using kept.behind

/-- A charge on an invoice in force, renewals' for a period that is over. -/
theorem Kept.charge {charge : Charge} (kept : Kept organization ⟨db, clock, charges⟩)
    (recorded : db.Records organization charge)
    (known : charge.period.subscription < db.subscriptions.next)
    (closed : charge.source = .renewal → charge.period.ends ≤ clock ∧
      ∀ row ∈ db.subscriptions.rows, row.id = charge.period.subscription →
        charge.period.ends < row.currentPeriodEnd) :
    Kept organization ⟨db, clock, charges ++ [charge]⟩ := by
  refine ⟨fun other member => ?_, fun other member => ?_, fun other member source => ?_,
    fun other member source => ?_⟩
  all_goals
    simp only [List.mem_append, List.mem_singleton] at member
    rcases member with member | rfl
  · exact kept.recorded other member
  · exact recorded
  · exact kept.known other member
  · exact known
  · exact kept.past other member source
  · exact (closed source).1
  · exact kept.behind other member source
  · exact (closed source).2

theorem Kept.congr (kept : Kept organization ⟨db, clock, charges⟩)
    (subscriptions : next.subscriptions = db.subscriptions) (invoices : next.invoices = db.invoices) :
    Kept organization ⟨next, clock, charges⟩ := by
  refine ⟨fun charge member => ?_, ?_, kept.past, ?_⟩
  · simpa only [Db.Records, invoices] using kept.recorded charge member
  · simpa only [subscriptions] using kept.known
  · simpa only [subscriptions] using kept.behind

theorem intervalDelta_pos (plan : Plan) : 0 < plan.intervalDelta := by
  simp only [Plan.intervalDelta]
  split <;> decide

/-- A switch keeps the period or starts one now: both end late enough. -/
theorem Kept.changePlan {subscription : Subscription} {planKey : String}
    {providerName reference : Option String} {keepPeriod : Bool}
    (kept : Kept organization ⟨db, now, charges⟩)
    (changed : SubscriptionService.changePlan db now organization planKey providerName reference
      keepPeriod = .ok (subscription, next)) : Kept organization ⟨next, now, charges⟩ := by
  obtain ⟨plan, -, ⟨-, inserts, id⟩ | ⟨existing, -, writes, rfl⟩⟩ :=
    SubscriptionService.changePlan_cases changed
  · exact kept.insertsSubscription inserts (id ▸ rfl)
  · refine kept.writesSubscription writes ?_
    have positive := intervalDelta_pos plan
    simp only [Subscription.switched]
    split
    · exact .inr le_rfl
    · exact .inl (by omega)

end Keeping

/-- What is shown of every action that goes through. -/
structure Performed (row : Organization) (account : Account) (now : Int) (action : BillingAction)
    (next : Db) (charge : Option Charge) : Prop where
  kept : Kept row.id ⟨next, now, account.charges ++ charge.toList⟩
  period : ∀ made ∈ charge, made.period ∈ periodToCharge row account now action
  unrenewed : ∀ made ∈ charge, ∀ earlier ∈ account.charges, earlier.source = .renewal →
    earlier.period ≠ made.period

section Actions

variable {row : Organization} {account : Account} {now : Int} {next : Db} {charge : Option Charge}

theorem Performed.uncharged {action : BillingAction}
    (kept : Kept row.id ⟨next, now, account.charges⟩) : Performed row account now action next none :=
  ⟨by simpa using kept, by simp, by simp⟩

/-- Renewals have charged nothing that ends as late as the current period. -/
theorem Kept.unrenewed {subscription : Subscription} (kept : Kept row.id account)
    (member : subscription ∈ account.db.subscriptions.rows) :
    ∀ earlier ∈ account.charges, earlier.source = .renewal →
      earlier.period ≠ subscription.servicePeriod := by
  rintro earlier here source same
  have behind := kept.behind earlier here source subscription member (by rw [same]; rfl)
  rw [same] at behind
  exact lt_irrefl _ behind

theorem perform_checkout {env : Env} {provider : Provider} {planKey : String}
    {reference : Option String} {contactUser : Option User} {source : CheckoutSource}
    (kept : Kept row.id account) (later : account.clock ≤ now)
    (performed : perform row account now (.checkout env provider planKey reference contactUser source) =
      .ok (next, charge)) :
    Performed row account now (.checkout env provider planKey reference contactUser source) next
      charge := by
  obtain ⟨plan, found, performed⟩ := Result.bind_eq_ok.mp performed
  obtain ⟨⟨subscription, invoice, after⟩, completed, done⟩ := Result.bind_eq_ok.mp performed
  cases done
  obtain ⟨ensured, switched, frame, changed, outcome⟩ :=
    BillingService.completeCheckout_cases completed
  have subscriptions : ensured.subscriptions = account.db.subscriptions := by rw [frame]
  have invoices : ensured.invoices = account.db.invoices := by rw [frame]
  have plans : ensured.plans = account.db.plans := by rw [frame]
  have moved : Kept row.id ⟨switched, now, account.charges⟩ :=
    ((kept.later later).congr subscriptions invoices).changePlan changed
  rcases outcome with ⟨-, rfl, rfl⟩ | ⟨priced, opened, rfl, inserts, id, owner, status⟩
  · exact .uncharged moved
  obtain ⟨other, found', shape⟩ := SubscriptionService.changePlan_cases changed
  -- The plan read before the checkout is the plan it switched to.
  have same : other = plan := by
    rw [Db.planByKey, plans, Db.planByKey_eq_ok found, ← Db.planByKey, found] at found'
    cases found'
    rfl
  subst same
  have current_eq : ensured.currentForOrg row.id = account.db.currentForOrg row.id := by
    rw [Db.currentForOrg, subscriptions, Db.currentForOrg]
  have positive := intervalDelta_pos other
  -- The row is the new one or the one that was there, with a period from now on.
  have here : subscription ∈ switched.subscriptions.rows ∧ subscription.servicePeriod =
      ⟨((account.db.currentForOrg row.id).map (·.id)).getD account.db.subscriptions.next, now,
        now + other.intervalDelta⟩ := by
    rcases shape with ⟨vacant, inserts, eq⟩ | ⟨existing, current, writes, eq⟩
    · rw [current_eq] at vacant
      refine ⟨by rw [inserts.rows]; simp, ?_⟩
      rw [eq, vacant, subscriptions]
      rfl
    · rw [current_eq] at current
      refine ⟨(writes.mem _).mpr (.inl rfl), ?_⟩
      rw [eq, current]
      simp [Subscription.servicePeriod, Subscription.switched, Env.at]
  obtain ⟨member, period⟩ := here
  refine ⟨?_, ?_, ?_⟩
  · refine (moved.insertsInvoice inserts).charge ⟨opened, by rw [inserts.rows]; simp, rfl, owner, ?_,
      ?_⟩ ?_ (by simp)
    · simp [status]
    · simp [status]
    · rw [inserts.subscriptions]
      exact Table.id_lt_next _ member
  · rintro made ⟨⟩
    simp only [periodToCharge, found, if_neg priced]
    exact congrArg some period.symm
  -- Checkouts come at later instants, and their periods start there.
  · rintro made ⟨⟩ earlier before source same
    have past := kept.past earlier before source
    simp only at same
    rw [same, period] at past
    simp only at past
    omega

theorem perform_changePlan {env : Env} {provider : Provider} {planKey : String}
    (kept : Kept row.id account) (later : account.clock ≤ now)
    (performed : perform row account now (.changePlan env provider planKey) = .ok (next, charge)) :
    Performed row account now (.changePlan env provider planKey) next charge := by
  obtain ⟨⟨subscription, adjustment, after⟩, changed, done⟩ := Result.bind_eq_ok.mp performed
  cases done
  obtain ⟨reference, keepPeriod, moved, mid, switched, ⟨-, -, rfl⟩ | ⟨queued, -, writes, rfl⟩⟩ :=
    BillingService.changePlan_cases changed
  all_goals have kept' := (kept.later later).changePlan switched
  · exact .uncharged kept'
  · exact .uncharged (kept'.writesSubscription writes (.inr le_rfl))

theorem perform_providerInvoice {env : Env} {providerName : String} {event : NormalizedBillingEvent}
    (kept : Kept row.id account) (later : account.clock ≤ now)
    (performed : perform row account now (.providerInvoice env providerName event) =
      .ok (next, charge)) :
    Performed row account now (.providerInvoice env providerName event) next charge := by
  have kept' : Kept row.id ⟨account.db, now, account.charges⟩ := kept.later later
  simp only [perform] at performed
  cases asked : event.invoiceStatus with
  | none =>
      rw [asked] at performed
      cases performed
      exact .uncharged kept'
  | some status =>
      rw [asked] at performed
      obtain ⟨stored, upserted, done⟩ := Result.bind_eq_ok.mp performed
      cases done
      -- A provider reports no drafts and no voided invoices.
      have issued : status ≠ .draft ∧ status ≠ .void := by
        simp only [NormalizedBillingEvent.invoiceStatus] at asked
        split at asked <;> cases asked <;> decide
      cases referenced : present event.providerInvoiceId with
      | none =>
          rw [BillingWebhookService.upsertInvoice_unreferenced referenced] at upserted
          cases upserted
          rw [if_neg (by simp [reportCharges, referenced])]
          exact .uncharged kept'
      | some reference =>
          -- What is stored is the invoice the charge names, on the same subscriptions.
          have facts : Kept row.id ⟨next, now, account.charges⟩ ∧
              (reportCharges account row.id providerName event = true →
                ∃ invoice ∈ next.invoices.rows,
                  invoice.id = storedInvoice account.db providerName event ∧
                  invoice.organizationId = row.id ∧ invoice.status ≠ .draft ∧
                    invoice.status ≠ .void) ∧ next.subscriptions = account.db.subscriptions := by
            obtain ⟨customer, ⟨old, found, writes⟩ | ⟨absent, inserts⟩⟩ :=
              BillingWebhookService.upsertInvoice_cases referenced upserted
            · refine ⟨kept'.writesInvoice writes rfl issued.1 issued.2, fun charges => ?_,
                writes.subscriptions⟩
              have owner : old.organizationId = row.id := by
                simp only [reportCharges, referenced, Option.bind_some, found, Option.all_some,
                  decide_eq_true_eq] at charges
                exact charges.2.2.1
              refine ⟨_, (writes.mem _).mpr (.inl rfl), ?_, owner, issued.1, issued.2⟩
              simp [storedInvoice, referenced, found, Invoice.reported]
            · have here : _ ∈ next.invoices.rows :=
                inserts.rows ▸ List.mem_append_right _ (List.mem_singleton_self _)
              refine ⟨kept'.insertsInvoice inserts, fun _ => ⟨_, here, ?_, rfl, issued.1, issued.2⟩,
                inserts.subscriptions⟩
              simp [storedInvoice, referenced, absent, Invoice.reported, blankInvoice]
          obtain ⟨report_kept, recorded, subscriptions⟩ := facts
          by_cases charges : reportCharges account row.id providerName event = true
          · rw [if_pos charges]
            cases current : account.db.currentForOrg row.id with
            | none => exact .uncharged report_kept
            | some subscription =>
                have member := (Db.currentForOrg_eq_some.mp current).1
                refine ⟨report_kept.charge (recorded charges) ?_ (by simp), ?_, ?_⟩
                · rw [subscriptions]
                  exact Table.id_lt_next _ member
                · rintro made ⟨⟩
                  simp [periodToCharge, asked, charges, current]
                · rintro made ⟨⟩
                  exact kept.unrenewed member
          · rw [if_neg charges]
            exact .uncharged report_kept

theorem Kept.rolled {db : Db} {charges : List Charge} {subscription : Subscription}
    (kept : Kept row.id ⟨db, now, charges⟩)
    (rolls : db.WritesSubscription subscription subscription.rolled next) :
    Kept row.id ⟨next, now, charges⟩ := by
  refine kept.writesSubscription rolls (.inr ?_)
  have further := subscription.interval_pos
  simp only [Subscription.rolled]
  omega

theorem Kept.finalized {env : Env} {db : Db} {charges : List Charge} {draft : Invoice}
    {number : InvoiceNumber} (kept : Kept row.id ⟨db, now, charges⟩)
    (finalizes : db.WritesInvoice draft (draft.finalized number env.now) next) :
    Kept row.id ⟨next, now, charges⟩ :=
  kept.writesInvoice finalizes rfl (by simp [Invoice.finalized]) (by simp [Invoice.finalized])

theorem Kept.renewed {env : Env} {db : Db} {charges : List Charge} {subscription : Subscription}
    (kept : Kept row.id ⟨db, now, charges⟩) (renewed : Renewed env db subscription next) :
    Kept row.id ⟨next, now, charges⟩ := by
  cases renewed with
  | unbilled idle rolls => exact kept.rolled rolls
  | reused billable found opened_eq finalizes rolls =>
      subst opened_eq
      exact (kept.finalized finalizes).rolled rolls
  | drafted billable absent lines_eq drained_eq drains draft_eq drafts opened_eq finalizes rolls =>
      subst opened_eq drained_eq
      have drafted := (kept.writesSubscription drains (.inr le_rfl)).insertsInvoice drafts
      exact (drafted.finalized finalizes).rolled rolls

/-- What a renewal charges is on the invoice it issued. -/
theorem Renewed.records {env : Env} {db : Db} {subscription : Subscription} {source : ChargeSource}
    (renewed : Renewed env db subscription next)
    (charges : renewalCharges db subscription = true) :
    next.Records subscription.organizationId
      ⟨subscription.servicePeriod, renewalInvoice db subscription, source⟩ := by
  cases renewed with
  | unbilled idle rolls => simp [renewalCharges, idle] at charges
  | @reused draft opened mid billable found opened_eq finalizes rolls =>
      have located : draft ∈ db.draftsFor subscription.organizationId subscription.billedPeriod := by
        simp [found]
      obtain ⟨-, mine, -, -⟩ := InvoicingService.mem_draftsFor.mp located
      refine ⟨opened, ?_, ?_, ?_, ?_, ?_⟩
      · rw [rolls.invoices]
        exact (finalizes.mem _).mpr (.inl rfl)
      · simp [renewalInvoice, found, opened_eq, Invoice.finalized]
      all_goals simp [opened_eq, Invoice.finalized, mine]
  | @drafted lines drained draft opened mid drafting finalizing billable absent lines_eq drained_eq
      drains draft_eq drafts opened_eq finalizes rolls =>
      refine ⟨opened, ?_, ?_, ?_, ?_, ?_⟩
      · rw [rolls.invoices]
        exact (finalizes.mem _).mpr (.inl rfl)
      · simp [renewalInvoice, absent, opened_eq, draft_eq, Invoice.finalized, draftInvoice,
          drains.invoices]
      all_goals simp [opened_eq, draft_eq, Invoice.finalized, draftInvoice]

theorem perform_renewal {env : Env} (kept : Kept row.id account) (later : account.clock ≤ now)
    (performed : perform row account now (.renewal env) = .ok (next, charge)) :
    Performed row account now (.renewal env) next charge := by
  have kept' : Kept row.id ⟨account.db, now, account.charges⟩ := kept.later later
  simp only [perform] at performed
  cases current : account.db.currentForOrg row.id with
  | none =>
      rw [current] at performed
      cases performed
      exact .uncharged kept'
  | some subscription =>
      simp only [current] at performed
      obtain ⟨member, mine, -⟩ := Db.currentForOrg_eq_some.mp current
      split at performed
      · next due =>
          obtain ⟨moved, renewal, done⟩ := Result.bind_eq_ok.mp performed
          cases done
          have renewed := renewLocallyBilled_renewed (mine ▸ current) renewal
          have after := kept'.renewed renewed
          by_cases charges : renewalCharges account.db subscription = true
          · rw [if_pos charges]
            obtain ⟨drained, same, rows⟩ := renewed.mem
            refine ⟨after.charge (mine ▸ renewed.records charges) ?_ fun _ => ⟨?_, ?_⟩, ?_, ?_⟩
            · have here := Table.id_lt_next _ ((rows drained.rolled).mpr (.inl rfl))
              rw [same] at here
              exact here
            · simp only [Subscription.due, decide_eq_true_eq] at due
              exact due.2.1
            -- The rolled row is a period further; its id is that of no other row.
            · intro other here id
              have further := subscription.interval_pos
              rcases (rows other).mp here with rfl | ⟨here, distinct⟩
              · rw [same]
                simp only [Subscription.servicePeriod, Subscription.rolled]
                exact Int.lt_add_of_pos_right _ further
              · exact absurd (Table.eq_of_id _ here member id) distinct
            · rintro made ⟨⟩
              simp [periodToCharge, current, due, charges]
            · rintro made ⟨⟩
              exact kept.unrenewed member
          · rw [if_neg charges]
            exact .uncharged after
      · cases performed
        exact .uncharged kept'

theorem perform_performed {action : BillingAction} (kept : Kept row.id account)
    (later : account.clock ≤ now) (performed : perform row account now action = .ok (next, charge)) :
    Performed row account now action next charge := by
  cases action with
  | checkout => exact perform_checkout kept later performed
  | changePlan => exact perform_changePlan kept later performed
  | providerInvoice => exact perform_providerInvoice kept later performed
  | renewal => exact perform_renewal kept later performed

end Actions

/-- The charges so far are on record and for distinct service periods. -/
structure DistinctlyKept (organization : Nat) (account : Account) : Prop where
  kept : Kept organization account
  distinct : account.charges.Pairwise fun first second => first.period ≠ second.period

/-- A step whose period was not prepaid charges a period nothing charged. -/
theorem DistinctlyKept.advance {row : Organization} {account : Account} {step : BillingStep}
    (before : DistinctlyKept row.id account) (fresh : NotPrepaid row account step) :
    DistinctlyKept row.id (advance row account step) := by
  have later : account.clock ≤ account.clock + step.elapsed := by omega
  simp only [SynapseSaas.advance]
  split
  · next next charge performed =>
      obtain ⟨kept, period, unrenewed⟩ := perform_performed before.kept later performed
      refine ⟨kept, ?_⟩
      cases charge with
      | none => simpa using before.distinct
      | some made =>
          refine List.pairwise_append.mpr ⟨before.distinct, List.pairwise_singleton _ _, ?_⟩
          rintro earlier here other member
          obtain rfl : other = made := by simpa using member
          by_cases source : earlier.source = .renewal
          · exact unrenewed other rfl earlier here source
          · exact fresh other.period (period other rfl) earlier here source
  · exact ⟨before.kept.later later, before.distinct⟩

/-- Distinct periods are on distinct charges, and a charge is on one invoice. -/
theorem DistinctlyKept.chargedOnce {organization : Nat} {account : Account}
    (kept : DistinctlyKept organization account) : ChargedOnce organization account := by
  refine ⟨fun period => ?_, kept.kept.recorded⟩
  -- Two invoices of one period have charges of one period, which is one charge.
  refine account.db.invoices.length_filter_le_one fun first here second there left right => ?_
  simp only [List.any_eq_true, decide_eq_true_eq] at left right
  obtain ⟨-, mine, member, for_first, on_first⟩ := left
  obtain ⟨-, yours, member', for_second, on_second⟩ := right
  have symmetric : Std.Symm fun first second : Charge => first.period ≠ second.period :=
    ⟨fun _ _ apart => apart.symm⟩
  have same : mine = yours := by
    by_contra apart
    exact kept.distinct.forall member member' apart (for_first.trans for_second.symm)
  exact Table.eq_of_id _ here there (on_first.symm.trans (same ▸ on_second))

/-- Over any run of checkouts, plan changes, provider invoices and renewals no
service period is charged twice, as long as no step charges a period that a
checkout or the provider already did. -/
theorem no_double_charge (row : Organization) (db : Db) (clock : Int) (steps : List BillingStep)
    (guarded : Runs.Guarded (advance row) (NotPrepaid row) ⟨db, clock, []⟩ steps) :
    Runs.Always (advance row) (ChargedOnce row.id) ⟨db, clock, []⟩ steps := by
  have start : DistinctlyKept row.id ⟨db, clock, []⟩ :=
    ⟨⟨by simp, by simp, by simp, by simp⟩, List.Pairwise.nil⟩
  exact (Runs.always_of_guarded _ (fun _ _ kept fresh => kept.advance fresh) start guarded).mono _
    fun _ kept => kept.chargedOnce

/-! A checkout of a priced plan, and renewals of the thirty days it pays for. -/

instance (row : Organization) (account : Account) (step : BillingStep) :
    Decidable (NotPrepaid row account step) :=
  inferInstanceAs (Decidable (∀ _ ∈ _, ∀ _ ∈ _, _))

def acme : Organization := ⟨1, "acme", "Acme", none⟩

def renewAfterThirtyDays : BillingStep := ⟨2592000000000, .renewal { now := 0 }⟩

def buyStarter : BillingStep :=
  ⟨0, .checkout { now := 0 } (manualProvider noApi) "starter" none none .clientConfirm⟩

theorem no_double_charge_renewed_twice :
    Runs.Always (advance acme) (ChargedOnce acme.id) ⟨sampleDb (sampleSubscription 0), 0, []⟩
      [renewAfterThirtyDays, renewAfterThirtyDays] :=
  no_double_charge acme (sampleDb (sampleSubscription 0)) 0 _ ⟨by decide, by decide, trivial⟩

/-- The first renewal after a checkout charges the period the checkout charged. -/
theorem checkout_period_charged_again_by_renewal :
    (advance acme ⟨sampleDb (sampleSubscription 0), 0, []⟩ buyStarter).charges =
        [⟨⟨0, 0, 2592000000000⟩, 0, .checkout⟩] ∧
      ¬ Runs.Always (advance acme) (ChargedOnce acme.id) ⟨sampleDb (sampleSubscription 0), 0, []⟩
        [buyStarter, renewAfterThirtyDays] := by
  refine ⟨by decide, fun always => ?_⟩
  have twice : ((Runs.run (advance acme) ⟨sampleDb (sampleSubscription 0), 0, []⟩
      [buyStarter, renewAfterThirtyDays]).invoicesFor ⟨0, 0, 2592000000000⟩).length = 2 := by decide
  have once := (always.last _).once ⟨0, 0, 2592000000000⟩
  omega

end SynapseSaas
