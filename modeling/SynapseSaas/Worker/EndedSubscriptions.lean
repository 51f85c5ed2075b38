import SynapseSaas.Billing.Arrivals
import SynapseSaas.Subscriptions.Progress
import SynapseSaas.Worker.Lifecycle

/-! Whether a subscription stops granting when its trial, or the period it was
canceled at the end of, is over.

Resolution reads the status alone, so the plan is in force until an operation
takes the row out of force. -/

set_option autoImplicit false

namespace SynapseSaas

def Subscription.locallyBilled (subscription : Subscription) : Bool :=
  subscription.provider.all (· ∈ locallyBilledProviderNames)

/-- The trial is over, or the period the subscription was to end with. -/
def Subscription.overAt (subscription : Subscription) (instant : Int) : Bool :=
  subscription.status = .trialing ∧ subscription.trialEndsAt.any (· ≤ instant) ∨
    subscription.cancelAtPeriodEnd ∧ subscription.currentPeriodEnd ≤ instant

/-- The instants the subscription is to end at: of its trial, and of the period it
was canceled at the end of. -/
def Subscription.scheduledEnds (subscription : Subscription) : List Int :=
  (if subscription.status = .trialing then subscription.trialEndsAt.toList else []) ++
    if subscription.cancelAtPeriodEnd then [subscription.currentPeriodEnd] else []

/-- What the organization is entitled to with nothing from a plan. -/
def grantsAlone (env : Env) (db : Db) (organization : Nat) : EffectiveEntitlements :=
  resolveEffective
    { entitlementInputs env db organization with planFeatures := [], planLimits := [] }

/-- No feature and no limit of its plan comes from a subscription that is over. -/
def StopGranting (settings : Settings) (state : Lifecycle) : Prop :=
  ∀ row ∈ state.db.subscriptions.rows, row.locallyBilled → row.overAt state.now →
    state.db.currentForOrg row.organizationId = some row →
      computeEntitlements { now := state.now, settings } state.db row.organizationId =
        grantsAlone { now := state.now, settings } state.db row.organizationId

/-- The row is not in force past its end. -/
def Subscription.Timely (settings : Settings) (instant : Int) (subscription : Subscription) : Prop :=
  subscription.locallyBilled → inForce settings subscription.status →
    ¬ subscription.overAt instant

instance (settings : Settings) (instant : Int) (subscription : Subscription) :
    Decidable (subscription.Timely settings instant) :=
  inferInstanceAs (Decidable (_ → _ → _))

def InTime (settings : Settings) (now : Int) (db : Db) : Prop :=
  ∀ row ∈ db.subscriptions.rows, row.Timely settings now

instance (settings : Settings) (now : Int) (db : Db) : Decidable (InTime settings now db) :=
  inferInstanceAs (Decidable (∀ row ∈ _, _))

/-! The condition on an operation. -/

/-- No locally billed subscription in force is to end while so much time passes. -/
def NoneEndsWithin (settings : Settings) (state : Lifecycle) (elapsed : Nat) : Prop :=
  ∀ row ∈ state.db.subscriptions.rows, row.locallyBilled → inForce settings row.status →
    ∀ ending ∈ row.scheduledEnds, ¬ (state.now < ending ∧ ending ≤ state.now + elapsed)

instance (settings : Settings) (state : Lifecycle) (elapsed : Nat) :
    Decidable (NoneEndsWithin settings state elapsed) :=
  inferInstanceAs (Decidable (∀ row ∈ _, _))

/-- A status event puts no subscription in force, or leaves it so, past its end. -/
def NormalizedBillingEvent.Meets (event : NormalizedBillingEvent) (settings : Settings) (now : Int)
    (db : Db) : Prop :=
  ∀ organization target row status, event.organization db = some organization →
    event.targetStatus = some target → db.currentForOrg organization = some row →
    assertTransition row.status target = .ok status →
      { row with
        status := status
        currentPeriodEnd := event.currentPeriodEnd.getD row.currentPeriodEnd }.Timely settings now

/-- The events of a delivery in order, each where those before it have left the database. -/
def VerifiedWebhook.Meets (webhook : VerifiedWebhook) (settings : Settings) (now : Int)
    (api : BillingApi) (db : Db) : Prop :=
  ∀ row claimed events, db.claimWebhook webhook = some (row, claimed) →
    webhook.translated = .ok events →
      Runs.Guarded
        (Transaction.requests (BillingWebhookService.apply { now, settings } api webhook.providerName))
        (fun db event => event.Meets settings now db) claimed events

/-- No subscription in force is to end while the clock moves; no operation puts one
in force, or marks it to end, after its end. -/
def Operation.Meets (settings : Settings) (state : Lifecycle) : Operation → Prop
  | .wait elapsed => NoneEndsWithin settings state elapsed
  | .startTrial _ _ trialDays => trialDays ≠ some 0
  | .cancel organization true => ∀ row, state.db.currentForOrg organization = some row →
      row.locallyBilled → inForce settings row.status → state.now < row.currentPeriodEnd
  | .deliver webhook api _ => webhook.Meets settings state.now api state.db
  | _ => True

section Rows

variable {settings : Settings} {now : Int} {row : Subscription}

theorem Subscription.overAt_iff : row.overAt now ↔
    row.status = .trialing ∧ row.trialEndsAt.any (· ≤ now) ∨
      row.cancelAtPeriodEnd ∧ row.currentPeriodEnd ≤ now := by
  simp only [Subscription.overAt, decide_eq_true_eq]

theorem Subscription.overAt_iff_ends {instant : Int} :
    row.overAt instant ↔ ∃ ending ∈ row.scheduledEnds, ending ≤ instant := by
  rw [Subscription.overAt_iff]
  unfold Subscription.scheduledEnds
  cases row.trialEndsAt <;> by_cases trialing : row.status = .trialing <;>
    by_cases canceled : row.cancelAtPeriodEnd <;> simp [trialing, canceled]

theorem timely_of_unforced (ended : inForce settings row.status = false) :
    row.Timely settings now := by
  intro _ forced
  rw [ended] at forced
  cases forced

theorem timely_of_renewing (status : row.status ≠ .trialing)
    (renews : row.cancelAtPeriodEnd = false) : row.Timely settings now := by
  intro _ _ overdue
  rcases Subscription.overAt_iff.mp overdue with ⟨trialing, -⟩ | ⟨canceled, -⟩
  · exact status trialing
  · rw [renews] at canceled
    cases canceled

/-- A renewal moves the end of the row on and nothing else that counts. -/
theorem Subscription.Timely.rolled (timely : row.Timely settings now) :
    row.rolled.Timely settings now := by
  intro locally forced overdue
  apply timely locally forced
  rw [Subscription.overAt_iff] at overdue ⊢
  have longer := row.interval_pos
  rcases overdue with trial | ⟨canceled, passed⟩
  · exact .inl trial
  · simp only [Subscription.rolled] at passed
    exact .inr ⟨canceled, by omega⟩

theorem Subscription.Timely.resumed (timely : row.Timely settings now) :
    { row with cancelAtPeriodEnd := false }.Timely settings now := by
  intro locally forced overdue
  apply timely locally forced
  rw [Subscription.overAt_iff] at overdue ⊢
  rcases overdue with trial | ⟨canceled, -⟩
  · exact .inl trial
  · cases canceled

/-- Marking a row to end with a period that has not ended. -/
theorem Subscription.Timely.canceled (timely : row.Timely settings now)
    (open_period : row.locallyBilled → inForce settings row.status → now < row.currentPeriodEnd) :
    { row with cancelAtPeriodEnd := true }.Timely settings now := by
  intro locally forced overdue
  rcases Subscription.overAt_iff.mp overdue with trial | ⟨-, passed⟩
  · exact timely locally forced (Subscription.overAt_iff.mpr (.inl trial))
  · have later := open_period locally forced
    simp only at passed
    omega

end Rows

section Databases

variable {settings : Settings} {now : Int} {db next : Db} {old new : Subscription}

theorem InTime.of_subscriptions (inTime : InTime settings now db)
    (same : next.subscriptions = db.subscriptions) : InTime settings now next := by
  unfold InTime
  rw [same]
  exact inTime

theorem InTime.written (inTime : InTime settings now db)
    (writes : db.WritesSubscription old new next) (timely : new.Timely settings now) :
    InTime settings now next := by
  intro row member
  rcases (writes.mem row).mp member with rfl | ⟨here, -⟩
  · exact timely
  · exact inTime row here

theorem InTime.inserted (inTime : InTime settings now db) (inserts : db.InsertsSubscription new next)
    (timely : new.Timely settings now) : InTime settings now next := by
  intro row member
  rw [inserts.rows] at member
  rcases List.mem_append.mp member with here | added
  · exact inTime row here
  · rw [List.mem_singleton.mp added]
    exact timely

theorem InTime.current {organization : Nat} (inTime : InTime settings now db)
    (current : db.currentForOrg organization = some old) : old.Timely settings now :=
  inTime old (Db.currentForOrg_eq_some.mp current).1

end Databases

/-! What each operation keeps. -/

section Operations

variable {settings : Settings} {now : Int} {db next : Db} {organization : Nat}
  {subscription : Subscription}

/-- A switched subscription is active and set to renew, and so is a new one. -/
theorem switch_inTime {planKey : String} {provider reference : Option String} {keepPeriod : Bool}
    (inTime : InTime settings now db)
    (changed : SubscriptionService.changePlan db now organization planKey provider reference
      keepPeriod = .ok (subscription, next)) :
    InTime settings now next ∧ subscription.Timely settings now := by
  obtain ⟨plan, -, ⟨-, inserts, created⟩ | ⟨existing, -, writes, switched⟩⟩ :=
    SubscriptionService.changePlan_cases changed
  · have timely : subscription.Timely settings now := by
      rw [created]
      apply timely_of_renewing
      · exact Status.noConfusion
      · rfl
    exact ⟨inTime.inserted inserts timely, timely⟩
  · have timely : subscription.Timely settings now := by
      rw [switched]
      apply timely_of_renewing
      · exact Status.noConfusion
      · rfl
    exact ⟨inTime.written writes timely, timely⟩

theorem changePlan_inTime {env : Env} {provider : Provider} {planKey : String}
    {adjustment : Option Adjustment} (inTime : InTime settings env.now db)
    (changed : BillingService.changePlan env provider db organization planKey =
      .ok (subscription, adjustment, next)) : InTime settings env.now next := by
  obtain ⟨reference, keepPeriod, moved, mid, switched, outcome⟩ :=
    BillingService.changePlan_cases changed
  obtain ⟨later, timely⟩ := switch_inTime inTime switched
  rcases outcome with ⟨-, -, rfl⟩ | ⟨queued, -, writes, rfl⟩
  · exact later
  · -- the queue plays no part
    exact later.written writes timely

theorem completeCheckout_inTime {env : Env} {provider : Provider} {row : Organization} {plan : Plan}
    {reference : Option String} {contactUser : Option User} {source : CheckoutSource}
    {invoice : Option Invoice} (inTime : InTime settings env.now db)
    (completed : BillingService.completeCheckout env provider db row plan reference contactUser
      source = .ok (subscription, invoice, next)) : InTime settings env.now next := by
  obtain ⟨ensured, switched, frame, changed, outcome⟩ :=
    BillingService.completeCheckout_cases completed
  have same : ensured.subscriptions = db.subscriptions := by rw [frame]
  have later := (switch_inTime (inTime.of_subscriptions same) changed).1
  rcases outcome with ⟨-, -, rfl⟩ | ⟨-, opened, -, inserts, -⟩
  · exact later
  · exact later.of_subscriptions inserts.subscriptions

theorem startTrial_inTime {planKey : String} {trialDays : Option Nat}
    (inTime : InTime settings now db) (some_days : trialDays ≠ some 0)
    (started : SubscriptionService.startTrial db now organization planKey trialDays =
      .ok (subscription, next)) : InTime settings now next := by
  obtain ⟨plan, -, offered, ends, renews⟩ := SubscriptionService.startTrial_ends started
  have timely : subscription.Timely settings now := by
    intro _ _ overdue
    rcases Subscription.overAt_iff.mp overdue with ⟨-, ended⟩ | ⟨canceled, -⟩
    -- A trial of no days is over as it starts; any other ends later.
    · have lasting : 0 < trialDays.getD plan.trialDays := by
        cases trialDays with
        | none =>
            rcases offered with days | asked
            · exact Nat.pos_of_ne_zero days
            · cases asked
        | some days => exact Nat.pos_of_ne_zero fun zero => some_days (congrArg some zero)
      rw [ends] at ended
      simp only [Option.any_some, decide_eq_true_eq, day, second] at ended
      omega
    · rw [renews] at canceled
      cases canceled
  obtain ⟨_, mid, -, -, before, inserts, -⟩ := SubscriptionService.startTrial_cases started
  rcases before with ⟨-, rfl⟩ | ⟨existing, -, -, writes⟩
  · exact inTime.inserted inserts timely
  · exact (inTime.written writes (timely_of_unforced rfl)).inserted inserts timely

theorem bootstrapSubscription_inTime (inTime : InTime settings now db)
    (ran : bootstrapSubscription settings now db organization = .ok next) :
    InTime settings now next := by
  unfold bootstrapSubscription at ran
  split at ran
  · cases ran
    exact inTime
  · obtain ⟨⟨created, mid⟩, creates, done⟩ := Result.bind_eq_ok.mp ran
    cases done
    obtain ⟨inserts, eq⟩ := SubscriptionService.createSubscription_inserts creates
    apply inTime.inserted inserts
    rw [eq]
    apply timely_of_renewing
    · exact Status.noConfusion
    · rfl

theorem cancel_inTime {atPeriodEnd : Bool} (inTime : InTime settings now db)
    (meets : (Operation.cancel organization atPeriodEnd).Meets settings ⟨now, db⟩)
    (canceled : SubscriptionService.cancel db now organization atPeriodEnd =
      .ok (subscription, next)) : InTime settings now next := by
  obtain ⟨existing, current, writes, eq⟩ := SubscriptionService.cancel_cases canceled
  cases atPeriodEnd with
  | false =>
      apply inTime.written writes
      rw [eq]
      exact timely_of_unforced rfl
  | true =>
      apply inTime.written writes
      rw [eq]
      exact (inTime.current current).canceled (meets existing current)

theorem resume_inTime (inTime : InTime settings now db)
    (resumed : SubscriptionService.resume db organization = .ok (subscription, next)) :
    InTime settings now next := by
  obtain ⟨existing, current, -, writes, eq⟩ := SubscriptionService.resume_cases resumed
  apply inTime.written writes
  rw [eq]
  exact (inTime.current current).resumed

theorem draftForOrg_inTime {env : Env} {period : Option Int} {invoice : Invoice}
    (inTime : InTime settings env.now db)
    (drafted : InvoicingService.draftForOrg env db organization period = .ok (invoice, next)) :
    InTime settings env.now next := by
  rcases InvoicingService.draftForOrg_cases drafted with
    ⟨-, rfl⟩ | ⟨-, existing, lines, mid, current, -, writes, inserts, -⟩
  · exact inTime
  · have timely : existing.Timely settings env.now := inTime.current current
    exact (inTime.written writes timely).of_subscriptions inserts.subscriptions

theorem advanceRecurringBilling_inTime {env : Env} (inTime : InTime settings now db) :
    InTime settings now (advanceRecurringBilling env db).2 := by
  apply advanceRecurringBilling_invariant _ inTime
  intro db row next inTime member _ renewed other here
  obtain ⟨drained, drained_eq, rows⟩ := renewed.mem
  rcases (rows other).mp here with rfl | ⟨kept, -⟩
  · apply Subscription.Timely.rolled
    rw [drained_eq]
    exact inTime row member
  · exact inTime other kept

/-! Provider events. -/

variable {api : BillingApi} {providerName : String} {event : NormalizedBillingEvent}

theorem apply_inTime {env : Env} (inTime : InTime settings env.now db)
    (meets : event.Meets settings env.now db)
    (applied : BillingWebhookService.apply env api providerName db event = .ok next) :
    InTime settings env.now next := by
  simp only [BillingWebhookService.apply] at applied
  split at applied
  · cases applied
    exact inTime
  · next organization resolved =>
    split at applied
    · next target asked =>
      -- Only a status event may move an ended subscription back.
      rcases BillingWebhookService.applyStatus_cases applied with
        ⟨-, rfl⟩ | ⟨existing, status, current, legal, writes⟩
      · exact inTime
      · exact inTime.written writes
          (meets organization target existing status resolved asked current legal)
    · next status _ _ =>
      cases referenced : present event.providerInvoiceId with
      | none =>
          rw [BillingWebhookService.upsertInvoice_unreferenced referenced] at applied
          cases applied
          exact inTime
      | some reference =>
          obtain ⟨customer, ⟨old, -, writes⟩ | ⟨-, inserts⟩⟩ :=
            BillingWebhookService.upsertInvoice_cases referenced applied
          · exact inTime.of_subscriptions writes.subscriptions
          · exact inTime.of_subscriptions inserts.subscriptions
    · rcases BillingWebhookService.applyCheckoutCompleted_cases applied with ⟨-, rfl⟩ |
        ⟨planKey, provider, plan, row, subscription, invoice, -, -, -, -, completed⟩
      · exact inTime
      · exact completeCheckout_inTime inTime completed
    · cases applied
      exact inTime

/-- Events applied each or left out are a run of requests. -/
theorem AppliedEach.run {env : Env} {events : List NormalizedBillingEvent}
    (each : AppliedEach env api providerName db events next) :
    next = Runs.run (Transaction.requests (BillingWebhookService.apply env api providerName)) db
      events := by
  induction each with
  | done db => rfl
  | applied accepted later ih =>
      rw [Runs.run_cons, Transaction.requests, accepted]
      exact ih
  | rejected refused later ih =>
      rw [Runs.run_cons, Transaction.requests, refused]
      exact ih

theorem deliver_inTime {webhook : VerifiedWebhook} {faults : Faults} {answer : Answer}
    (inTime : InTime settings now db) (meets : webhook.Meets settings now api db)
    (handled : Delivery.handle ⟨webhook, { now, settings }, api, faults⟩ db = .ok (answer, next)) :
    InTime settings now next := by
  let delivery : Delivery := ⟨webhook, { now, settings }, api, faults⟩
  have committed : deliver db delivery = next := by
    rw [deliver, Delivery.committed, handled]
    rfl
  rw [← committed]
  cases delivered delivery db with
  | failed _ unchanged =>
      rw [unchanged]
      exact inTime
  | duplicate _ _ unchanged =>
      rw [unchanged]
      exact inTime
  | ingested _ _ whole =>
      obtain ⟨row, claimed, applied, error, claim, each, settle⟩ := whole
      -- Claiming and settling write the ledger alone.
      have claims : claimed.subscriptions = db.subscriptions := by rw [(claimWebhook_some claim).2.2]
      have data : applied.SameData (deliver db delivery) := settleWebhook_data settle
      have settles : (deliver db delivery).subscriptions = applied.subscriptions := by rw [data]
      have initial := inTime.of_subscriptions claims
      apply InTime.of_subscriptions _ settles
      cases translated : delivery.webhook.translated with
      | error text =>
          rw [translated] at each
          rw [each]
          exact initial
      | ok events =>
          rw [translated] at each
          have kept : ∀ db event, InTime settings now db → event.Meets settings now db →
              InTime settings now (Transaction.requests (BillingWebhookService.apply
                { now, settings } api webhook.providerName) db event) := by
            intro db event inTime meets
            apply Transaction.commit_cases inTime
            intro next accepted
            exact apply_inTime inTime meets accepted
          have met := meets row claimed events claim translated
          rw [each.run]
          exact (Runs.always_of_guarded _ kept initial met).last

end Operations

/-! Runs. -/

section Runs

variable {settings : Settings} {state : Lifecycle}

/-- An operation that takes no time keeps what its write keeps. -/
theorem InTime.step {operation : Operation} (still : operation.elapsed = 0)
    (inTime : InTime settings state.now state.db)
    (keeps : ∀ next, operation.run settings state.now state.db = .ok next →
      InTime settings state.now next) :
    InTime settings (lifecycleStep settings state operation).now
      (lifecycleStep settings state operation).db := by
  have standing : (lifecycleStep settings state operation).now = state.now := by
    simp only [lifecycleStep, still, Nat.cast_zero, add_zero]
  rw [standing]
  exact Transaction.commit_cases inTime keeps

/-- An operation that meets its condition leaves no locally billed subscription
in force past its end. -/
theorem step_inTime (operation : Operation) (inTime : InTime settings state.now state.db)
    (meets : operation.Meets settings state) :
    InTime settings (lifecycleStep settings state operation).now
      (lifecycleStep settings state operation).db := by
  cases operation with
  | wait elapsed =>
      intro row member locally forced overdue
      obtain ⟨ending, scheduled, passed⟩ := Subscription.overAt_iff_ends.mp overdue
      -- What has ended already is in time, so the waiting ends nothing more.
      have ahead : state.now < ending := by
        by_contra behind
        have ended : row.overAt state.now :=
          Subscription.overAt_iff_ends.mpr ⟨ending, scheduled, by omega⟩
        exact inTime row member locally forced ended
      exact meets row member locally forced ending scheduled ⟨ahead, passed⟩
  | bootstrapSubscription organization =>
      apply inTime.step rfl
      intro next ran
      exact bootstrapSubscription_inTime inTime ran
  | startTrial organization planKey trialDays =>
      apply inTime.step rfl
      intro next ran
      obtain ⟨⟨trial, mid⟩, started, done⟩ := Result.bind_eq_ok.mp ran
      cases done
      exact startTrial_inTime inTime meets started
  | changePlan api organization planKey =>
      apply inTime.step rfl
      intro next ran
      obtain ⟨provider, -, ran⟩ := Result.bind_eq_ok.mp ran
      obtain ⟨⟨moved, adjustment, mid⟩, changed, done⟩ := Result.bind_eq_ok.mp ran
      cases done
      exact changePlan_inTime inTime changed
  | completeCheckout api organization plan reference contactUser source =>
      apply inTime.step rfl
      intro next ran
      obtain ⟨provider, -, ran⟩ := Result.bind_eq_ok.mp ran
      obtain ⟨⟨moved, invoice, mid⟩, completed, done⟩ := Result.bind_eq_ok.mp ran
      cases done
      exact completeCheckout_inTime inTime completed
  | cancel organization atPeriodEnd =>
      apply inTime.step rfl
      intro next ran
      obtain ⟨⟨canceled, mid⟩, cancels, done⟩ := Result.bind_eq_ok.mp ran
      cases done
      exact cancel_inTime inTime meets cancels
  | resume organization =>
      apply inTime.step rfl
      intro next ran
      obtain ⟨⟨resumed, mid⟩, resumes, done⟩ := Result.bind_eq_ok.mp ran
      cases done
      exact resume_inTime inTime resumes
  | deliver webhook api faults =>
      apply inTime.step rfl
      intro next ran
      obtain ⟨⟨answer, mid⟩, handled, done⟩ := Result.bind_eq_ok.mp ran
      cases done
      exact deliver_inTime inTime meets handled
  | draftForOrg organization period cached =>
      apply inTime.step rfl
      intro next ran
      obtain ⟨⟨invoice, mid⟩, drafted, done⟩ := Result.bind_eq_ok.mp ran
      cases done
      exact draftForOrg_inTime inTime drafted
  | advanceRecurringBilling cached =>
      apply inTime.step rfl
      intro next ran
      cases ran
      exact advanceRecurringBilling_inTime inTime
  | elsewhere rest =>
      apply inTime.step rfl
      intro next ran
      cases ran
      exact inTime

theorem resolveEffective_unplanned {inputs : EntitlementInputs}
    (inactive : inputs.planActive = false) :
    resolveEffective inputs =
      resolveEffective { inputs with planFeatures := [], planLimits := [] } := by
  have same : EntitlementInputs.planActive { inputs with planFeatures := [], planLimits := [] } =
      inputs.planActive := rfl
  simp only [resolveEffective, resolveFeatures, resolveLimits, same, inactive]
  rfl

theorem InTime.stopGranting (inTime : InTime settings state.now state.db) :
    StopGranting settings state := by
  intro row member locally overdue current
  have unforced : ¬ inForce settings row.status := fun forced =>
    inTime row member locally forced overdue
  rw [computeEntitlements_eq]
  apply resolveEffective_unplanned
  simp only [EntitlementInputs.planActive, entitlementInputs, current, Option.map_some]
  cases status : row.status with
  | trialing | active => simp [status, inForce] at unforced
  | pastDue => simpa [status, inForce] using unforced
  | incomplete | unpaid | canceled => rfl

/-- In a run whose operations all meet their condition, no subscription grants
anything once it is over. -/
theorem ended_stop_granting (settings : Settings) (start : Lifecycle)
    (inTime : InTime settings start.now start.db) (operations : List Operation)
    (guarded : Runs.Guarded (lifecycleStep settings) (Operation.Meets settings) start operations) :
    Runs.Always (lifecycleStep settings) (StopGranting settings) start operations := by
  have preserved : ∀ (state : Lifecycle) operation, InTime settings state.now state.db →
      operation.Meets settings state →
      InTime settings (lifecycleStep settings state operation).now
        (lifecycleStep settings state operation).db :=
    fun _ operation inTime meets => step_inTime operation inTime meets
  have always := Runs.always_of_guarded (lifecycleStep settings) preserved inTime guarded
  exact always.mono _ fun _ inTime => inTime.stopGranting

end Runs

/-! A trial under the worker's jobs. -/

section Jobs

variable {settings : Settings} {state : Lifecycle} {row : Subscription}

/-- The renewal job leaves a row alone that does not renew. -/
theorem advanceRecurringBilling_spares {env : Env} {db : Db} (idle : ¬ row.Renewable)
    (member : row ∈ db.subscriptions.rows) :
    row ∈ (advanceRecurringBilling env db).2.subscriptions.rows := by
  have kept : ∀ (db : Db) other next, row ∈ db.subscriptions.rows →
      other ∈ db.subscriptions.rows → other.Renewable → Renewed env db other next →
      row ∈ next.subscriptions.rows := by
    intro db other next here _ renewable renewed
    obtain ⟨drained, -, rows⟩ := renewed.mem
    apply (rows row).mpr
    have apart : row ≠ other := fun same => idle (same ▸ renewable)
    exact .inr ⟨here, apart⟩
  exact advanceRecurringBilling_invariant kept member

/-- No job ends a trial, or a subscription canceled at the end of its period:
however long they run, the row stays as it is. -/
theorem jobs_spare (idle : ¬ row.Renewable) {jobs : List Operation}
    (scheduled : ∀ job ∈ jobs, job.IsJob) (member : row ∈ state.db.subscriptions.rows) :
    row ∈ (Runs.run (lifecycleStep settings) state jobs).db.subscriptions.rows := by
  induction jobs generalizing state with
  | nil => exact member
  | cons job rest ih =>
      obtain ⟨first, later⟩ := List.forall_mem_cons.mp scheduled
      rw [Runs.run_cons]
      apply ih later
      cases job with
      | wait elapsed => exact member
      | advanceRecurringBilling cached => exact advanceRecurringBilling_spares idle member
      | elsewhere rest => exact member
      | bootstrapSubscription | startTrial | changePlan | completeCheckout | cancel | resume
        | deliver | draftForOrg => exact first.elim

end Jobs

/-! A plan with a trial of 14 days. -/

def trialPlan : Plan := { samplePlan with features := [⟨"exports", true⟩] }

def seededDb : Db := { organizations := [⟨1, "acme", "Acme", none⟩], plans := [trialPlan] }

def days (count : Nat) : Operation := .wait (86400 * 1000000 * count)

def convertedTrial : List Operation :=
  [.startTrial 1 "starter" none, days 10, .changePlan noApi 1 "starter", days 20,
    .advanceRecurringBilling fun _ => none]

/-- A trial the organization pays for before it ends. -/
theorem ended_stop_granting_converted :
    Runs.Always (lifecycleStep {}) (StopGranting {}) ⟨0, seededDb⟩ convertedTrial := by
  apply ended_stop_granting {} ⟨0, seededDb⟩ (by decide)
  refine ⟨?_, ?_, trivial, ?_, trivial, trivial⟩
  · change none ≠ some 0
    decide
  · change NoneEndsWithin {} _ _
    decide
  · change NoneEndsWithin {} _ _
    decide

/-- An hour of the worker: the renewal job, and others with nothing to do. -/
def jobsOfAnHour : List Operation :=
  [.wait (3600 * 1000000), .advanceRecurringBilling fun _ => none, .elsewhere seededDb]

def hours (count : Nat) : List Operation := (List.replicate count jobsOfAnHour).flatten

def lapsingTrial : List Operation := .startTrial 1 "starter" none :: hours (24 * 15)

def trialRow : Subscription :=
  newSubscription 0 1 trialPlan .trialing (some 0) (some (14 * day)) (some (14 * day)) none none 0

theorem hours_succ (count : Nat) : hours (count + 1) = hours count ++ jobsOfAnHour := by
  rw [hours, List.replicate_succ', List.flatten_append, hours]
  rfl

theorem now_after_hours (state : Lifecycle) (count : Nat) :
    (Runs.run (lifecycleStep {}) state (hours count)).now = state.now + count * (3600 * second) := by
  induction count with
  | zero => simp [hours]
  | succ count ih =>
      rw [hours_succ, Runs.run_append]
      simp only [jobsOfAnHour, Runs.run_cons, Runs.run_nil, lifecycleStep, Operation.elapsed, ih, second]
      push_cast
      ring

theorem trial_granted {subscriptions : Table Subscription} (now : Int)
    (current : { seededDb with subscriptions }.currentForOrg 1 = some trialRow) :
    (computeEntitlements { now } { seededDb with subscriptions } 1).features = ["exports"] ∧
      (grantsAlone { now } { seededDb with subscriptions } 1).features = [] := by
  simp only [grantsAlone, entitlementInputs, computeEntitlements, current]
  exact ⟨rfl, rfl⟩

/-- A day after its trial has ended, and with every job run each hour, the
organization still has the plan. -/
theorem trial_outlives_its_end :
    let final := Runs.run (lifecycleStep {}) ⟨0, seededDb⟩ lapsingTrial
    (trialRow ∈ final.db.subscriptions.rows ∧ trialRow.overAt final.now ∧
        (computeEntitlements { now := final.now } final.db 1).features = ["exports"]) ∧
      ¬ Runs.Always (lifecycleStep {}) (StopGranting {}) ⟨0, seededDb⟩ lapsingTrial := by
  intro final
  let started := lifecycleStep {} ⟨0, seededDb⟩ (.startTrial 1 "starter" none)
  have ran : final = Runs.run (lifecycleStep {}) started (hours (24 * 15)) := Runs.run_cons _ _ _ _
  have scheduled : ∀ job ∈ hours (24 * 15), job.IsJob := by
    intro job member
    obtain ⟨hour, replicated, member⟩ := List.mem_flatten.mp member
    rw [(List.mem_replicate.mp replicated).2] at member
    simp only [jobsOfAnHour, List.mem_cons, List.not_mem_nil, or_false] at member
    rcases member with rfl | rfl | rfl <;> trivial
  -- The renewal job takes active rows, so no job ever touches the trial.
  have idle : ¬ trialRow.Renewable := fun renewable => Status.noConfusion renewable.1
  have trials : trialRow ∈ started.db.subscriptions.rows := by decide
  have member : trialRow ∈ final.db.subscriptions.rows := by
    rw [ran]
    exact jobs_spare idle scheduled trials
  have late : final.now = 360 * (3600 * second) := by
    rw [ran, now_after_hours]
    decide
  have overdue : trialRow.overAt final.now := by
    rw [late]
    decide
  obtain ⟨subscriptions, found⟩ : ∃ subscriptions, final.db = { seededDb with subscriptions } := by
    rw [ran, show 24 * 15 = 359 + 1 from rfl, hours_succ, Runs.run_append]
    exact ⟨_, rfl⟩
  have current : final.db.currentForOrg 1 = some trialRow :=
    Db.currentForOrg_eq_some.mpr ⟨member, rfl, rfl⟩
  have granted := current
  rw [found] at granted
  obtain ⟨exports, nothing⟩ := trial_granted final.now granted
  rw [← found] at exports nothing
  refine ⟨⟨member, overdue, exports⟩, ?_⟩
  intro always
  -- The property fails in the last state of the run.
  have last : StopGranting {} final := Runs.Always.last _ always
  have stopped := last trialRow member rfl overdue current
  have same := congrArg EffectiveEntitlements.features stopped
  change (computeEntitlements { now := final.now } final.db 1).features =
    (grantsAlone { now := final.now } final.db 1).features at same
  rw [exports, nothing] at same
  cases same

end SynapseSaas
