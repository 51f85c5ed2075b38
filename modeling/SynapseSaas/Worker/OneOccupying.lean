import SynapseSaas.Worker.Explained

/-! One occupying subscription per organization, in every run of the operations that
create, replace or move subscriptions. -/

set_option autoImplicit false

namespace SynapseSaas

open Outcomes

/-- What the claimants of a subscription row do. Organizations are named by
callers that have read them; renewals, by the row the job claimed. -/
inductive SubscriptionOperation where
  | wait (elapsed : Nat)
  | createOrganization (organization : Organization)
  | startTrial (organization : Nat) (planKey : String) (trialDays : Option Nat)
  | changePlan (organization : Nat) (planKey : String)
      (provider providerSubscriptionId : Option String) (keepPeriod : Bool)
  | changeBilledPlan (provider : Provider) (organization : Nat) (planKey : String)
  | completeCheckout (provider : Provider) (organization : Organization) (plan : Plan)
      (providerSubscriptionId : Option String) (contactUser : Option User) (source : CheckoutSource)
  | cancel (organization : Nat) (atPeriodEnd : Bool)
  | resume (organization : Nat)
  | applyProviderTransition (organization : Nat) (targetStatus : String)
      (currentPeriodEnd : Option Int)
  | renewal (cached : Nat → Option EffectiveEntitlements) (id : Nat)
  | elsewhere (rest : Db)

namespace SubscriptionOperation

def elapsed : SubscriptionOperation → Nat
  | .wait elapsed => elapsed
  | _ => 0

/-- The new organization; its id and its slug are its own. -/
def insertOrganization (db : Db) (organization : Organization) : Result Db :=
  if db.organizations.any fun row => row.id = organization.id ∨ row.slug = organization.slug then
    .error (.other .integrity)
  else .ok { db with organizations := db.organizations ++ [organization] }

/-- The organization a request is about, read before anything else. -/
def requireOrganization (db : Db) (organization : Nat) : Result Organization :=
  match db.organizations.find? (·.id = organization) with
  | some row => .ok row
  | none => .error (.other .noResult)

/-- The operation as its callers run it. -/
def run (settings : Settings) (now : Int) (db : Db) : SubscriptionOperation → Result Db
  | .wait _ => .ok db
  | .createOrganization organization => do
      let db ← insertOrganization db organization
      bootstrapSubscription settings now db organization.id
  | .startTrial organization planKey trialDays => do
      let _ ← requireOrganization db organization
      let (_, db) ← SubscriptionService.startTrial db now organization planKey trialDays
      return db
  | .changePlan organization planKey provider providerSubscriptionId keepPeriod => do
      let _ ← requireOrganization db organization
      let (_, db) ← SubscriptionService.changePlan db now organization planKey provider
        providerSubscriptionId keepPeriod
      return db
  | .changeBilledPlan provider organization planKey => do
      let _ ← requireOrganization db organization
      let (_, _, db) ← BillingService.changePlan { now, settings } provider db organization planKey
      return db
  | .completeCheckout provider organization plan providerSubscriptionId contactUser source => do
      let _ ← requireOrganization db organization.id
      let (_, _, db) ← BillingService.completeCheckout { now, settings } provider db organization
        plan providerSubscriptionId contactUser source
      return db
  | .cancel organization atPeriodEnd => do
      let (_, db) ← SubscriptionService.cancel db now organization atPeriodEnd
      return db
  | .resume organization => do
      let (_, db) ← SubscriptionService.resume db organization
      return db
  -- The webhook handler looks the subscription up; without one it only logs.
  | .applyProviderTransition organization targetStatus currentPeriodEnd =>
      match db.currentForOrg organization with
      | none => .ok db
      | some subscription => do
          let (_, db) ← SubscriptionService.applyProviderTransition db subscription targetStatus
            currentPeriodEnd
          return db
  | .renewal cached id =>
      match db.subscriptions.get id with
      | none => .ok db
      | some subscription => renewLocallyBilled { now, settings, cached } db subscription
  -- Whatever else the system does leaves organizations and subscriptions alone.
  | .elsewhere rest =>
      .ok { rest with organizations := db.organizations, subscriptions := db.subscriptions }

/-- The same with its writes explained. -/
def explained (settings : Settings) (now : Int) (db : Db) : SubscriptionOperation → Explained Db
  | .wait _ => .ok db
  | .createOrganization organization => do
      let db ← Explained.elsewhere (insertOrganization db organization)
      Explained.bootstrapSubscription settings now db organization.id
  | .startTrial organization planKey trialDays => do
      let _ ← Explained.elsewhere (requireOrganization db organization)
      let (_, db) ← Explained.startTrial db now organization planKey trialDays
      return db
  | .changePlan organization planKey provider providerSubscriptionId keepPeriod => do
      let _ ← Explained.elsewhere (requireOrganization db organization)
      let (_, db) ← Explained.changePlan db now organization planKey provider
        providerSubscriptionId keepPeriod
      return db
  | .changeBilledPlan provider organization planKey => do
      let _ ← Explained.elsewhere (requireOrganization db organization)
      let (_, _, db) ← Explained.changeBilledPlan { now, settings } provider db organization planKey
      return db
  | .completeCheckout provider organization plan providerSubscriptionId contactUser source => do
      let _ ← Explained.elsewhere (requireOrganization db organization.id)
      let (_, _, db) ← Explained.completeCheckout { now, settings } provider db organization
        plan providerSubscriptionId contactUser source
      return db
  | .cancel organization atPeriodEnd => do
      let (_, db) ← Explained.cancel db now organization atPeriodEnd
      return db
  | .resume organization => do
      let (_, db) ← Explained.resume db organization
      return db
  | .applyProviderTransition organization targetStatus currentPeriodEnd =>
      match db.currentForOrg organization with
      | none => .ok db
      | some subscription => do
          let (_, db) ← Explained.applyProviderTransition db subscription targetStatus
            currentPeriodEnd
          return db
  | .renewal cached id =>
      match db.subscriptions.get id with
      | none => .ok db
      | some subscription => Explained.renewLocallyBilled { now, settings, cached } db subscription
  | .elsewhere rest =>
      .ok { rest with organizations := db.organizations, subscriptions := db.subscriptions }

variable {settings : Settings} {now : Int} {db : Db}

theorem requireOrganization_eq_ok {organization : Nat} {row : Organization}
    (required : requireOrganization db organization = .ok row) :
    ∃ other ∈ db.organizations, other.id = organization := by
  unfold requireOrganization at required
  split at required
  · next found located =>
      have same := List.find?_some located
      exact ⟨found, List.mem_of_find?_eq_some located, by simpa using same⟩
  · cases required

theorem insertOrganization_cases {organization : Organization} {next : Db}
    (inserted : insertOrganization db organization = .ok next) :
    (∀ row ∈ db.organizations, row.id ≠ organization.id) ∧
      next = { db with organizations := db.organizations ++ [organization] } := by
  unfold insertOrganization at inserted
  split at inserted
  · cases inserted
  · next own =>
      cases inserted
      refine ⟨fun row here same => own ?_, rfl⟩
      exact List.any_eq_true.mpr ⟨row, here, decide_eq_true (.inl same)⟩

/-- Explaining its writes changes nothing for whoever runs the operation. -/
theorem result_explained (operation : SubscriptionOperation) :
    (operation.explained settings now db).result = operation.run settings now db := by
  cases operation with
  | wait => rfl
  | createOrganization =>
      simp only [explained, run, Explained.result_bind, Explained.result_elsewhere,
        Explained.result_bootstrapSubscription]
  | startTrial =>
      simp only [explained, run, Explained.result_bind, Explained.result_elsewhere,
        Explained.result_startTrial, Explained.result_pure]
  | changePlan =>
      simp only [explained, run, Explained.result_bind, Explained.result_elsewhere,
        Explained.result_changePlan, Explained.result_pure]
  | changeBilledPlan =>
      simp only [explained, run, Explained.result_bind, Explained.result_elsewhere,
        Explained.result_changeBilledPlan, Explained.result_pure]
  | completeCheckout =>
      simp only [explained, run, Explained.result_bind, Explained.result_elsewhere,
        Explained.result_completeCheckout, Explained.result_pure]
  | cancel =>
      simp only [explained, run, Explained.result_bind, Explained.result_cancel,
        Explained.result_pure]
  | resume =>
      simp only [explained, run, Explained.result_bind, Explained.result_resume,
        Explained.result_pure]
  | applyProviderTransition organization =>
      simp only [explained, run]
      cases db.currentForOrg organization with
      | none => rfl
      | some subscription =>
          simp only [Explained.result_bind, Explained.result_applyProviderTransition,
            Explained.result_pure]
  | renewal cached id =>
      simp only [explained, run]
      cases db.subscriptions.get id with
      | none => rfl
      | some subscription => exact Explained.result_renewLocallyBilled
  | elsewhere => rfl

/-- A new organization has no subscription yet. -/
theorem createOrganization_unhindered {organization : Organization} (housed : db.Housed) :
    ((createOrganization organization).explained settings now db).Unhindered Db.Housed := by
  unfold explained
  apply Explained.Unhindered.after_elsewhere
  intro opened inserted
  obtain ⟨own, rfl⟩ := insertOrganization_cases inserted
  have moved : Db.Housed { db with organizations := db.organizations ++ [organization] } := by
    intro row here
    obtain ⟨home, member, same⟩ := housed row here
    exact ⟨home, List.mem_append_left _ member, same⟩
  have home : ∃ row ∈ db.organizations ++ [organization], row.id = organization.id :=
    ⟨organization, by simp, rfl⟩
  -- A subscription of its own would belong to an organization that was there before.
  have vacant : Db.currentForOrg { db with organizations := db.organizations ++ [organization] }
      organization.id = none := by
    rw [Db.currentForOrg_eq_none]
    intro row here mine
    obtain ⟨home, member, same⟩ := housed row here
    exact absurd (same.trans mine) (own home member)
  apply (Explained.bootstrapSubscription_unhindered moved home vacant).weaken
  intro next keeps
  exact keeps.housed

/-- The step: no operation is hindered, and subscriptions stay in their organizations. -/
theorem explained_unhindered (operation : SubscriptionOperation) (housed : db.Housed) :
    (operation.explained settings now db).Unhindered Db.Housed := by
  cases operation with
  | wait => exact housed
  | createOrganization => exact createOrganization_unhindered housed
  | startTrial =>
      apply Explained.Unhindered.after_elsewhere
      intro row required
      apply Settles.bind
        (Explained.startTrial_unhindered housed (requireOrganization_eq_ok required))
      rintro ⟨trial, next⟩ keeps
      exact keeps.housed
  | changePlan =>
      apply Explained.Unhindered.after_elsewhere
      intro row required
      apply Settles.bind
        (Explained.changePlan_unhindered housed (requireOrganization_eq_ok required))
      rintro ⟨changed, next⟩ ⟨-, keeps⟩
      exact keeps.housed
  | changeBilledPlan =>
      apply Explained.Unhindered.after_elsewhere
      intro row required
      apply Settles.bind
        (Explained.changeBilledPlan_unhindered housed (requireOrganization_eq_ok required))
      rintro ⟨changed, adjustment, next⟩ keeps
      exact keeps.housed
  | completeCheckout =>
      apply Explained.Unhindered.after_elsewhere
      intro row required
      apply Settles.bind
        (Explained.completeCheckout_unhindered housed (requireOrganization_eq_ok required))
      rintro ⟨activated, invoice, next⟩ keeps
      exact keeps.housed
  | cancel =>
      apply Settles.bind (Explained.cancel_unhindered housed)
      rintro ⟨canceled, next⟩ keeps
      exact keeps.housed
  | resume =>
      apply Settles.bind (Explained.resume_unhindered housed)
      rintro ⟨resumed, next⟩ keeps
      exact keeps.housed
  | applyProviderTransition organization =>
      simp only [explained]
      cases current : db.currentForOrg organization with
      | none => exact housed
      | some subscription =>
          apply Settles.bind (Explained.applyProviderTransition_unhindered housed current)
          rintro ⟨moved, next⟩ keeps
          exact keeps.housed
  | renewal cached id =>
      simp only [explained]
      cases db.subscriptions.get id with
      | none => exact housed
      | some subscription =>
          apply (Explained.renewLocallyBilled_unhindered housed).weaken
          intro next keeps
          exact keeps.housed
  | elsewhere => exact housed

/-- A failed operation leaves the database as it was. -/
def step (settings : Settings) (state : Lifecycle) (operation : SubscriptionOperation) :
    Lifecycle where
  now := state.now + operation.elapsed
  db := Transaction.commit state.db (operation.run settings state.now state.db)

/-- The operation fails on `uq_subscriptions_one_per_org`. -/
def RefusedAsOccupied (settings : Settings) (state : Lifecycle) (operation : SubscriptionOperation) :
    Prop :=
  ∃ stop, operation.explained settings state.now state.db = .error stop ∧ stop.onePerOrg

theorem not_refusedAsOccupied {state : Lifecycle} (housed : state.db.Housed)
    (operation : SubscriptionOperation) : ¬ operation.RefusedAsOccupied settings state := by
  rintro ⟨stop, stopped, occupied⟩
  have unhindered : (operation.explained settings state.now state.db).Unhindered Db.Housed :=
    operation.explained_unhindered housed
  have free := (settles_iff.mp unhindered).2 stop stopped
  rw [free] at occupied
  cases occupied

theorem step_housed {state : Lifecycle} (housed : state.db.Housed)
    (operation : SubscriptionOperation) : (step settings state operation).db.Housed := by
  apply Transaction.commit_cases housed
  intro next ran
  rw [← result_explained] at ran
  have unhindered : (operation.explained settings state.now state.db).Unhindered Db.Housed :=
    operation.explained_unhindered housed
  cases ended : operation.explained settings state.now state.db with
  | error stop =>
      rw [ended] at ran
      cases ran
  | ok after =>
      rw [ended] at ran
      cases ran
      exact (settles_iff.mp unhindered).1 next ended

/-- A pass of the renewal job is a run of renewals, one after the other. -/
theorem advanceRecurringBilling_run (env : Env) (db : Db) :
    (advanceRecurringBilling env db).2 =
      (Runs.run (step env.settings) ⟨env.now, db⟩
        ((dueBatch env db).map (renewal env.cached))).db := by
  unfold advanceRecurringBilling
  generalize dueBatch env db = ids
  generalize 0 = renewals
  induction ids generalizing db renewals with
  | nil => rfl
  | cons id rest ih =>
      have one : step env.settings ⟨env.now, db⟩ (renewal env.cached id) =
          ⟨env.now, (renewRow env (renewals, db) id).2⟩ := by
        simp only [step, elapsed, run, renewRow, Nat.cast_zero, Int.add_zero, Lifecycle.mk.injEq,
          true_and]
        cases db.subscriptions.get id with
        | none => rfl
        | some subscription =>
            dsimp only
            cases renewLocallyBilled env db subscription <;> rfl
      rw [List.map_cons, Runs.run_cons, one, List.foldl_cons]
      exact ih _ _

end SubscriptionOperation

/-- The subscriptions of an organization that are trialing, active or past due. -/
def Db.occupyingOf (db : Db) (organization : Nat) : List Subscription :=
  db.subscriptions.rows.filter fun row =>
    row.organizationId = organization ∧ row.status.occupying

theorem Db.occupyingOf_length_le_one (db : Db) (organization : Nat) :
    (db.occupyingOf organization).length ≤ 1 := by
  have pairwise : (db.occupyingOf organization).Pairwise Table.Compatible :=
    db.subscriptions.pairwise.sublist List.filter_sublist
  have mine : ∀ row ∈ db.occupyingOf organization,
      SubscriptionKey.occupies organization ∈ row.keys := by
    intro row here
    have selected := (List.mem_filter.mp here).2
    obtain ⟨same, occupying⟩ := of_decide_eq_true selected
    exact (row.occupies_mem_keys organization).mpr ⟨occupying, same⟩
  -- Two of them would share the index entry of the organization.
  cases rows : db.occupyingOf organization with
  | nil => exact Nat.zero_le 1
  | cons first others =>
      rw [rows] at pairwise mine
      cases others with
      | nil => exact Nat.le_refl 1
      | cons second rest =>
          have apart := (List.pairwise_cons.mp pairwise).1 second List.mem_cons_self
          exact absurd (mine second (by simp)) (apart.2 _ (mine first List.mem_cons_self))

/-- From any database whose subscriptions belong to organizations: in every state of
every run each organization has at most one occupying subscription, and it is never
the index of occupying subscriptions that keeps it so. -/
theorem one_occupying_per_organization (settings : Settings) (start : Lifecycle)
    (housed : start.db.Housed) (operations : List SubscriptionOperation) :
    Runs.Always (SubscriptionOperation.step settings)
        (fun state => ∀ organization, (state.db.occupyingOf organization).length ≤ 1) start
        operations ∧
      Runs.Guarded (SubscriptionOperation.step settings)
        (fun state operation => ¬ operation.RefusedAsOccupied settings state) start
        operations := by
  have preserved : ∀ (state : Lifecycle) (operation : SubscriptionOperation), state.db.Housed →
      (SubscriptionOperation.step settings state operation).db.Housed :=
    fun state operation housed => SubscriptionOperation.step_housed housed operation
  constructor
  · apply (Runs.always_of_invariant _ preserved housed operations).mono
    intro state _ organization
    exact state.db.occupyingOf_length_le_one organization
  · exact Runs.guarded_of_invariant _ preserved
      (fun state operation housed => SubscriptionOperation.not_refusedAsOccupied housed operation)
      housed operations

theorem sampleDb_housed (start : Int) : (sampleDb (sampleSubscription start)).Housed := by
  intro row here
  rw [List.mem_singleton.mp here]
  exact ⟨⟨1, "acme", "Acme", none⟩, List.mem_singleton_self _, rfl⟩

/-- A trial over an active subscription, its decline, and a new subscription beside it. -/
theorem one_occupying_through_a_decline :
    Runs.Always (SubscriptionOperation.step {})
        (fun state => ∀ organization, (state.db.occupyingOf organization).length ≤ 1)
        ⟨0, sampleDb (sampleSubscription 0)⟩
        [.startTrial 1 "starter" none, .applyProviderTransition 1 "past_due" none,
          .applyProviderTransition 1 "unpaid" none, .wait 5, .changePlan 1 "starter" none none false,
          .createOrganization ⟨2, "globex", "Globex", none⟩, .cancel 1 false] ∧
      Runs.Guarded (SubscriptionOperation.step {})
        (fun state operation => ¬ operation.RefusedAsOccupied {} state)
        ⟨0, sampleDb (sampleSubscription 0)⟩
        [.startTrial 1 "starter" none, .applyProviderTransition 1 "past_due" none,
          .applyProviderTransition 1 "unpaid" none, .wait 5, .changePlan 1 "starter" none none false,
          .createOrganization ⟨2, "globex", "Globex", none⟩, .cancel 1 false] :=
  one_occupying_per_organization {} ⟨0, sampleDb (sampleSubscription 0)⟩ (sampleDb_housed 0) _

end SynapseSaas
