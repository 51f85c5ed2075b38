import SynapseSaas.Billing.Service
import SynapseSaas.Foundation.Runs
import SynapseSaas.Subscriptions.Progress

/-! A subscription bought through a provider that renews it itself, and the
operations a tenant performs on it here. -/

set_option autoImplicit false

namespace SynapseSaas

/-- The provider's side of a subscription: its plan, and whether it will renew. -/
structure HostedSubscription where
  planKey : String
  renews : Bool
  deriving DecidableEq, Repr

/-- A provider that bills recurring, with the subscriptions on its side. Its calls
succeed; a plan change sets the plan of the subscription it names and answers
with that subscription. -/
structure HostedProvider where
  Remote : Type
  name : String
  client : Remote → Provider
  subscription : Remote → String → Option HostedSubscription
  changed : Remote → String → ChangePlanRequest → Remote
  named : ∀ remote, (client remote).name = name
  hosts : ∀ remote, .recurringHosted ∈ (client remote).supports
  succeeds : ∀ remote reference request, (subscription remote reference).isSome →
    (client remote).changePlan reference request = .ok ⟨reference⟩
  answers : ∀ remote reference request ref, (client remote).changePlan reference request = .ok ref →
    ref.providerSubscriptionId = reference
  applies : ∀ remote reference request hosted, subscription remote reference = some hosted →
    subscription (changed remote reference request) reference =
      some { hosted with planKey := request.planKey }
  others : ∀ remote reference request other, other ≠ reference →
    subscription (changed remote reference request) other = subscription remote other

structure HostedWorld (hosted : HostedProvider) where
  db : Db
  remote : hosted.Remote

/-- What the API offers a tenant. -/
inductive TenantOperation where
  | changePlan (planKey : String)
  | cancel (atPeriodEnd : Bool)
  | resume
  | startTrial (planKey : String)
  deriving DecidableEq, Repr

structure TenantRequest where
  now : Int
  operation : TenantOperation
  deriving DecidableEq, Repr

def Plan.changeRequest (plan : Plan) : ChangePlanRequest :=
  ⟨plan.key, plan.priceCents.getD 0, plan.currency, (plan.interval.map Interval.name).getD "month"⟩

section Endpoints

variable (provider : Provider) (organization : Nat) (db : Db)

/-- The endpoints of the subscription router. -/
def TenantRequest.run (request : TenantRequest) : Result Db :=
  match request.operation with
  | .changePlan planKey => do
      let (_, _, db) ← BillingService.changePlan { now := request.now } provider db organization planKey
      return db
  | .cancel atPeriodEnd => do
      let (_, db) ← SubscriptionService.cancel db request.now organization atPeriodEnd
      return db
  | .resume => do
      let (_, db) ← SubscriptionService.resume db organization
      return db
  | .startTrial planKey => do
      let (_, db) ← SubscriptionService.startTrial db request.now organization planKey none
      return db

/-- The call to the provider an operation makes: a plan change tells it, nothing
else does. -/
def providerCall : TenantOperation → Option (String × ChangePlanRequest)
  | .changePlan planKey =>
      match db.planByKey planKey, (db.currentForOrg organization).bind
          (·.providerSubscriptionId.filter (· ≠ "")) with
      | .ok plan, some reference => some (reference, plan.changeRequest)
      | _, _ => none
  | _ => none

/-- The plan change issues exactly that call before it writes anything. -/
theorem changePlan_calls {now : Int} {planKey : String}
    (hosts : .recurringHosted ∈ provider.supports) :
    match providerCall organization db (.changePlan planKey) with
    | none => ∃ failure, BillingService.changePlan { now } provider db organization planKey =
        .error failure
    | some (reference, request) =>
        BillingService.changePlan { now } provider db organization planKey = do
          let ref ← provider.changePlan reference request
          let (subscription, db) ← SubscriptionService.changePlan db now organization request.planKey
            (some provider.name) (some ref.providerSubscriptionId) true
          return (subscription, none, db) := by
  cases found : db.planByKey planKey with
  | error failure =>
      simp only [providerCall, found]
      exact ⟨failure, by simp only [BillingService.changePlan, found]; rfl⟩
  | ok plan =>
      -- Without a subscription of the provider there is nothing to change there.
      cases bought : (db.currentForOrg organization).bind
          (·.providerSubscriptionId.filter (· ≠ "")) with
      | none =>
          simp only [providerCall, found, bought]
          exact ⟨_, by
            simp only [BillingService.changePlan, found, Result.ok_bind, if_pos hosts,
              BillingService.changePlanHosted, bought, raise]
            rfl⟩
      | some reference =>
          simp only [providerCall, found, bought]
          simp only [BillingService.changePlan, found, Result.ok_bind, if_pos hosts,
            BillingService.changePlanHosted, bought, Plan.changeRequest]

end Endpoints

/-- One request: what it wrote is committed unless it failed; what it told the
provider stays told. -/
def hostedStep (hosted : HostedProvider) (organization : Nat) (world : HostedWorld hosted)
    (request : TenantRequest) : HostedWorld hosted where
  db := Transaction.commit world.db
    (request.run (hosted.client world.remote) organization world.db)
  remote :=
    match providerCall organization world.db request.operation with
    | some (reference, change) => hosted.changed world.remote reference change
    | none => world.remote

/-- The two sides agree: on the plan, and on whether there will be another period. -/
def Subscription.Agrees (row : Subscription) (hosted : HostedSubscription) : Prop :=
  row.planSnapshot.map (·.key) = some hosted.planKey ∧
    (hosted.renews ↔ row.status.occupying ∧ ¬ row.cancelAtPeriodEnd)

/-- The organization's subscription that was bought through the provider. -/
structure Purchase where
  organization : Nat
  id : Nat
  reference : String
  named : reference ≠ ""

/-- The row of the purchase: the only one that refers to it. -/
structure Purchase.Held (purchase : Purchase) (name : String) (db : Db) (row : Subscription) :
    Prop where
  member : row ∈ db.subscriptions.rows
  id : row.id = purchase.id
  mine : row.organizationId = purchase.organization
  provider : row.provider = some name
  reference : row.providerSubscriptionId = some purchase.reference
  sole : ∀ other ∈ db.subscriptions.rows,
    other.providerSubscriptionId = some purchase.reference → other = row

section Held

variable {purchase : Purchase} {name : String} {db next : Db} {row : Subscription}

theorem Purchase.Held.named (held : purchase.Held name db row) :
    row.providerSubscriptionId.filter (· ≠ "") = some purchase.reference := by
  rw [held.reference, Option.filter_eq_some_iff]
  exact ⟨rfl, by simpa using purchase.named⟩

/-- A write of another row leaves the purchase as it is. -/
theorem Purchase.Held.other {old new : Subscription} (held : purchase.Held name db row)
    (writes : db.WritesSubscription old new next) (apart : old ≠ row)
    (kept : new.providerSubscriptionId = old.providerSubscriptionId) :
    purchase.Held name next row where
  member := (writes.mem row).mpr (.inr ⟨held.member, apart.symm⟩)
  id := held.id
  mine := held.mine
  provider := held.provider
  reference := held.reference
  sole other member named := by
    rcases (writes.mem other).mp member with rfl | ⟨here, -⟩
    · rw [kept] at named
      exact absurd (held.sole old writes.member named) apart
    · exact held.sole other here named

/-- A write of its row that keeps whose it is and what it refers to. -/
theorem Purchase.Held.written {new : Subscription} (held : purchase.Held name db row)
    (writes : db.WritesSubscription row new next) (mine : new.organizationId = row.organizationId)
    (provider : new.provider = row.provider)
    (reference : new.providerSubscriptionId = row.providerSubscriptionId) :
    purchase.Held name next new where
  member := (writes.mem new).mpr (.inl rfl)
  id := writes.same.trans held.id
  mine := mine.trans held.mine
  provider := provider.trans held.provider
  reference := reference.trans held.reference
  sole other member named := by
    rcases (writes.mem other).mp member with same | ⟨here, apart⟩
    · exact same
    · exact absurd (held.sole other here named) apart

theorem Purchase.Held.inserted {new : Subscription} (held : purchase.Held name db row)
    (inserts : db.InsertsSubscription new next) (unbilled : new.providerSubscriptionId = none) :
    purchase.Held name next row where
  member := by
    rw [inserts.rows]
    exact List.mem_append_left _ held.member
  id := held.id
  mine := held.mine
  provider := held.provider
  reference := held.reference
  sole other member named := by
    rw [inserts.rows] at member
    rcases List.mem_append.mp member with here | new_here
    · exact held.sole other here named
    · rw [List.mem_singleton.mp new_here, unbilled] at named
      cases named

end Held

/-! What an operation makes of the purchase. -/

/-- A trial the plan offers replaces what is not a trial itself. -/
def TrialStarts (db : Db) (row : Subscription) (planKey : String) : Prop :=
  row.status ≠ .trialing ∧ ∃ plan, db.planByKey planKey = .ok plan ∧ plan.trialDays ≠ 0

/-- The purchase after an operation on it, on both sides. -/
inductive Moves (name reference : String) (db : Db) (row : Subscription)
    (hosted : HostedSubscription) (request : TenantRequest) : Subscription → HostedSubscription → Prop
  | changed {planKey : String} {plan : Plan} : request.operation = .changePlan planKey →
      db.planByKey planKey = .ok plan →
      Moves name reference db row hosted request
        (row.switched request.now plan (some name) (some reference) true)
        { hosted with planKey := plan.key }
  | uncatalogued {planKey : String} : request.operation = .changePlan planKey →
      (∀ plan, db.planByKey planKey ≠ .ok plan) →
      Moves name reference db row hosted request row hosted
  | canceled {atPeriodEnd : Bool} : request.operation = .cancel atPeriodEnd →
      Moves name reference db row hosted request
        (SubscriptionService.canceledRow row request.now atPeriodEnd) hosted
  | resumed : request.operation = .resume →
      Moves name reference db row hosted request { row with cancelAtPeriodEnd := false } hosted
  | replaced {planKey : String} : request.operation = .startTrial planKey →
      TrialStarts db row planKey →
      Moves name reference db row hosted request (row.ended request.now) hosted
  | untried {planKey : String} : request.operation = .startTrial planKey →
      ¬ TrialStarts db row planKey → Moves name reference db row hosted request row hosted

section Steps

variable {hosted : HostedProvider} {purchase : Purchase} {world : HostedWorld hosted}
  {row : Subscription} {sub : HostedSubscription} {request : TenantRequest}

/-- The purchase on both sides. -/
structure Purchase.Bought (purchase : Purchase) (hosted : HostedProvider)
    (world : HostedWorld hosted) (row : Subscription) (sub : HostedSubscription) : Prop where
  held : purchase.Held hosted.name world.db row
  hosted : hosted.subscription world.remote purchase.reference = some sub

theorem providerCall_of_current (held : purchase.Held hosted.name world.db row)
    (current : world.db.currentForOrg purchase.organization = some row) (planKey : String) :
    providerCall purchase.organization world.db (.changePlan planKey) =
      match world.db.planByKey planKey with
      | .ok plan => some (purchase.reference, plan.changeRequest)
      | .error _ => none := by
  cases found : world.db.planByKey planKey with
  | error failure => simp only [providerCall, found]
  | ok plan => simp only [providerCall, found, current, Option.bind_some, held.named]

theorem hostedStep_db {organization : Nat} {next : Db}
    (ran : request.run (hosted.client world.remote) organization world.db = .ok next) :
    (hostedStep hosted organization world request).db = next := by
  simp only [hostedStep, ran, Transaction.commit]

theorem hostedStep_refused {organization : Nat} {failure : Failure}
    (ran : request.run (hosted.client world.remote) organization world.db = .error failure) :
    (hostedStep hosted organization world request).db = world.db := by
  simp only [hostedStep, ran, Transaction.commit]

theorem hostedStep_untold {organization : Nat}
    (untold : providerCall organization world.db request.operation = none) :
    (hostedStep hosted organization world request).remote = world.remote := by
  simp only [hostedStep, untold]

/-- A plan change reaches both sides. -/
theorem bought_changePlan (bought : purchase.Bought hosted world row sub)
    (current : world.db.currentForOrg purchase.organization = some row) {planKey : String}
    (operation : request.operation = .changePlan planKey) {plan : Plan}
    (found : world.db.planByKey planKey = .ok plan) :
    purchase.Bought hosted (hostedStep hosted purchase.organization world request)
      (row.switched request.now plan (some hosted.name) (some purchase.reference) true)
      { sub with planKey := plan.key } := by
  have call := providerCall_of_current bought.held current planKey
  rw [found] at call
  have changes := @changePlan_calls (hosted.client world.remote) purchase.organization world.db
    request.now planKey (hosted.hosts world.remote)
  -- The provider knows the reference, so its answer is a success.
  have told := hosted.succeeds world.remote purchase.reference plan.changeRequest
    (by rw [bought.hosted]; rfl)
  have key : plan.key = planKey := Db.planByKey_eq_ok found
  -- The switch keeps the reference, so no other row can object to it.
  have keys : (row.switched request.now plan (some hosted.name) (some purchase.reference)
      true).providerKeys = row.providerKeys := by
    simp only [Subscription.providerKeys, Subscription.switched, bought.held.provider,
      bought.held.reference]
    rfl
  obtain ⟨next, switched⟩ := @SubscriptionService.changePlan_succeeds world.db request.now
    purchase.organization row planKey plan (some hosted.name) (some purchase.reference) true found
    current keys
  rw [call] at changes
  simp only [told, Result.ok_bind, hosted.named] at changes
  rw [show plan.changeRequest.planKey = planKey from key, switched] at changes
  have ran : request.run (hosted.client world.remote) purchase.organization world.db =
      .ok next := by
    simp only [TenantRequest.run, operation]
    rw [changes]
    rfl
  constructor
  · rw [hostedStep_db ran]
    obtain ⟨_, -, ⟨vacant, -⟩ | ⟨existing, same, writes, -⟩⟩ :=
      SubscriptionService.changePlan_cases switched
    · rw [current] at vacant
      cases vacant
    · rw [current] at same
      cases same
      apply bought.held.written writes rfl
      · rw [bought.held.provider]
        rfl
      · rw [bought.held.reference]
        rfl
  · simp only [hostedStep, operation, call]
    exact hosted.applies world.remote purchase.reference plan.changeRequest sub bought.hosted

/-- An operation that tells the provider nothing and is refused changes nothing. -/
theorem bought_refused {failure : Failure} (bought : purchase.Bought hosted world row sub)
    (untold : providerCall purchase.organization world.db request.operation = none)
    (ran : request.run (hosted.client world.remote) purchase.organization world.db =
      .error failure) :
    purchase.Bought hosted (hostedStep hosted purchase.organization world request) row sub := by
  constructor
  · rw [hostedStep_refused ran]
    exact bought.held
  · rw [hostedStep_untold untold]
    exact bought.hosted

/-- An operation that tells the provider nothing leaves its side as it is. -/
theorem bought_untold {next : Db} {after : Subscription} (bought : purchase.Bought hosted world row sub)
    (untold : providerCall purchase.organization world.db request.operation = none)
    (ran : request.run (hosted.client world.remote) purchase.organization world.db = .ok next)
    (held : purchase.Held hosted.name next after) :
    purchase.Bought hosted (hostedStep hosted purchase.organization world request) after sub := by
  constructor
  · rw [hostedStep_db ran]
    exact held
  · rw [hostedStep_untold untold]
    exact bought.hosted

theorem bought_cancel (bought : purchase.Bought hosted world row sub)
    (current : world.db.currentForOrg purchase.organization = some row) {atPeriodEnd : Bool}
    (operation : request.operation = .cancel atPeriodEnd) :
    purchase.Bought hosted (hostedStep hosted purchase.organization world request)
      (SubscriptionService.canceledRow row request.now atPeriodEnd) sub := by
  obtain ⟨next, canceled⟩ := @SubscriptionService.cancel_succeeds world.db request.now
    purchase.organization row current atPeriodEnd
  have ran : request.run (hosted.client world.remote) purchase.organization world.db =
      .ok next := by
    simp only [TenantRequest.run, operation]
    rw [canceled]
    rfl
  apply bought_untold bought (by rw [operation]; rfl) ran
  obtain ⟨existing, same, writes, -⟩ := SubscriptionService.cancel_cases canceled
  rw [current] at same
  cases same
  apply bought.held.written writes
  · cases atPeriodEnd <;> rfl
  · cases atPeriodEnd <;> rfl
  · cases atPeriodEnd <;> rfl

theorem bought_resume (bought : purchase.Bought hosted world row sub)
    (current : world.db.currentForOrg purchase.organization = some row)
    (operation : request.operation = .resume) :
    purchase.Bought hosted (hostedStep hosted purchase.organization world request)
      { row with cancelAtPeriodEnd := false } sub := by
  have untold : providerCall purchase.organization world.db request.operation = none := by
    rw [operation]
    rfl
  cases scheduled : row.cancelAtPeriodEnd with
  | true =>
      obtain ⟨next, resumed⟩ := SubscriptionService.resume_succeeds current scheduled
      have ran : request.run (hosted.client world.remote) purchase.organization world.db =
          .ok next := by
        simp only [TenantRequest.run, operation]
        rw [resumed]
        rfl
      apply bought_untold bought untold ran
      obtain ⟨existing, same, -, writes, -⟩ := SubscriptionService.resume_cases resumed
      rw [current] at same
      cases same
      exact bought.held.written writes rfl rfl rfl
  | false =>
      -- Nothing was scheduled: the service refuses, and the row is what it was.
      have unchanged : ({ row with cancelAtPeriodEnd := false } : Subscription) = row := by
        rw [← scheduled]
      rw [unchanged]
      cases ran : request.run (hosted.client world.remote) purchase.organization world.db with
      | error failure => exact bought_refused bought untold ran
      | ok next =>
          simp only [TenantRequest.run, operation] at ran
          obtain ⟨⟨resumed, mid⟩, resumes, -⟩ := Result.bind_eq_ok.mp ran
          obtain ⟨existing, same, was, -⟩ := SubscriptionService.resume_cases resumes
          rw [current] at same
          cases same
          rw [scheduled] at was
          cases was

theorem bought_startTrial (bought : purchase.Bought hosted world row sub)
    (current : world.db.currentForOrg purchase.organization = some row) {planKey : String}
    (operation : request.operation = .startTrial planKey) (starts : TrialStarts world.db row planKey) :
    purchase.Bought hosted (hostedStep hosted purchase.organization world request)
      (row.ended request.now) sub := by
  obtain ⟨fresh, plan, found, offered⟩ := starts
  have startable : ∀ existing, world.db.currentForOrg purchase.organization = some existing →
      existing.status ≠ .trialing := by
    intro existing same
    rw [current] at same
    cases same
    exact fresh
  obtain ⟨trial, next, started⟩ := @SubscriptionService.startTrial_succeeds world.db request.now
    purchase.organization planKey plan none found (.inl offered) startable
  have ran : request.run (hosted.client world.remote) purchase.organization world.db =
      .ok next := by
    simp only [TenantRequest.run, operation]
    rw [started]
    rfl
  apply bought_untold bought (by rw [operation]; rfl) ran
  obtain ⟨_, mid, -, -, ⟨vacant, -⟩ | ⟨existing, same, -, writes⟩, inserts, -⟩ :=
    SubscriptionService.startTrial_cases started
  · rw [current] at vacant
    cases vacant
  · rw [current] at same
    cases same
    -- The trial has a row of its own, which no provider bills.
    have ended := bought.held.written writes rfl rfl rfl
    exact ended.inserted inserts (SubscriptionService.startTrial_unbilled started).2

/-- An operation on the organization's current subscription, where that is the purchase. -/
theorem bought_current (bought : purchase.Bought hosted world row sub)
    (current : world.db.currentForOrg purchase.organization = some row) :
    ∃ after told, Moves hosted.name purchase.reference world.db row sub request after told ∧
      purchase.Bought hosted (hostedStep hosted purchase.organization world request) after told := by
  cases operation : request.operation with
  | cancel atPeriodEnd =>
      exact ⟨_, _, .canceled operation, bought_cancel bought current operation⟩
  | resume => exact ⟨_, _, .resumed operation, bought_resume bought current operation⟩
  | changePlan planKey =>
      cases found : world.db.planByKey planKey with
      | ok plan =>
          exact ⟨_, _, .changed operation found, bought_changePlan bought current operation found⟩
      | error failure =>
          refine ⟨row, sub, .uncatalogued operation (by simp [found]), ?_⟩
          have untold : providerCall purchase.organization world.db request.operation = none := by
            rw [operation, providerCall_of_current bought.held current, found]
          apply bought_refused bought untold
          simp only [TenantRequest.run, operation]
          simp only [BillingService.changePlan, found]
          rfl
  | startTrial planKey =>
      -- A trial replaces the subscription where it is granted; else it is refused.
      by_cases starts : TrialStarts world.db row planKey
      · exact ⟨_, _, .replaced operation starts, bought_startTrial bought current operation starts⟩
      · refine ⟨row, sub, .untried operation starts, ?_⟩
        have untold : providerCall purchase.organization world.db request.operation = none := by
          rw [operation]
          rfl
        cases ran : request.run (hosted.client world.remote) purchase.organization world.db with
        | error failure => exact bought_refused bought untold ran
        | ok next =>
            simp only [TenantRequest.run, operation] at ran
            obtain ⟨⟨trial, mid⟩, started, -⟩ := Result.bind_eq_ok.mp ran
            obtain ⟨plan, _, found, offered, ⟨vacant, -⟩ | ⟨existing, same, fresh, -⟩, -⟩ :=
              SubscriptionService.startTrial_cases started
            · rw [current] at vacant
              cases vacant
            · rw [current] at same
              cases same
              refine absurd ⟨fresh, plan, found, ?_⟩ starts
              simpa using offered

theorem providerCall_eq_some {organization : Nat} {db : Db} {operation : TenantOperation}
    {reference : String} {change : ChangePlanRequest}
    (calls : providerCall organization db operation = some (reference, change)) :
    ∃ planKey plan current, operation = .changePlan planKey ∧ db.planByKey planKey = .ok plan ∧
      change = plan.changeRequest ∧ db.currentForOrg organization = some current ∧
      current.providerSubscriptionId = some reference := by
  cases operation with
  | changePlan planKey =>
      simp only [providerCall] at calls
      split at calls
      · next plan named found bought =>
          cases calls
          obtain ⟨current, here, filtered⟩ := Option.bind_eq_some_iff.mp bought
          exact ⟨planKey, plan, current, rfl, found, rfl, here,
            (Option.filter_eq_some_iff.mp filtered).1⟩
      · cases calls
  | cancel atPeriodEnd => cases calls
  | resume => cases calls
  | startTrial planKey => cases calls

/-- What an accepted operation writes is another row, under the reference it had. -/
theorem held_elsewhere {next : Db} (held : purchase.Held hosted.name world.db row)
    (elsewhere : world.db.currentForOrg purchase.organization ≠ some row)
    (ran : request.run (hosted.client world.remote) purchase.organization world.db = .ok next) :
    purchase.Held hosted.name next row := by
  have apart : ∀ existing, world.db.currentForOrg purchase.organization = some existing →
      existing ≠ row := by
    intro existing current same
    rw [same] at current
    exact elsewhere current
  -- Each request writes the row that occupies the organization, and that is another.
  cases operation : request.operation with
  | cancel atPeriodEnd =>
      simp only [TenantRequest.run, operation] at ran
      obtain ⟨⟨canceled, mid⟩, cancels, done⟩ := Result.bind_eq_ok.mp ran
      cases done
      obtain ⟨existing, current, writes, eq⟩ := SubscriptionService.cancel_cases cancels
      apply held.other writes (apart existing current)
      rw [eq]
      cases atPeriodEnd <;> rfl
  | resume =>
      simp only [TenantRequest.run, operation] at ran
      obtain ⟨⟨resumed, mid⟩, resumes, done⟩ := Result.bind_eq_ok.mp ran
      cases done
      obtain ⟨existing, current, -, writes, eq⟩ := SubscriptionService.resume_cases resumes
      apply held.other writes (apart existing current)
      rw [eq]
  | startTrial planKey =>
      simp only [TenantRequest.run, operation] at ran
      obtain ⟨⟨trial, mid⟩, started, done⟩ := Result.bind_eq_ok.mp ran
      cases done
      have unbilled := (SubscriptionService.startTrial_unbilled started).2
      obtain ⟨_, ended, -, -, ⟨-, rfl⟩ | ⟨existing, current, -, writes⟩, inserts, -⟩ :=
        SubscriptionService.startTrial_cases started
      · exact held.inserted inserts unbilled
      · exact (held.other writes (apart existing current) rfl).inserted inserts unbilled
  | changePlan planKey =>
      simp only [TenantRequest.run, operation] at ran
      obtain ⟨⟨moved, adjustment, mid⟩, changed, done⟩ := Result.bind_eq_ok.mp ran
      cases done
      have changes := @changePlan_calls (hosted.client world.remote) purchase.organization world.db
        request.now planKey (hosted.hosts world.remote)
      cases call : providerCall purchase.organization world.db (.changePlan planKey) with
      | none =>
          rw [call] at changes
          obtain ⟨failure, refused⟩ := changes
          rw [refused] at changed
          cases changed
      | some asked =>
          obtain ⟨reference, change⟩ := asked
          obtain ⟨_, _, existing, -, -, -, current, named⟩ := providerCall_eq_some call
          rw [call] at changes
          simp only [changes] at changed
          obtain ⟨ref, answered, changed⟩ := Result.bind_eq_ok.mp changed
          obtain ⟨⟨switched, after⟩, switches, done⟩ := Result.bind_eq_ok.mp changed
          cases done
          obtain ⟨_, -, ⟨vacant, -⟩ | ⟨other, same, writes, eq⟩⟩ :=
            SubscriptionService.changePlan_cases switches
          · rw [current] at vacant
            cases vacant
          · rw [current] at same
            cases same
            apply held.other writes (apart existing current)
            rw [eq, named, ← hosted.answers _ _ _ _ answered]
            rfl

/-- An operation on another subscription of the organization leaves the purchase alone. -/
theorem bought_elsewhere (bought : purchase.Bought hosted world row sub)
    (elsewhere : world.db.currentForOrg purchase.organization ≠ some row) :
    purchase.Bought hosted (hostedStep hosted purchase.organization world request) row sub := by
  constructor
  · cases ran : request.run (hosted.client world.remote) purchase.organization world.db with
    | error failure =>
        rw [hostedStep_refused ran]
        exact bought.held
    | ok next =>
        rw [hostedStep_db ran]
        exact held_elsewhere bought.held elsewhere ran
  · cases call : providerCall purchase.organization world.db request.operation with
    | none =>
        rw [hostedStep_untold call]
        exact bought.hosted
    | some asked =>
        obtain ⟨reference, change⟩ := asked
        obtain ⟨_, _, existing, -, -, -, current, named⟩ := providerCall_eq_some call
        -- The provider is called for the row that occupies, which bears another reference.
        have apart : purchase.reference ≠ reference := by
          intro same
          rw [← same] at named
          have here := (Db.currentForOrg_eq_some.mp current).1
          rw [bought.held.sole existing here named] at current
          exact elsewhere current
        simp only [hostedStep, call]
        rw [hosted.others world.remote reference change purchase.reference apart]
        exact bought.hosted

theorem Purchase.Bought.unique {other : Subscription} {another : HostedSubscription}
    (bought : purchase.Bought hosted world row sub)
    (also : purchase.Bought hosted world other another) : other = row ∧ another = sub := by
  have same := also.hosted
  rw [bought.hosted] at same
  exact ⟨bought.held.sole other also.held.member also.held.reference, (Option.some.inj same).symm⟩

def Purchase.InAgreement (purchase : Purchase) (hosted : HostedProvider)
    (world : HostedWorld hosted) : Prop :=
  ∃ row sub, purchase.Bought hosted world row sub ∧ row.Agrees sub

/-- The operation keeps the two sides in agreement: it is on another subscription,
or is refused, or it changes the plan of one that will renew, or ends one that
will not. -/
def Purchase.Kept (purchase : Purchase) (world : HostedWorld hosted) (request : TenantRequest) :
    Prop :=
  ∀ row, world.db.currentForOrg purchase.organization = some row → row.id = purchase.id →
    match request.operation with
    | .changePlan planKey =>
        (∃ plan, world.db.planByKey planKey = .ok plan) → row.cancelAtPeriodEnd = false
    | .cancel _ => row.cancelAtPeriodEnd = true
    | .resume => row.cancelAtPeriodEnd = false
    | .startTrial planKey => TrialStarts world.db row planKey → row.cancelAtPeriodEnd = true

theorem Moves.agrees_iff {name reference : String} {db : Db} {after : Subscription}
    {told : HostedSubscription} (moves : Moves name reference db row sub request after told)
    (occupying : row.status.occupying) (agrees : row.Agrees sub) :
    after.Agrees told ↔
      match request.operation with
      | .changePlan planKey =>
          (∃ plan, db.planByKey planKey = .ok plan) → row.cancelAtPeriodEnd = false
      | .cancel _ => row.cancelAtPeriodEnd = true
      | .resume => row.cancelAtPeriodEnd = false
      | .startTrial planKey => TrialStarts db row planKey → row.cancelAtPeriodEnd = true := by
  obtain ⟨plans, renewal⟩ := agrees
  have renewal : sub.renews = !row.cancelAtPeriodEnd := by
    rw [Bool.eq_iff_iff, renewal]
    simp [occupying]
  -- A plan change tells the provider to renew, and no other request tells it anything.
  cases moves with
  | changed operation found =>
      simp [operation, Subscription.Agrees, Subscription.switched, snapshot, renewal, found,
        Status.occupying]
  | uncatalogued operation unknown =>
      simp [operation, Subscription.Agrees, plans, renewal, occupying, unknown]
  | @canceled atPeriodEnd operation =>
      cases atPeriodEnd with
      | true => simp [operation, Subscription.Agrees, SubscriptionService.canceledRow, plans, renewal]
      | false =>
          simp [operation, Subscription.Agrees, SubscriptionService.canceledRow, plans, renewal,
            Subscription.ended, Status.occupying]
  | resumed operation =>
      simp [operation, Subscription.Agrees, plans, renewal, occupying]
  | replaced operation starts =>
      simp [operation, Subscription.Agrees, plans, renewal, Subscription.ended, Status.occupying,
        starts]
  | untried operation idle =>
      simp [operation, Subscription.Agrees, plans, renewal, occupying, idle]

/-- An operation keeps two sides that agree in agreement exactly under its condition. -/
theorem agreement_step (agreement : purchase.InAgreement hosted world) :
    purchase.InAgreement hosted (hostedStep hosted purchase.organization world request) ↔
      purchase.Kept world request := by
  obtain ⟨row, sub, bought, agrees⟩ := agreement
  -- Only where the row occupies its organization does the request touch it.
  by_cases current : world.db.currentForOrg purchase.organization = some row
  · obtain ⟨after, told, moves, moved⟩ := @bought_current hosted purchase world row sub request bought
      current
    have occupying := (Db.currentForOrg_eq_some.mp current).2.2
    constructor
    · rintro ⟨other, another, also, still⟩ found here -
      obtain ⟨rfl, rfl⟩ := moved.unique also
      rw [current] at here
      cases here
      exact (moves.agrees_iff occupying agrees).mp still
    · intro kept
      exact ⟨after, told, moved,
        (moves.agrees_iff occupying agrees).mpr (kept row current bought.held.id)⟩
  · have unmoved := @bought_elsewhere hosted purchase world row sub request bought current
    apply iff_of_true ⟨row, sub, unmoved, agrees⟩
    intro other here same
    have there := (Db.currentForOrg_eq_some.mp here).1
    have alike : other = row :=
      Table.eq_of_id world.db.subscriptions there bought.held.member (same.trans bought.held.id.symm)
    rw [alike] at here
    exact absurd here current

end Steps

/-- Whatever a tenant does, its purchase and the provider's subscription agree
after every operation exactly where every operation meets its condition. Only
plan changes tell the provider. -/
theorem hosted_sides_agree_iff (hosted : HostedProvider) (purchase : Purchase)
    (start : HostedWorld hosted) (agreement : purchase.InAgreement hosted start)
    (requests : List TenantRequest) :
    Runs.Always (hostedStep hosted purchase.organization) (purchase.InAgreement hosted) start
        requests ↔
      Runs.Guarded (hostedStep hosted purchase.organization) purchase.Kept start requests := by
  have unconditional : ∀ (world : HostedWorld hosted) (request : TenantRequest),
      True → True := fun _ _ _ => trivial
  exact Runs.always_iff_guarded _ unconditional
    (fun world request _ agreement => agreement_step agreement) trivial agreement requests

/-! A subscription on Stripe: the plan changes on both sides, and a cancellation
on one. -/

def stripeHosted : HostedProvider where
  Remote := String → Option HostedSubscription
  name := "stripe"
  client _ := stripeProvider { noApi with changePlan := fun reference _ => .ok reference }
  subscription remote reference := remote reference
  changed remote reference request other :=
    if other = reference then (remote other).map ({ · with planKey := request.planKey })
    else remote other
  named _ := rfl
  hosts _ := by decide
  succeeds _ _ _ _ := rfl
  answers _ _ _ _ answered := by
    cases answered
    rfl
  applies _ _ _ _ found := by simp [found]
  others _ _ _ _ apart := by simp [apart]

def stripePurchase : Purchase := ⟨1, 0, "sub_1", by decide⟩

def stripeRow : Subscription := { sampleSubscription 0 with provider := some "stripe" }

def stripeWorld : HostedWorld stripeHosted where
  db := sampleDb stripeRow
  remote reference := if reference = "sub_1" then some ⟨"starter", true⟩ else none

theorem stripeWorld_bought :
    stripePurchase.Bought stripeHosted stripeWorld stripeRow ⟨"starter", true⟩ where
  held := ⟨by decide, rfl, rfl, rfl, rfl, by decide⟩
  hosted := rfl

theorem stripeWorld_agrees : stripePurchase.InAgreement stripeHosted stripeWorld :=
  ⟨stripeRow, ⟨"starter", true⟩, stripeWorld_bought, by decide, by decide⟩

theorem hosted_sides_agree_iff_stripe :
    Runs.Always (hostedStep stripeHosted 1) (stripePurchase.InAgreement stripeHosted) stripeWorld
        [⟨day, .changePlan "starter"⟩, ⟨2 * day, .cancel true⟩] ↔
      Runs.Guarded (hostedStep stripeHosted 1) stripePurchase.Kept stripeWorld
        [⟨day, .changePlan "starter"⟩, ⟨2 * day, .cancel true⟩] :=
  hosted_sides_agree_iff stripeHosted stripePurchase stripeWorld stripeWorld_agrees _

/-- A tenant that cancels at the end of the period is charged for the next one. -/
theorem cancel_untold :
    stripePurchase.InAgreement stripeHosted stripeWorld ∧
      ¬ Runs.Always (hostedStep stripeHosted 1) (stripePurchase.InAgreement stripeHosted)
        stripeWorld [⟨day, .cancel true⟩] := by
  refine ⟨stripeWorld_agrees, ?_⟩
  rintro ⟨-, agreement⟩
  have current : stripeWorld.db.currentForOrg stripePurchase.organization = some stripeRow := by
    decide
  have kept := (agreement_step stripeWorld_agrees).mp agreement stripeRow current rfl
  exact absurd kept (by decide)

end SynapseSaas
