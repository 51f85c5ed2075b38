import SynapseSaas.Core.Time
import SynapseSaas.Foundation.Table
import SynapseSaas.Subscriptions.StateMachine

/-! Plan catalog rows and subscriptions. Money is integer minor units; ratios
are integer hundredths, as the `NUMERIC(5, 2)` column stores them. -/

set_option autoImplicit false

namespace SynapseSaas

inductive Interval where
  | month | year
  deriving DecidableEq, Repr

def Interval.name : Interval → String
  | .month => "month"
  | .year => "year"

structure PlanFeature where
  featureKey : String
  enabled : Bool
  deriving DecidableEq, Repr

/-- Billing for usage past a limit: `priceCents` per `unit` units. The catalog
admits no unit below one. -/
structure Overage where
  unit : Int
  priceCents : Int
  positive : 0 < unit
  deriving DecidableEq, Repr

structure PlanLimit where
  metric : String
  limitValue : Option Int          -- none: unlimited
  softLimitRatio : Option Int      -- hundredths
  overage : Option Overage
  deriving DecidableEq, Repr

structure Plan where
  id : Nat
  key : String
  name : String
  priceCents : Option Int          -- none: priced on application
  currency : String
  interval : Option Interval
  trialDays : Nat
  archivedAt : Option Int
  features : List PlanFeature
  limits : List PlanLimit
  deriving DecidableEq, Repr

/-- Purchase-time pricing and features, frozen so that a catalog change never
rewrites history. -/
structure PlanSnapshot where
  key : String
  name : String
  priceCents : Option Int
  currency : String
  interval : Option Interval
  features : List String
  limits : List (String × Option Int)
  overage : List (String × Overage)
  deriving DecidableEq, Repr

def snapshot (plan : Plan) : PlanSnapshot where
  key := plan.key
  name := plan.name
  priceCents := plan.priceCents
  currency := plan.currency
  interval := plan.interval
  features := (plan.features.filter (·.enabled)).map (·.featureKey)
  limits := plan.limits.map fun limit => (limit.metric, limit.limitValue)
  overage := plan.limits.filterMap fun limit => limit.overage.map fun overage => (limit.metric, overage)

/-- A prorated correction or a credit waiting for the next invoice draft.
Positive amounts are charges. -/
structure Adjustment where
  kind : String
  amountCents : Int
  description : String
  fromPlan : Option String := none
  toPlan : Option String := none
  fromPriceCents : Option Int := none
  toPriceCents : Option Int := none
  createdAt : Int
  deriving DecidableEq, Repr

structure Subscription where
  id : Nat
  organizationId : Nat
  planId : Nat
  status : Status
  currentPeriodStart : Int
  currentPeriodEnd : Int
  trialEndsAt : Option Int
  cancelAtPeriodEnd : Bool
  canceledAt : Option Int
  provider : Option String
  providerSubscriptionId : Option String
  planSnapshot : Option PlanSnapshot    -- none: the empty object
  pendingAdjustments : List Adjustment
  createdAt : Int
  deriving DecidableEq, Repr

/-- `int(snapshot.get("price_cents") or 0)`. -/
def Subscription.priceCents (subscription : Subscription) : Int :=
  (subscription.planSnapshot.bind (·.priceCents)).getD 0

/-- `snapshot.get("interval") == "year"`. -/
def Subscription.yearly (subscription : Subscription) : Bool :=
  subscription.planSnapshot.bind (·.interval) = some .year

/-- The partial unique indexes: one occupying subscription per organization, one
row per reference a provider gave out. -/
inductive SubscriptionKey where
  | occupies (organization : Nat)
  | providerRef (provider subscription : String)
  deriving DecidableEq, Repr

def Subscription.providerKeys (subscription : Subscription) : List SubscriptionKey :=
  match subscription.provider, subscription.providerSubscriptionId with
  | some provider, some reference => [.providerRef provider reference]
  | _, _ => []

def Subscription.keys (subscription : Subscription) : List SubscriptionKey :=
  (if subscription.status.occupying then [.occupies subscription.organizationId] else []) ++
    subscription.providerKeys

instance : Keyed Subscription where
  Key := SubscriptionKey
  decEq := inferInstance
  id := Subscription.id
  keys := Subscription.keys

theorem Subscription.occupies_mem_keys (subscription : Subscription) (organization : Nat) :
    SubscriptionKey.occupies organization ∈ subscription.keys ↔
      subscription.status.occupying ∧ subscription.organizationId = organization := by
  have apart : SubscriptionKey.occupies organization ∉ subscription.providerKeys := by
    unfold Subscription.providerKeys
    split <;> simp
  simp only [Subscription.keys, List.mem_append, apart, or_false]
  split
  · next occupying => simp [occupying, eq_comm]
  · next vacant => simp [vacant]

/-- An organization has at most one occupying subscription: the table refuses a second. -/
theorem Table.occupying_unique (table : Table Subscription) {first second : Subscription}
    (left : first ∈ table.rows) (right : second ∈ table.rows)
    (same : first.organizationId = second.organizationId)
    (mine : first.status.occupying) (yours : second.status.occupying) : first = second :=
  table.eq_of_key left right
    ((first.occupies_mem_keys _).mpr ⟨mine, same⟩) ((second.occupies_mem_keys _).mpr ⟨yours, rfl⟩)

end SynapseSaas
