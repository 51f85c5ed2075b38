import SynapseSaas.Core.Db
import SynapseSaas.Core.Settings
import SynapseSaas.Entitlements.Resolver

/-! The entitlements of an organization as the rest of the system reads them. -/

set_option autoImplicit false

namespace SynapseSaas

/-- What an operation reads besides the database: one reading of the clock, the
settings, and the entitlements the cache still serves for an organization. -/
structure Env where
  now : Int
  settings : Settings := {}
  cached : Nat → Option EffectiveEntitlements := fun _ => none

def Entitlement.grant (entitlement : Entitlement) : EntitlementGrant where
  featureKey := entitlement.featureKey
  source := entitlement.source
  enabled := entitlement.enabled
  startsAt := entitlement.startsAt
  endsAt := entitlement.endsAt
  revokedAt := entitlement.revokedAt
  limitValue := entitlement.limitValue

def PlanLimit.limit (planLimit : PlanLimit) : Limit where
  value := planLimit.limitValue
  softLimitRatio := planLimit.softLimitRatio.filter (· ≠ 0)
  overage := planLimit.overage

def Metric.overage (metric : Metric) : Option Overage :=
  metric.overagePriceCents.map fun price =>
    match metric.overageUnit with
    | some unit => ⟨unit.val, price, unit.property⟩
    | none => ⟨1, price, Int.one_pos⟩

/-- The plan in effect: the occupying subscription's, else the default plan if
the catalog has it. -/
def effectivePlan (env : Env) (db : Db) : Option Subscription → Option Plan
  | some subscription => db.planOf subscription
  | none =>
      match db.planByKey env.settings.defaultPlanKey with
      | .ok plan => some plan
      | .error _ => none

def computeEntitlements (env : Env) (db : Db) (organization : Nat) : EffectiveEntitlements :=
  let subscription := db.currentForOrg organization
  let plan := effectivePlan env db subscription
  let grants := db.entitlements.filter fun row =>
    row.organizationId = organization ∧ row.revokedAt.isNone
  resolveEffective
    { organizationId := organization
      now := env.now
      planKey := plan.map (·.key)
      subscriptionStatus := subscription.map (·.status)
      planFeatures := (plan.map (·.features.map (·.featureKey))).getD []
      planLimits := (plan.map (·.limits.map fun row => (row.metric, row.limit))).getD []
      grants := grants.map Entitlement.grant
      metricOverage := db.metrics.filterMap fun metric =>
        metric.overage.map fun overage => (metric.key, overage)
      graceOnPastDue := env.settings.graceOnPastDue }

/-- Statuses whose plan is in effect. -/
def inForce (settings : Settings) : Status → Bool
  | .trialing | .active => true
  | .pastDue => settings.graceOnPastDue
  | .incomplete | .unpaid | .canceled => false

/-- The inputs resolution gets. -/
def entitlementInputs (env : Env) (db : Db) (organization : Nat) : EntitlementInputs :=
  let subscription := db.currentForOrg organization
  let plan := effectivePlan env db subscription
  let grants := db.entitlements.filter fun row =>
    row.organizationId = organization ∧ row.revokedAt.isNone
  { organizationId := organization
    now := env.now
    planKey := plan.map (·.key)
    subscriptionStatus := subscription.map (·.status)
    planFeatures := (plan.map (·.features.map (·.featureKey))).getD []
    planLimits := (plan.map (·.limits.map fun row => (row.metric, row.limit))).getD []
    grants := grants.map Entitlement.grant
    metricOverage := db.metrics.filterMap fun metric =>
      metric.overage.map fun overage => (metric.key, overage)
    graceOnPastDue := env.settings.graceOnPastDue }

theorem computeEntitlements_eq (env : Env) (db : Db) (organization : Nat) :
    computeEntitlements env db organization =
      resolveEffective (entitlementInputs env db organization) := rfl

def effectiveForOrg (env : Env) (db : Db) (organization : Nat) : EffectiveEntitlements :=
  (env.cached organization).getD (computeEntitlements env db organization)

end SynapseSaas
