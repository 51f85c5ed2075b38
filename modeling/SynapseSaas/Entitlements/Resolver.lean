import SynapseSaas.Subscriptions.Models

/-! Entitlement resolution: plan rows and grants in, features and limits out. -/

set_option autoImplicit false

namespace SynapseSaas

def limitFeaturePrefix : String := "limit:"

def sourcePriority : String → Nat
  | "plan" => 0
  | "addon" => 10
  | "beta" => 20
  | "promo" => 30
  | "grandfather" => 40
  | "override" => 50
  | "enterprise" => 60
  | _ => 0

structure EntitlementGrant where
  featureKey : String
  source : String
  enabled : Bool
  startsAt : Int
  endsAt : Option Int
  revokedAt : Option Int
  limitValue : Option Int
  deriving DecidableEq, Repr

def EntitlementGrant.isActive (grant : EntitlementGrant) (now : Int) : Bool :=
  grant.revokedAt.isNone ∧ grant.startsAt ≤ now ∧ grant.endsAt.all fun ends => now < ends

/-- The metric of a synthetic `limit:<metric>` grant. -/
def EntitlementGrant.limitMetric (grant : EntitlementGrant) : Option String :=
  (limitFeaturePrefix.toList.isPrefixOf? grant.featureKey.toList).map String.ofList

/-- The billable quantity in `unit` blocks, rounded up, and its amount in cents. -/
def Overage.bill (overage : Overage) (unitsOver : Int) : Int × Int :=
  if unitsOver ≤ 0 then (0, 0)
  else
    let quantity := -(-unitsOver / overage.unit)
    (quantity, quantity * overage.priceCents)

structure Limit where
  value : Option Int                   -- none: unlimited
  softLimitRatio : Option Int          -- hundredths
  overage : Option Overage             -- none: usage past the limit is never billed
  deriving DecidableEq, Repr

structure EntitlementInputs where
  organizationId : Nat
  now : Int
  planKey : Option String
  subscriptionStatus : Option Status
  planFeatures : List String
  planLimits : List (String × Limit)
  grants : List EntitlementGrant
  metricOverage : List (String × Overage)
  graceOnPastDue : Bool
  deriving DecidableEq, Repr

structure EffectiveEntitlements where
  organizationId : Nat
  planKey : Option String
  subscriptionStatus : Option Status
  features : List String
  limits : List (String × Limit)
  deriving DecidableEq, Repr

/-- `mapping[key] = value`. -/
def assign {α : Type} (mapping : List (String × α)) (key : String) (value : α) :
    List (String × α) :=
  mapping.filter (·.1 ≠ key) ++ [(key, value)]

def EntitlementInputs.planActive (inputs : EntitlementInputs) : Bool :=
  match inputs.subscriptionStatus with
  | some .trialing | some .active => true
  | some .pastDue => inputs.graceOnPastDue
  | _ => false

/-- Features: the plan's, then grants by priority; a grant that wins disabled
removes its feature. -/
def resolveFeatures (inputs : EntitlementInputs) (grants : List EntitlementGrant) : List String :=
  let plan : List (String × (Nat × Bool)) :=
    if inputs.planActive then
      inputs.planFeatures.foldl (fun decisions feature =>
        assign decisions feature (sourcePriority "plan", true)) []
    else []
  let decisions := grants.foldl (fun decisions grant =>
    if grant.limitMetric.isSome then decisions
    else
      match decisions.lookup grant.featureKey with
      | some (priority, _) =>
          if priority < sourcePriority grant.source then
            assign decisions grant.featureKey (sourcePriority grant.source, grant.enabled)
          else decisions
      | none => assign decisions grant.featureKey (sourcePriority grant.source, grant.enabled)) plan
  (decisions.filter (·.2.2)).map (·.1)

/-- Limits: the plan's, then enabled `limit:<metric>` grants in order. An add-on
raises the cap; the plan, else the metric, still prices the overage. -/
def resolveLimits (inputs : EntitlementInputs) (grants : List EntitlementGrant) :
    List (String × Limit) :=
  grants.foldl (fun limits grant =>
    match grant.limitMetric with
    | some metric =>
        if grant.enabled then
          let base := (limits.lookup metric).getD ⟨none, none, none⟩
          assign limits metric
            { value := grant.limitValue <|> base.value
              softLimitRatio := base.softLimitRatio
              overage := base.overage <|> inputs.metricOverage.lookup metric }
        else limits
    | none => limits) (if inputs.planActive then inputs.planLimits else [])

def resolveEffective (inputs : EntitlementInputs) : EffectiveEntitlements :=
  let active := inputs.grants.filter (·.isActive inputs.now)
  { organizationId := inputs.organizationId
    planKey := inputs.planKey
    subscriptionStatus := inputs.subscriptionStatus
    features := resolveFeatures inputs active
    limits := resolveLimits inputs active }

/-- Usage past the limit is billed in whole blocks: never for less than was used,
never for a block that was not begun. -/
theorem Overage.bill_covers (overage : Overage) {unitsOver : Int} (exceeds : 0 < unitsOver) :
    unitsOver ≤ (overage.bill unitsOver).1 * overage.unit ∧
      ((overage.bill unitsOver).1 - 1) * overage.unit < unitsOver := by
  have whole := Int.mul_ediv_add_emod (-unitsOver) overage.unit
  have nonneg := Int.emod_nonneg (-unitsOver) (show overage.unit ≠ 0 by have := overage.positive; omega)
  have small := Int.emod_lt_of_pos (-unitsOver) overage.positive
  rw [Overage.bill, if_neg (by omega)]
  generalize -unitsOver / overage.unit = quotient at whole
  constructor
  · nlinarith
  · nlinarith

/-- The line of an overage reconciles: quantity times unit price is the amount. -/
theorem Overage.bill_reconciles (overage : Overage) (unitsOver : Int) :
    (overage.bill unitsOver).2 = (overage.bill unitsOver).1 * overage.priceCents := by
  unfold Overage.bill
  split
  · simp
  · rfl

end SynapseSaas
