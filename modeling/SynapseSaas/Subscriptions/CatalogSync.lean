import SynapseSaas.Foundation.Outcomes
import SynapseSaas.Foundation.Runs
import SynapseSaas.Subscriptions.Catalog

/-! `sync_plans`: the tables become what the catalog offers. The rows of `plan_features` and
`plan_limits` are kept with the plan that they belong to. -/

set_option autoImplicit false

namespace SynapseSaas.Catalog

structure Feature where
  key : String
  name : String
  category : Option String
  deriving DecidableEq, Repr

structure Metric where
  key : String
  name : String
  kind : MetricKind
  unit : Option String
  overageUnit : Option Nat
  overagePriceCents : Option Nat
  deriving DecidableEq, Repr

structure PlanLimit where
  metric : String
  limitValue : Option Int          -- none: unlimited
  softLimitRatio : Option Int      -- hundredths
  overageUnit : Option Nat
  overagePriceCents : Option Nat
  deriving DecidableEq, Repr

structure Plan where
  key : String
  terms : PlanTerms
  archivedAt : Option Int
  providerRefs : List (String × String)
  features : Rows PlanFeature.featureKey
  limits : Rows PlanLimit.metric
  deriving DecidableEq, Repr

/-- What a sync could touch of a subscription, and must not. -/
structure PlanSubscription where
  planKey : String
  planSnapshot : PlanSnapshot
  deriving DecidableEq, Repr

structure CatalogDb where
  features : Rows Feature.key := Rows.empty
  metrics : Rows Metric.key := Rows.empty
  plans : Rows Plan.key := Rows.empty
  subscriptions : List PlanSubscription := []
  deriving DecidableEq, Repr

/-! Column types. -/

/-- No text has a NUL character. -/
def fitsText (text : String) : Bool := Char.ofNat 0 ∉ text.toList

def fitsString (length : Nat) (text : String) : Bool := text.toList.length ≤ length ∧ fitsText text

/-- Integers of 4 and of 8 bytes. -/
def fitsInteger (bytes : Nat) (value : Int) : Bool :=
  -2 ^ (8 * bytes - 1) ≤ value ∧ value < 2 ^ (8 * bytes - 1)

def Feature.fits (feature : Feature) : Bool :=
  fitsString 100 feature.key ∧ fitsString 200 feature.name ∧ feature.category.all (fitsString 64)

def Metric.fits (metric : Metric) : Bool :=
  fitsString 100 metric.key ∧ fitsString 200 metric.name ∧ metric.unit.all (fitsString 32) ∧
    metric.overageUnit.all (fun unit : Nat => fitsInteger 4 unit) ∧
    metric.overagePriceCents.all fun cents : Nat => fitsInteger 8 cents

def Plan.fits (plan : Plan) : Bool :=
  fitsString 64 plan.key ∧ fitsString 200 plan.terms.name ∧ plan.terms.description.all fitsText ∧
    plan.terms.priceCents.all (fun cents : Nat => fitsInteger 8 cents) ∧
    fitsString 3 plan.terms.currency ∧ fitsInteger 4 plan.terms.trialDays ∧
    fitsInteger 4 plan.terms.sortOrder

/-- A ratio between 0 and 1 fits. -/
def PlanLimit.fits (limit : PlanLimit) : Bool :=
  limit.limitValue.all (fitsInteger 8) ∧ limit.overageUnit.all (fun unit : Nat => fitsInteger 4 unit) ∧
    limit.overagePriceCents.all fun cents : Nat => fitsInteger 8 cents

/-- `NUMERIC(5, 2)` keeps the nearest hundredth, and of two the greater. -/
def numeric (ratio : Rat) : Int := (ratio * 100 + 1 / 2).floor

/-! What a flush sends. -/

inductive SyncError where
  | dataError                  -- a value that its column does not take
  | uniqueViolation
  | foreignKeyViolation
  deriving DecidableEq, Repr

section Flush

variable {Row : Type} {key : Row → String} (fits references : Row → Bool)

/-- INSERT of new rows. -/
def insertRows (rows : Rows key) (news : List Row) : Except SyncError (Rows key) :=
  if news.all fits then
    match rows.insertAll news with
    | none => .error .uniqueViolation
    | some next => if news.all references then .ok next else .error .foreignKeyViolation
  else .error .dataError

/-- UPDATE of rows that are there; columns that stay as they are fit already. -/
def updateRows (rows : Rows key) (news : List Row) : Except SyncError (Rows key) :=
  if news.all fits then .ok (rows.putAll news) else .error .dataError

/-- Rows that are there are changed, the others are added. -/
def writeRows (existing : Rows key) (news : List Row) : Except SyncError (Rows key) := do
  let updated ← updateRows fits existing (news.filter fun row => existing.has (key row))
  insertRows fits references updated (news.filter fun row => !existing.has (key row))

end Flush

structure SyncResult where
  featuresAdded : Nat := 0
  metricsAdded : Nat := 0
  plansAdded : Nat := 0
  plansUpdated : Nat := 0
  plansArchived : Nat := 0
  deriving DecidableEq, Repr

def FeatureDefinition.row (feature : FeatureDefinition) : Feature :=
  { key := feature.key, name := feature.name, category := feature.category }

def MetricDefinition.row (metric : MetricDefinition) : Metric where
  key := metric.key
  name := metric.name
  kind := metric.kind
  unit := metric.unit
  overageUnit := metric.overage.map (·.unit)
  overagePriceCents := metric.overage.map (·.priceCents)

/-- Features that are there stay as they are. -/
def syncFeatures (catalog : PlanCatalog) (existing : Rows Feature.key) :
    Except SyncError (Rows Feature.key) :=
  insertRows Feature.fits (fun _ => true) existing
    ((catalog.features.map (·.row)).filter fun row => !existing.has row.key)

def syncMetrics (catalog : PlanCatalog) (existing : Rows Metric.key) :
    Except SyncError (Rows Metric.key) :=
  writeRows Metric.fits (fun _ => true) existing (catalog.metrics.map (·.row))

/-- `values`: of `a or b`, the second where the first is none, empty or 0. -/
def planValues (defaults : CatalogDefaults) (order : Nat) (plan : PlanDefinition) : PlanTerms where
  name := plan.name
  description := plan.description
  priceCents := plan.priceCents
  currency := (plan.currency.filter (· ≠ "")).getD defaults.currency
  interval := plan.interval.getD defaults.interval
  isPublic := plan.isPublic
  isCustom := plan.isCustom || plan.custom
  trialDays := plan.trialDays.getD defaults.trialDays
  sortOrder := if plan.sortOrder ≠ 0 then plan.sortOrder else order

def syncPlanFeatures (registered : Rows Feature.key) (existing : Rows PlanFeature.featureKey)
    (featureKeys : List String) : Except SyncError (Rows PlanFeature.featureKey) := do
  -- A key that is registered fits.
  let next ← insertRows (fun _ => true) (fun row => registered.has row.featureKey) existing
    ((featureKeys.filter fun key => !existing.has key).map fun key => ⟨key, true⟩)
  return next.keep fun row => row.featureKey ∈ featureKeys

/-- The row of a limit: the metric's own ratio first, then the default. -/
def PlanCatalog.limitRow (catalog : PlanCatalog) (planKey : String) (limit : String × Option Int) :
    PlanLimit where
  metric := limit.1
  limitValue := limit.2
  softLimitRatio := (match (catalog.metric limit.1).bind (·.softLimitRatio) with
    | some ratio => some ratio
    | none => catalog.defaults.softLimitRatio).map numeric
  overageUnit := (catalog.overageFor planKey limit.1).map (·.unit)
  overagePriceCents := (catalog.overageFor planKey limit.1).map (·.priceCents)

def syncPlanLimits (catalog : PlanCatalog) (registered : Rows Metric.key)
    (existing : Rows PlanLimit.metric) (plan : PlanDefinition) :
    Except SyncError (Rows PlanLimit.metric) := do
  let next ← writeRows PlanLimit.fits (fun row => registered.has row.metric) existing
    (plan.limits.list.map (catalog.limitRow plan.key))
  return next.keep fun row => plan.limits.has row.metric

def newPlan (key : String) (terms : PlanTerms) : Plan :=
  { key, terms, archivedAt := none, providerRefs := [], features := Rows.empty, limits := Rows.empty }

/-- One plan of the loop; `existing` are the plans before it. -/
def syncPlan (catalog : PlanCatalog) (features : Rows Feature.key) (metrics : Rows Metric.key)
    (existing : Rows Plan.key) (state : SyncResult × Rows Plan.key)
    (entry : PlanDefinition × Nat) : Except SyncError (SyncResult × Rows Plan.key) := do
  let values := planValues catalog.defaults entry.2 entry.1
  let (result, row, plans) ← match existing.find entry.1.key with
    | none => do
        let row := newPlan entry.1.key values
        let plans ← insertRows Plan.fits (fun _ => true) state.2 [row]
        pure ({ state.1 with plansAdded := state.1.plansAdded + 1 }, row, plans)
    | some old => do
        let row := { old with terms := values, archivedAt := none }   -- listed again, it revives
        let plans ← updateRows Plan.fits state.2 [row]
        let changed : Bool := old.terms ≠ values ∨ old.archivedAt ≠ none
        pure (if changed then { state.1 with plansUpdated := state.1.plansUpdated + 1 } else state.1,
          row, plans)
  let planFeatures ← syncPlanFeatures features row.features entry.1.features
  let planLimits ← syncPlanLimits catalog metrics row.limits entry.1
  return (result, plans.put { row with features := planFeatures, limits := planLimits })

/-- A plan that the catalog no longer has, and that is not archived yet. -/
def PlanCatalog.dropped (catalog : PlanCatalog) (row : Plan) : Bool :=
  row.key ∉ catalog.planKeys ∧ row.archivedAt = none

/-- Archive the plans that the catalog no longer has. -/
def archivePlans (catalog : PlanCatalog) (now : Int) (plans : Rows Plan.key) : Rows Plan.key :=
  plans.revise (fun row => if catalog.dropped row then { row with archivedAt := some now } else row)
    fun row => by split <;> rfl

def syncPlans (catalog : PlanCatalog) (now : Int) (db : CatalogDb) :
    Except SyncError (SyncResult × CatalogDb) := do
  let features ← syncFeatures catalog db.features
  let metrics ← syncMetrics catalog db.metrics
  let counted : SyncResult :=
    { featuresAdded := (catalog.features.filter fun feature => !db.features.has feature.key).length
      metricsAdded := (catalog.metrics.filter fun metric => !db.metrics.has metric.key).length }
  let (result, plans) ← catalog.plans.zipIdx.foldlM (syncPlan catalog features metrics db.plans)
    (counted, db.plans)
  return ({ result with plansArchived := (db.plans.list.filter catalog.dropped).length },
    { db with features, metrics, plans := archivePlans catalog now plans })

/-! What the tables offer. -/

def PlanLimit.terms (limit : PlanLimit) : LimitTerms where
  value := limit.limitValue
  softLimitRatio := limit.softLimitRatio.map fun hundredths : Int => (hundredths : Rat) / 100
  overage := match limit.overageUnit, limit.overagePriceCents with
    | some unit, some priceCents => some { unit, priceCents }
    | _, _ => none

def Plan.offer (plan : Plan) : PlanOffer where
  terms := plan.terms
  features feature := (plan.features.find feature).any (·.enabled)
  limits metric := (plan.limits.find metric).map (·.terms)

/-- The plan under a key, unless it is archived. -/
def CatalogDb.offer (db : CatalogDb) (key : String) : Option PlanOffer :=
  ((db.plans.find key).filter fun row => row.archivedAt = none).map (·.offer)

/-- The tables offer what the catalog offers. No plan is gone: the others are archived, and what a
provider knows a plan by and what subscriptions froze is as it was. -/
structure Synced (catalog : PlanCatalog) (before after : CatalogDb) : Prop where
  offers : ∀ key, after.offer key = catalog.offer key
  archived : ∀ row ∈ before.plans.list, row.key ∉ catalog.planKeys →
    ∃ kept ∈ after.plans.list, kept.key = row.key ∧ kept.archivedAt ≠ none
  refs : ∀ row ∈ before.plans.list,
    ∃ kept ∈ after.plans.list, kept.key = row.key ∧ kept.providerRefs = row.providerRefs
  snapshots : after.subscriptions = before.subscriptions

/-- The sync completes and makes the tables what the catalog says; once more, it changes nothing
and counts nothing. -/
def SyncsFaithfully (catalog : PlanCatalog) (db : CatalogDb) : Prop :=
  ∀ now, ∃ result after, syncPlans catalog now db = .ok (result, after) ∧ Synced catalog db after ∧
    ∀ later, syncPlans catalog later after = .ok ({}, after)

/-! What goes on between syncs. -/

inductive CatalogAction where
  | sync (catalog : AcceptedCatalog) (now : Int)
  /-- A push to a provider records what it calls the plan. -/
  | refer (planKey : String) (providerRefs : List (String × String))
  | subscribe (subscription : PlanSubscription)

/-- A sync that fails is rolled back. -/
def CatalogDb.step (db : CatalogDb) : CatalogAction → CatalogDb
  | .sync catalog now => Transaction.commit db ((syncPlans catalog.toPlanCatalog now db).map (·.2))
  | .refer planKey providerRefs =>
      { db with
        plans := db.plans.revise
          (fun row => if row.key = planKey then { row with providerRefs := providerRefs } else row)
          fun row => by split <;> rfl }
  | .subscribe subscription => { db with subscriptions := db.subscriptions ++ [subscription] }

/-! When a sync completes, and when it is exact. -/

/-- The plan has the feature, by what is stored. -/
def CatalogDb.planHas (db : CatalogDb) (planKey feature : String) : Bool :=
  (db.plans.find planKey).any fun row => row.features.has feature

/-- Every value that a sync has to write fits its column. -/
structure Fits (catalog : PlanCatalog) (db : CatalogDb) : Prop where
  features : ∀ feature ∈ catalog.features, db.features.has feature.key = false → feature.row.fits
  metrics : ∀ metric ∈ catalog.metrics, metric.row.fits
  plans : ∀ entry ∈ catalog.plans.zipIdx,
    (newPlan entry.1.key (entry.1.terms catalog.defaults entry.2)).fits
  limits : ∀ plan ∈ catalog.plans, ∀ limit ∈ plan.limits.list, (catalog.limitRow plan.key limit).fits

/-- The ratio can be written with two decimals. -/
def TwoDecimals (ratio : Rat) : Prop := ∃ hundredths : Int, ratio = hundredths / 100

/-- No plan lists a feature twice that it has not got yet, every value fits its column, and every
soft limit ratio in effect has two decimals at most. -/
structure Storable (catalog : PlanCatalog) (db : CatalogDb) : Prop where
  once : ∀ plan ∈ catalog.plans,
    (plan.features.filter fun feature => !db.planHas plan.key feature).Nodup
  fits : Fits catalog db
  exact : ∀ plan ∈ catalog.plans, ∀ limit ∈ plan.limits.list,
    ∀ ratio ∈ (catalog.limitTerms plan limit).softLimitRatio, TwoDecimals ratio

end SynapseSaas.Catalog
