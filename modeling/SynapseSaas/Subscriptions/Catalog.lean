import Mathlib.Data.List.Dedup
import Mathlib.Data.String.Basic
import SynapseSaas.Foundation.Rows
import SynapseSaas.Subscriptions.Models

/-! The plan catalog: what a file may say, what validation refuses, and what an accepted catalog
offers. A soft limit ratio is the number as it is written. -/

set_option autoImplicit false

namespace SynapseSaas.Catalog

/-- `^[a-z0-9_]+$`. -/
def isKey (text : String) : Bool :=
  text ≠ "" ∧ text.toList.all fun letter => letter.isLower || letter.isDigit || letter = '_'

/-- `^[A-Z]{3}$`. -/
def isCurrency (text : String) : Bool :=
  text.toList.length = 3 ∧ text.toList.all Char.isUpper

def isRatio (ratio : Rat) : Bool := 0 ≤ ratio ∧ ratio ≤ 1

structure CatalogDefaults where
  currency : String := "PHP"
  interval : Interval := .month
  trialDays : Nat := 0
  softLimitRatio : Option Rat := some (4 / 5)
  deriving DecidableEq, Repr

structure FeatureDefinition where
  key : String
  name : String
  category : Option String
  deriving DecidableEq, Repr

/-- `priceCents` for every `unit` units. -/
structure OverageDefinition where
  unit : Nat := 1
  priceCents : Nat
  deriving DecidableEq, Repr

inductive MetricKind where
  | counter | gauge
  deriving DecidableEq, Repr

structure MetricDefinition where
  key : String
  name : String
  kind : MetricKind
  unit : Option String
  softLimitRatio : Option Rat
  overage : Option OverageDefinition
  deriving DecidableEq, Repr

structure PlanDefinition where
  key : String
  name : String
  description : Option String
  priceCents : Option Nat
  custom : Bool                    -- `price: custom`
  currency : Option String
  interval : Option Interval
  isPublic : Bool := true
  isCustom : Bool := false
  trialDays : Option Nat
  sortOrder : Int := 0
  features : List String
  limits : Rows (Prod.fst : String × Option Int → String)          -- no value: unlimited
  overage : Rows (Prod.fst : String × OverageDefinition → String)
  deriving DecidableEq, Repr

structure PlanCatalog where
  version : Int
  defaults : CatalogDefaults := {}
  features : List FeatureDefinition
  metrics : List MetricDefinition
  plans : List PlanDefinition
  deriving DecidableEq, Repr

/-! Field checks. -/

def CatalogDefaults.wellFormed (defaults : CatalogDefaults) : Bool :=
  isCurrency defaults.currency ∧ defaults.softLimitRatio.all isRatio

def FeatureDefinition.wellFormed (feature : FeatureDefinition) : Bool := isKey feature.key

def OverageDefinition.wellFormed (overage : OverageDefinition) : Bool := 1 ≤ overage.unit

def MetricDefinition.wellFormed (metric : MetricDefinition) : Bool :=
  isKey metric.key ∧ metric.softLimitRatio.all isRatio ∧
    metric.overage.all OverageDefinition.wellFormed

/-- `_price_xor`: a number or `custom`, and not both. -/
def PlanDefinition.priceXor (plan : PlanDefinition) : Option String :=
  match plan.priceCents, plan.custom with
  | some _, true =>
      some ("plan '" ++ plan.key ++ "': set either price_cents or price: custom, not both")
  | none, false => some ("plan '" ++ plan.key ++ "': must set price_cents or price: custom")
  | _, _ => none

def PlanDefinition.wellFormed (plan : PlanDefinition) : Bool :=
  isKey plan.key ∧ plan.currency.all isCurrency ∧
    (plan.overage.list.all fun entry => entry.2.wellFormed) ∧ plan.priceXor = none

def PlanCatalog.wellFormed (catalog : PlanCatalog) : Bool :=
  catalog.defaults.wellFormed ∧ catalog.features.all FeatureDefinition.wellFormed ∧
    catalog.metrics.all MetricDefinition.wellFormed ∧ catalog.plans.all PlanDefinition.wellFormed

/-! What only the whole catalog shows. -/

inductive CatalogIssue where
  | duplicateFeatures (keys : List String)
  | duplicateMetrics (keys : List String)
  | duplicatePlans (keys : List String)
  | unknownFeatures (plan : String) (keys : List String)
  | unknownMetrics (plan : String) (keys : List String)
  | unlimitedOverage (plan : String) (keys : List String)
  | publicWithoutPrice (plan : String)
  deriving DecidableEq, Repr

/-- The text of an issue; `repr` writes a string as a literal. -/
def CatalogIssue.text (repr : String → String) : CatalogIssue → String
  | .duplicateFeatures keys => "duplicate feature keys: " ++ listed keys
  | .duplicateMetrics keys => "duplicate metric keys: " ++ listed keys
  | .duplicatePlans keys => "duplicate plan keys: " ++ listed keys
  | .unknownFeatures plan keys =>
      "plan " ++ repr plan ++ " references unknown features: " ++ listed keys
  | .unknownMetrics plan keys => "plan " ++ repr plan ++ " limits unknown metrics: " ++ listed keys
  | .unlimitedOverage plan keys =>
      "plan " ++ repr plan ++ " prices overage for metrics it does not limit: " ++ listed keys
  | .publicWithoutPrice plan => "public plan " ++ repr plan ++ " must have a concrete price_cents"
where
  listed (keys : List String) : String := "[" ++ ", ".intercalate (keys.map repr) ++ "]"

/-- One issue about some keys, sorted and each once, if there are any. -/
def report (issue : List String → CatalogIssue) (keys : List String) : List CatalogIssue :=
  if keys = [] then [] else [issue (keys.dedup.mergeSort fun first second => first ≤ second)]

def duplicates (keys : List String) : List String := keys.filter fun key => 1 < keys.count key

namespace PlanCatalog

def featureKeys (catalog : PlanCatalog) : List String := catalog.features.map (·.key)

def metricKeys (catalog : PlanCatalog) : List String := catalog.metrics.map (·.key)

def planKeys (catalog : PlanCatalog) : List String := catalog.plans.map (·.key)

def planIssues (catalog : PlanCatalog) (plan : PlanDefinition) : List CatalogIssue :=
  report (.unknownFeatures plan.key) (plan.features.filter fun key => key ∉ catalog.featureKeys) ++
    report (.unknownMetrics plan.key)
      ((plan.limits.list.map Prod.fst).filter fun key => key ∉ catalog.metricKeys) ++
    report (.unlimitedOverage plan.key)
      ((plan.overage.list.map Prod.fst).filter fun key => key ∉ plan.limits.list.map Prod.fst) ++
    if plan.isPublic ∧ plan.priceCents = none then [.publicWithoutPrice plan.key] else []

/-- `_cross_validate`: every inconsistency at once. -/
def crossValidate (catalog : PlanCatalog) : List CatalogIssue :=
  report .duplicateFeatures (duplicates catalog.featureKeys) ++
    report .duplicateMetrics (duplicates catalog.metricKeys) ++
    report .duplicatePlans (duplicates catalog.planKeys) ++
    catalog.plans.flatMap catalog.planIssues

def plan (catalog : PlanCatalog) (key : String) : Option PlanDefinition :=
  catalog.plans.find? fun plan => plan.key = key

def metric (catalog : PlanCatalog) (key : String) : Option MetricDefinition :=
  catalog.metrics.find? fun metric => metric.key = key

/-- The plan's own price for a metric, or else the metric's. -/
def overageFor (catalog : PlanCatalog) (planKey metric : String) : Option OverageDefinition :=
  match (catalog.plan planKey).bind fun plan => plan.overage.find metric with
  | some (_, overage) => some overage
  | none => (catalog.metric metric).bind (·.overage)

end PlanCatalog

/-- A catalog that validation lets pass. -/
structure AcceptedCatalog extends PlanCatalog where
  fields : toPlanCatalog.wellFormed
  consistent : toPlanCatalog.crossValidate = []

/-! What a catalog offers: the terms of a plan, the features it has and the limits it sets, with
the defaults filled in. -/

structure PlanTerms where
  name : String
  description : Option String
  priceCents : Option Nat
  currency : String
  interval : Interval
  isPublic : Bool
  isCustom : Bool
  trialDays : Nat
  sortOrder : Int
  deriving DecidableEq, Repr

@[ext] structure LimitTerms where
  value : Option Int
  softLimitRatio : Option Rat
  overage : Option OverageDefinition
  deriving DecidableEq, Repr

structure PlanOffer where
  terms : PlanTerms
  features : String → Bool
  limits : String → Option LimitTerms

/-- What a plan at a position of the catalog comes to. A plan without a price is custom, and one
without a sort order stands where it is listed. -/
def PlanDefinition.terms (plan : PlanDefinition) (defaults : CatalogDefaults) (position : Nat) :
    PlanTerms where
  name := plan.name
  description := plan.description
  priceCents := plan.priceCents
  currency := plan.currency.getD defaults.currency
  interval := plan.interval.getD defaults.interval
  isPublic := plan.isPublic
  isCustom := plan.isCustom || plan.priceCents.isNone
  trialDays := plan.trialDays.getD defaults.trialDays
  sortOrder := if plan.sortOrder = 0 then position else plan.sortOrder

namespace PlanCatalog

def limitTerms (catalog : PlanCatalog) (plan : PlanDefinition) (limit : String × Option Int) :
    LimitTerms where
  value := limit.2
  softLimitRatio :=
    ((catalog.metric limit.1).bind (·.softLimitRatio)) <|> catalog.defaults.softLimitRatio
  overage :=
    ((plan.overage.find limit.1).map (·.2)) <|> (catalog.metric limit.1).bind (·.overage)

def offer (catalog : PlanCatalog) (key : String) : Option PlanOffer :=
  (catalog.plans.zipIdx.find? fun entry => entry.1.key = key).map fun entry =>
    { terms := entry.1.terms catalog.defaults entry.2
      features := fun feature => feature ∈ entry.1.features
      limits := fun metric => (entry.1.limits.find metric).map (catalog.limitTerms entry.1) }

end PlanCatalog

/-! What validation leaves to rely on. -/

theorem report_eq_nil {issue : List String → CatalogIssue} {keys : List String} :
    report issue keys = [] ↔ keys = [] := by
  unfold report
  split
  · next none_left => simp [none_left]
  · next some_left => simp [some_left]

theorem duplicates_eq_nil {keys : List String} : duplicates keys = [] ↔ keys.Nodup := by
  rw [duplicates, List.filter_eq_nil_iff, List.nodup_iff_count_le_one]
  constructor
  · intro none_twice key
    by_cases here : key ∈ keys
    · simpa using none_twice key here
    · simp [List.count_eq_zero.mpr here]
  · intro once key _
    simpa using once key

namespace AcceptedCatalog

variable (catalog : AcceptedCatalog)

theorem crossValidate_parts :
    (report .duplicateFeatures (duplicates catalog.featureKeys) = [] ∧
      report .duplicateMetrics (duplicates catalog.metricKeys) = []) ∧
    report .duplicatePlans (duplicates catalog.planKeys) = [] ∧
    ∀ plan ∈ catalog.plans, catalog.planIssues plan = [] := by
  have clean := catalog.consistent
  simp only [PlanCatalog.crossValidate, List.append_eq_nil_iff, List.flatMap_eq_nil_iff] at clean
  obtain ⟨⟨parts, plans⟩, each⟩ := clean
  exact ⟨parts, plans, each⟩

theorem featureKeys_nodup : catalog.featureKeys.Nodup :=
  duplicates_eq_nil.mp (report_eq_nil.mp catalog.crossValidate_parts.1.1)

theorem metricKeys_nodup : catalog.metricKeys.Nodup :=
  duplicates_eq_nil.mp (report_eq_nil.mp catalog.crossValidate_parts.1.2)

theorem planKeys_nodup : catalog.planKeys.Nodup :=
  duplicates_eq_nil.mp (report_eq_nil.mp catalog.crossValidate_parts.2.1)

variable {catalog} {plan : PlanDefinition}

/-- A plan names features and metrics of the catalog only. -/
theorem known (listed : plan ∈ catalog.plans) :
    (∀ key ∈ plan.features, key ∈ catalog.featureKeys) ∧
      ∀ limit ∈ plan.limits.list, limit.1 ∈ catalog.metricKeys := by
  have clean := catalog.crossValidate_parts.2.2 plan listed
  simp only [PlanCatalog.planIssues, List.append_eq_nil_iff, report_eq_nil,
    List.filter_eq_nil_iff] at clean
  obtain ⟨⟨⟨features, metrics⟩, -⟩, -⟩ := clean
  refine ⟨fun key here => by simpa using features key here, fun limit here => ?_⟩
  simpa using metrics limit.1 (List.mem_map_of_mem here)

theorem plan_wellFormed (listed : plan ∈ catalog.plans) : plan.wellFormed :=
  List.all_eq_true.mp (of_decide_eq_true catalog.fields).2.2.2 plan listed

/-- A plan is without a price exactly if it says that its price is custom. -/
theorem custom_iff (listed : plan ∈ catalog.plans) : plan.custom = plan.priceCents.isNone := by
  have xor := (of_decide_eq_true (plan_wellFormed listed)).2.2.2
  unfold PlanDefinition.priceXor at xor
  cases price : plan.priceCents <;> cases custom : plan.custom <;> simp_all

theorem currency_ne_empty (listed : plan ∈ catalog.plans) : plan.currency ≠ some "" := by
  intro empty
  have formed := (of_decide_eq_true (plan_wellFormed listed)).2.1
  rw [empty] at formed
  exact absurd formed (by decide)

/-- The plan that a key names. -/
theorem plan_eq (listed : plan ∈ catalog.plans) : catalog.plan plan.key = some plan := by
  cases found : catalog.plan plan.key with
  | none => simpa using List.find?_eq_none.mp found plan listed
  | some other =>
      have here := List.mem_of_find?_eq_some found
      have same : other.key = plan.key := by simpa using List.find?_some found
      rw [List.inj_on_of_nodup_map catalog.planKeys_nodup here listed same]

/-- So its own prices come first, then the metric's. -/
theorem overageFor_eq (listed : plan ∈ catalog.plans) (limit : String × Option Int) :
    catalog.overageFor plan.key limit.1 = (catalog.limitTerms plan limit).overage := by
  rw [PlanCatalog.overageFor, plan_eq listed, PlanCatalog.limitTerms, Option.bind_some]
  cases plan.overage.find limit.1 <;> rfl

end AcceptedCatalog

end SynapseSaas.Catalog
