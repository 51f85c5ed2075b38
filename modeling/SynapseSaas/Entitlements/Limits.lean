import SynapseSaas.Entitlements.Features

/-! What resolution decides about a limit: the plan's, with the last cap a grant
sets. -/

set_option autoImplicit false

namespace SynapseSaas

/-- The enabled `limit:<metric>` grants of a metric that are in their window. -/
def EntitlementInputs.capsOn (inputs : EntitlementInputs) (metric : String) :
    List EntitlementGrant :=
  inputs.grants.filter fun grant =>
    grant.isActive inputs.now ∧ grant.enabled ∧ grant.limitMetric = some metric

def EntitlementInputs.planLimit (inputs : EntitlementInputs) (metric : String) : Option Limit :=
  if inputs.planActive then inputs.planLimits.lookup metric else none

def noLimit : Limit := ⟨none, none, none⟩

/-- A limit under grants: the last cap they set, at the plan's terms, else at the
metric's price. -/
def capped (caps : List EntitlementGrant) (price : Option Overage) (base : Option Limit) :
    Option Limit :=
  if caps = [] then base
  else some
    { value := (caps.filterMap (·.limitValue)).getLast? <|> (base.getD noLimit).value
      softLimitRatio := (base.getD noLimit).softLimitRatio
      overage := (base.getD noLimit).overage <|> price }

/-- What one grant makes of the limits. -/
def raiseCap (prices : List (String × Overage)) (limits : List (String × Limit))
    (grant : EntitlementGrant) : List (String × Limit) :=
  match grant.limitMetric with
  | some metric =>
      if grant.enabled then
        let base := (limits.lookup metric).getD noLimit
        assign limits metric
          { value := grant.limitValue <|> base.value
            softLimitRatio := base.softLimitRatio
            overage := base.overage <|> prices.lookup metric }
      else limits
  | none => limits

theorem resolveLimits_eq (inputs : EntitlementInputs) (grants : List EntitlementGrant) :
    resolveLimits inputs grants = grants.foldl (raiseCap inputs.metricOverage)
      (if inputs.planActive then inputs.planLimits else []) := rfl

section Caps

variable {prices : List (String × Overage)} {metric : String}

theorem capped_cons (grant : EntitlementGrant) (caps : List EntitlementGrant)
    (price : Option Overage) (base : Option Limit) :
    capped (grant :: caps) price base = capped caps price (capped [grant] price base) := by
  have folded (overage : Option Overage) : ((overage <|> price) <|> price) = (overage <|> price) := by
    cases overage <;> cases price <;> rfl
  cases caps with
  | nil => rfl
  | cons next rest =>
      simp only [capped, List.cons_ne_nil, if_false, Option.getD_some, folded]
      congr 2
      cases set : grant.limitValue with
      | none => simp [set]
      | some value =>
          rw [List.filterMap_cons_some set, List.getLast?_cons]
          simp only [List.filterMap_cons_some set, List.filterMap_nil, List.getLast?_singleton]
          cases ((next :: rest).filterMap (·.limitValue)).getLast? <;> rfl

theorem lookup_raiseCap (limits : List (String × Limit)) (grant : EntitlementGrant) :
    (raiseCap prices limits grant).lookup metric =
      if grant.enabled ∧ grant.limitMetric = some metric then
        capped [grant] (prices.lookup metric) (limits.lookup metric)
      else limits.lookup metric := by
  unfold raiseCap
  cases synthetic : grant.limitMetric with
  | none => simp
  | some other =>
      cases on : grant.enabled with
      | false => simp
      | true =>
          simp only [if_true, lookup_assign, true_and, Option.some.injEq]
          by_cases same : other = metric
          · subst same
            rw [if_pos rfl, if_pos rfl]
            cases set : grant.limitValue with
            | none => simp [capped, set]
            | some value => simp [capped, set]
          · rw [if_neg (Ne.symm same), if_neg same]

/-- By induction on the grants: those on the metric cap it in turn. -/
theorem lookup_foldl_raiseCap (limits : List (String × Limit)) (grants : List EntitlementGrant) :
    (grants.foldl (raiseCap prices) limits).lookup metric =
      capped (grants.filter fun grant => grant.enabled ∧ grant.limitMetric = some metric)
        (prices.lookup metric) (limits.lookup metric) := by
  induction grants generalizing limits with
  | nil => rfl
  | cons grant grants ih =>
      rw [List.foldl_cons, ih, lookup_raiseCap]
      by_cases selects : grant.enabled ∧ grant.limitMetric = some metric
      · rw [if_pos selects, List.filter_cons_of_pos (by simpa using selects),
          capped_cons grant (grants.filter _)]
      · rw [if_neg selects, List.filter_cons_of_neg (by simpa using selects)]

end Caps

/-- The limit of a metric: the plan's under its caps. -/
theorem lookup_limits (inputs : EntitlementInputs) (metric : String) :
    (resolveEffective inputs).limits.lookup metric =
      capped (inputs.capsOn metric) (inputs.metricOverage.lookup metric)
        (inputs.planLimit metric) := by
  simp only [resolveEffective, resolveLimits_eq]
  rw [lookup_foldl_raiseCap, List.filter_filter, EntitlementInputs.capsOn,
    EntitlementInputs.planLimit]
  congr 1
  · congr 1
    funext grant
    simp only [Bool.decide_and, Bool.decide_eq_true]
    ac_rfl
  · split <;> rfl

/-- Without a plan in force a metric is capped exactly by the caps grants set. -/
theorem limit_value_unplanned {inputs : EntitlementInputs} (inactive : inputs.planActive = false)
    (metric : String) :
    ((resolveEffective inputs).limits.lookup metric).bind (·.value) =
      ((inputs.capsOn metric).filterMap (·.limitValue)).getLast? := by
  rw [lookup_limits, EntitlementInputs.planLimit, inactive, capped]
  split
  · next none => simp [none]
  · simp [noLimit]

end SynapseSaas
