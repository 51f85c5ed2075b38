import SynapseSaas.Entitlements.Limits

/-! Which grant decides a limit: features are won by source priority, and limits are
set by whichever enabled grant is read last. -/

set_option autoImplicit false

namespace SynapseSaas

variable (inputs : EntitlementInputs) (metric : String)

/-- The limit a request is checked against: `limit_value`. -/
def EffectiveEntitlements.limitValue (effective : EffectiveEntitlements) (metric : String) :
    Option Int :=
  (effective.limits.lookup metric).bind (·.value)

/-- The disabled `limit:<metric>` grants of a metric that are in their window. -/
def EntitlementInputs.denialsOn : List EntitlementGrant :=
  inputs.grants.filter fun grant =>
    grant.isActive inputs.now ∧ grant.enabled = false ∧ grant.limitMetric = some metric

/-- The enabled grants of the metric have priorities of their own and set limits of
their own. -/
def EntitlementInputs.Ranked : Prop :=
  (∀ grant ∈ inputs.capsOn metric, grant.limitValue.isSome) ∧
  (inputs.capsOn metric).Pairwise fun one other =>
    sourcePriority one.source ≠ sourcePriority other.source ∧ one.limitValue ≠ other.limitValue

/-- No enabled grant of the metric outranks the grant. -/
def EntitlementInputs.Greatest (grant : EntitlementGrant) : Prop :=
  ∀ other ∈ inputs.capsOn metric, sourcePriority other.source ≤ sourcePriority grant.source

/-- A disabled grant outranks every enabled one of the metric. -/
def EntitlementInputs.Withdrawn : Prop :=
  ∃ denial ∈ inputs.denialsOn metric, ∀ other ∈ inputs.capsOn metric,
    sourcePriority other.source < sourcePriority denial.source

/-- Limits resolve by source priority: the greatest grant sets the limit, and a disabled
one above the others leaves the plan's. -/
structure EntitlementInputs.PriorityDecides : Prop where
  wins : inputs.Ranked metric → ¬ inputs.Withdrawn metric →
    ∀ top ∈ inputs.capsOn metric, inputs.Greatest metric top →
      (resolveEffective inputs).limitValue metric = top.limitValue
  withdraws : inputs.Withdrawn metric →
    (resolveEffective inputs).limits.lookup metric = inputs.planLimit metric

/-- The plan already has what grants would make of its limit: the cap that is read last,
and a price wherever the metric has one. -/
def EntitlementInputs.Anticipated : Prop :=
  ∃ base, inputs.planLimit metric = some base ∧
    (((inputs.capsOn metric).filterMap (·.limitValue)).getLast?).all (fun cap => base.value = some cap) ∧
    (base.overage = none → inputs.metricOverage.lookup metric = none)

/-- The greatest grant is read last, and a disabled grant is not above enabled ones that
change the limit. -/
structure EntitlementInputs.ReadByPriority : Prop where
  last : inputs.Ranked metric → ¬ inputs.Withdrawn metric →
    ∀ top ∈ inputs.capsOn metric, inputs.Greatest metric top →
      (inputs.capsOn metric).getLast? = some top
  idle : inputs.Withdrawn metric → inputs.capsOn metric = [] ∨ inputs.Anticipated metric

section Caps

variable {inputs : EntitlementInputs} {metric : String}

/-- Where all grants set limits, the last one's stands. -/
theorem limitValue_last {last : EntitlementGrant}
    (sets : ∀ grant ∈ inputs.capsOn metric, grant.limitValue.isSome)
    (final : (inputs.capsOn metric).getLast? = some last) :
    (resolveEffective inputs).limitValue metric = last.limitValue := by
  obtain ⟨earlier, split⟩ := List.getLast?_eq_some_iff.mp final
  have member : last ∈ inputs.capsOn metric := List.mem_of_getLast? final
  obtain ⟨value, set⟩ := Option.isSome_iff_exists.mp (sets last member)
  have nonempty : inputs.capsOn metric ≠ [] := List.ne_nil_of_mem member
  rw [EffectiveEntitlements.limitValue, lookup_limits, capped, if_neg nonempty, split,
    List.filterMap_append, List.filterMap_cons_some set]
  simp [set]

theorem eq_of_limitValue (ranked : inputs.Ranked metric) {one other : EntitlementGrant}
    (here : one ∈ inputs.capsOn metric) (there : other ∈ inputs.capsOn metric)
    (same : one.limitValue = other.limitValue) : one = other := by
  have values : ((inputs.capsOn metric).map (·.limitValue)).Nodup :=
    List.pairwise_map.mpr (ranked.2.imp fun apart => apart.2)
  exact List.inj_on_of_nodup_map values here there same

/-- The limit is the greatest grant's exactly if that one is read last. -/
theorem wins_iff (ranked : inputs.Ranked metric) {top : EntitlementGrant}
    (here : top ∈ inputs.capsOn metric) :
    (resolveEffective inputs).limitValue metric = top.limitValue ↔
      (inputs.capsOn metric).getLast? = some top := by
  constructor
  · intro set
    cases final : (inputs.capsOn metric).getLast? with
    | none =>
        rw [List.getLast?_eq_none_iff.mp final] at here
        cases here
    | some last =>
        rw [limitValue_last ranked.1 final] at set
        rw [eq_of_limitValue ranked (List.mem_of_getLast? final) here set]
  · exact limitValue_last ranked.1

/-- The plan's limit is left exactly if no enabled grant is there to change it. -/
theorem withdraws_iff :
    (resolveEffective inputs).limits.lookup metric = inputs.planLimit metric ↔
      inputs.capsOn metric = [] ∨ inputs.Anticipated metric := by
  rw [lookup_limits, capped, EntitlementInputs.Anticipated]
  split
  · next empty => exact iff_of_true rfl (.inl empty)
  · next nonempty =>
    generalize inputs.metricOverage.lookup metric = price
    generalize ((inputs.capsOn metric).filterMap (·.limitValue)).getLast? = last
    cases inputs.planLimit metric with
    | none => simp [nonempty]
    | some base =>
        obtain ⟨value, ratio, overage⟩ := base
        cases last <;> cases overage <;> simp [nonempty, eq_comm]

end Caps

/-- A limit is resolved by source priority exactly if the greatest grant is read last,
and no enabled grant below a disabled one changes the limit. -/
theorem limit_priority_iff (inputs : EntitlementInputs) (metric : String) :
    inputs.PriorityDecides metric ↔ inputs.ReadByPriority metric := by
  constructor
  · intro decides
    constructor
    · intro ranked standing top here greatest
      exact (wins_iff ranked here).mp (decides.wins ranked standing top here greatest)
    · intro withdrawn
      exact withdraws_iff.mp (decides.withdraws withdrawn)
  · intro read
    constructor
    · intro ranked standing top here greatest
      exact (wins_iff ranked here).mpr (read.last ranked standing top here greatest)
    · intro withdrawn
      exact withdraws_iff.mpr (read.idle withdrawn)

/-- A cap of 100 or 10 calls, from two sources. -/
def callCap (source : String) (enabled : Bool) (value : Int) : EntitlementGrant :=
  ⟨"limit:api_calls", source, enabled, 0, none, none, some value⟩

def cappedBy (grants : List EntitlementGrant) : EntitlementInputs :=
  ⟨1, 5, none, none, [], [], grants, [], true⟩

/-- An add-on read after an enterprise grant sets the limit, and one below a disabled
enterprise grant keeps its own. -/
theorem addon_outranks_enterprise :
    ¬ (cappedBy [callCap "enterprise" true 100, callCap "addon" true 10]).PriorityDecides "api_calls" ∧
      (resolveEffective (cappedBy [callCap "enterprise" true 100, callCap "addon" true 10])).limitValue
        "api_calls" = some 10 ∧
      ¬ (cappedBy [callCap "enterprise" false 100, callCap "addon" true 10]).PriorityDecides
        "api_calls" ∧
      (resolveEffective (cappedBy [callCap "enterprise" false 100, callCap "addon" true 10])).limitValue
        "api_calls" = some 10 := by
  refine ⟨?_, by decide +kernel, ?_, by decide +kernel⟩
  · intro decides
    have set := decides.wins (by unfold EntitlementInputs.Ranked; decide +kernel)
      (by unfold EntitlementInputs.Withdrawn; decide +kernel) (callCap "enterprise" true 100)
      (by decide +kernel) (by unfold EntitlementInputs.Greatest; decide +kernel)
    revert set
    decide +kernel
  · intro decides
    have set := decides.withdraws (by unfold EntitlementInputs.Withdrawn; decide +kernel)
    revert set
    decide +kernel

end SynapseSaas
