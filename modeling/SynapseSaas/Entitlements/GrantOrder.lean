import SynapseSaas.Entitlements.Limits
import SynapseSaas.Foundation.Orders

/-! When the order in which the grants of an organization are read is immaterial.

The query that reads them has no order, the contest for a feature is won by the
first of equals, and the cap of a metric is the last one set. -/

set_option autoImplicit false

namespace SynapseSaas

/-- The same features, and the same limit for every metric. -/
structure EffectiveEntitlements.Same (first second : EffectiveEntitlements) : Prop where
  features : ∀ feature, feature ∈ first.features ↔ feature ∈ second.features
  limits : ∀ metric, first.limits.lookup metric = second.limits.lookup metric

def EntitlementInputs.reordered (inputs : EntitlementInputs) (grants : List EntitlementGrant) :
    EntitlementInputs :=
  { inputs with grants := grants }

/-- Every order of the grants resolves to the same entitlements. -/
def EntitlementInputs.OrderFree (inputs : EntitlementInputs) : Prop :=
  ∀ grants, grants.Perm inputs.grants →
    (resolveEffective (inputs.reordered grants)).Same (resolveEffective inputs)

/-- No active grant on its feature outranks the grant, and it outranks the plan
if the plan has the feature. -/
def EntitlementInputs.Leads (inputs : EntitlementInputs) (grant : EntitlementGrant) : Prop :=
  (∀ other ∈ inputs.activeGrants, other.featureKey = grant.featureKey →
    sourcePriority other.source ≤ sourcePriority grant.source) ∧
  (inputs.planActive ∧ grant.featureKey ∈ inputs.planFeatures → 0 < sourcePriority grant.source)

/-- Grants that lead on one feature agree on it, and grants that cap one metric
cap it alike. -/
structure EntitlementInputs.GrantsAgree (inputs : EntitlementInputs) : Prop where
  features : ∀ one ∈ inputs.activeGrants, ∀ other ∈ inputs.activeGrants,
    one.featureKey = other.featureKey → inputs.Leads one → inputs.Leads other →
      one.enabled = other.enabled
  limits : ∀ metric, ∀ one ∈ inputs.capsOn metric, ∀ other ∈ inputs.capsOn metric,
    one.limitValue.isSome → other.limitValue.isSome → one.limitValue = other.limitValue

section Features

variable {inputs : EntitlementInputs} {grants : List EntitlementGrant}

theorem mem_activeGrants {grant : EntitlementGrant} :
    grant ∈ inputs.activeGrants ↔
      grant ∈ inputs.grants ∧ grant.isActive inputs.now ∧ grant.limitMetric = none := by
  simp [EntitlementInputs.activeGrants]

theorem mem_activeGrants_reordered (perm : grants.Perm inputs.grants) {grant : EntitlementGrant} :
    grant ∈ (inputs.reordered grants).activeGrants ↔ grant ∈ inputs.activeGrants := by
  rw [mem_activeGrants, mem_activeGrants, EntitlementInputs.reordered, perm.mem_iff]

theorem leads_reordered (perm : grants.Perm inputs.grants) {grant : EntitlementGrant} :
    (inputs.reordered grants).Leads grant ↔ inputs.Leads grant := by
  simp only [EntitlementInputs.Leads, mem_activeGrants_reordered perm]
  rfl

/-- A grant that leads decides its feature when it is read first. -/
theorem mem_features_of_leader {leader : EntitlementGrant} {rest : List EntitlementGrant}
    (first : inputs.grants = leader :: rest) (active : leader ∈ inputs.activeGrants)
    (leads : inputs.Leads leader) :
    leader.featureKey ∈ (resolveEffective inputs).features ↔ leader.enabled = true := by
  obtain ⟨-, inWindow, feature⟩ := mem_activeGrants.mp active
  obtain ⟨others, on⟩ : ∃ others, inputs.grantsOn leader.featureKey = leader :: others := by
    rw [EntitlementInputs.grantsOn, EntitlementInputs.activeGrants, first,
      List.filter_cons_of_pos (by simp [inWindow, feature]), List.filter_cons_of_pos (by simp)]
    exact ⟨_, rfl⟩
  have top : ∀ other ∈ others.map EntitlementGrant.decision, other.1 ≤ leader.decision.1 := by
    intro other entered
    obtain ⟨grant, later, rfl⟩ := List.mem_map.mp entered
    obtain ⟨here, same⟩ := mem_grantsOn.mp (on ▸ List.mem_cons_of_mem _ later)
    exact leads.1 grant here same
  -- The leader is read first among the grants, and above the plan if that speaks.
  have won : Contest.winner Prod.fst (inputs.decisionsOn leader.featureKey) =
      some leader.decision := by
    rw [EntitlementInputs.decisionsOn, on, List.map_cons]
    unfold EntitlementInputs.planDecision
    split
    · next planned =>
        have outranked : sourcePriority "plan" < leader.decision.1 := leads.2 planned
        rw [Option.toList_some, List.singleton_append, Contest.winner_cons_cons,
          if_pos outranked]
        exact Contest.winner_cons_of_top _ top
    · exact Contest.winner_cons_of_top _ top
  rw [mem_features_iff, won]
  simp [EntitlementGrant.decision]

/-- Some active grant on the feature outranks the plan's word, if there is one. -/
def EntitlementInputs.PlanBeaten (inputs : EntitlementInputs) (feature : String) : Prop :=
  ∃ grant ∈ inputs.grantsOn feature,
    (inputs.planDecision feature).all (·.1 < sourcePriority grant.source)

/-- Once the plan's word is beaten, what tops the contest are grants that lead. -/
theorem leader_of_top {feature : String} {decision : Decision}
    (beaten : inputs.PlanBeaten feature)
    (top : Contest.Top Prod.fst (inputs.decisionsOn feature) decision) :
    ∃ grant ∈ inputs.grantsOn feature, grant.decision = decision ∧ inputs.Leads grant := by
  obtain ⟨champion, entered, above⟩ := beaten
  have highest : sourcePriority champion.source ≤ decision.1 :=
    top.2 champion.decision (List.mem_append_right _ (List.mem_map_of_mem entered))
  -- The plan is not the top entry where some grant beats it.
  rcases List.mem_append.mp top.1 with plan | granted
  · rw [Option.mem_toList] at plan
    rw [plan] at above
    have outranked : decision.1 < sourcePriority champion.source := by simpa using above
    exact absurd outranked (Nat.not_lt.mpr highest)
  · obtain ⟨grant, here, rfl⟩ := List.mem_map.mp granted
    have ⟨_, on⟩ := mem_grantsOn.mp here
    refine ⟨grant, here, rfl, ?_, ?_⟩
    · intro other active same
      exact top.2 other.decision (List.mem_append_right _
        (List.mem_map_of_mem (mem_grantsOn.mpr ⟨active, same.trans on⟩)))
    · intro planned
      have word : inputs.planDecision feature = some (sourcePriority "plan", true) := by
        rw [EntitlementInputs.planDecision, if_pos (on ▸ planned)]
      rw [word] at above
      have outranked : sourcePriority "plan" < sourcePriority champion.source := by
        simpa using above
      exact Nat.lt_of_lt_of_le outranked highest

/-- A plan's word that is not beaten wins, being asked first. -/
theorem winner_of_unbeaten {feature : String} {decision : Decision}
    (word : inputs.planDecision feature = some decision) (unbeaten : ¬ inputs.PlanBeaten feature) :
    Contest.winner Prod.fst (inputs.decisionsOn feature) = some decision := by
  rw [EntitlementInputs.decisionsOn, word]
  refine Contest.winner_cons_of_top _ fun other entered => ?_
  obtain ⟨grant, here, rfl⟩ := List.mem_map.mp entered
  by_contra higher
  refine unbeaten ⟨grant, here, ?_⟩
  rw [word]
  exact decide_eq_true (Nat.lt_of_not_le higher)

theorem grantsOn_reordered (perm : grants.Perm inputs.grants) (feature : String) :
    ((inputs.reordered grants).grantsOn feature).Perm (inputs.grantsOn feature) :=
  (perm.filter _).filter _

theorem planBeaten_reordered (perm : grants.Perm inputs.grants) {feature : String} :
    (inputs.reordered grants).PlanBeaten feature ↔ inputs.PlanBeaten feature := by
  simp only [EntitlementInputs.PlanBeaten, (grantsOn_reordered perm feature).mem_iff]
  rfl

/-- Where leading grants agree, a feature is won alike in every order. -/
theorem won_reordered (agree : inputs.GrantsAgree) (perm : grants.Perm inputs.grants)
    (feature : String) :
    (Contest.winner Prod.fst ((inputs.reordered grants).decisionsOn feature)).map Prod.snd =
      (Contest.winner Prod.fst (inputs.decisionsOn feature)).map Prod.snd := by
  have others := grantsOn_reordered perm feature
  -- Some grant beats the plan, or the plan decides, or nobody speaks for the feature.
  by_cases beaten : inputs.PlanBeaten feature
  · refine Contest.winner_map_perm _ ((others.map _).append_left _) fun one other left right => ?_
    obtain ⟨first, here, rfl, leads⟩ := leader_of_top beaten left
    obtain ⟨second, there, rfl, leads'⟩ := leader_of_top beaten right
    have ⟨active, on⟩ := mem_grantsOn.mp here
    have ⟨active', on'⟩ := mem_grantsOn.mp there
    exact agree.features first active second active' (on.trans on'.symm) leads leads'
  · cases word : inputs.planDecision feature with
    | some decision =>
        have unbeaten := mt (planBeaten_reordered perm).mp beaten
        have standing := @winner_of_unbeaten (inputs.reordered grants) feature decision word unbeaten
        rw [winner_of_unbeaten word beaten, standing]
    | none =>
        have empty : inputs.grantsOn feature = [] := by
          rw [List.eq_nil_iff_forall_not_mem]
          intro grant here
          exact beaten ⟨grant, here, by rw [word]; rfl⟩
        have plan : (inputs.reordered grants).planDecision feature = none := word
        rw [empty] at others
        rw [EntitlementInputs.decisionsOn, EntitlementInputs.decisionsOn, plan, word, empty,
          others.eq_nil]

theorem mem_features_iff_won {feature : String} :
    feature ∈ (resolveEffective inputs).features ↔
      (Contest.winner Prod.fst (inputs.decisionsOn feature)).map Prod.snd = some true := by
  rw [mem_features_iff]
  cases Contest.winner Prod.fst (inputs.decisionsOn feature) with
  | none => simp
  | some decision => cases decision; simp

end Features

section Limits

variable {inputs : EntitlementInputs} {grants : List EntitlementGrant} {metric : String}

/-- Lists of one value in different orders end alike. -/
theorem getLast_perm {α : Type} {first second : List α} (perm : first.Perm second)
    (same : ∀ one ∈ second, ∀ other ∈ second, one = other) :
    first.getLast? = second.getLast? := by
  cases last : first.getLast? with
  | none =>
      rw [List.getLast?_eq_none_iff] at last
      subst last
      rw [List.nil_perm.mp perm]
      rfl
  | some one =>
      have here := perm.mem_iff.mp (List.mem_of_getLast? last)
      cases last' : second.getLast? with
      | none =>
          rw [List.getLast?_eq_none_iff.mp last'] at here
          cases here
      | some other => rw [same one here other (List.mem_of_getLast? last')]

theorem limit_reordered (agree : inputs.GrantsAgree) (perm : grants.Perm inputs.grants)
    (metric : String) :
    (resolveEffective (inputs.reordered grants)).limits.lookup metric =
      (resolveEffective inputs).limits.lookup metric := by
  have caps : ((inputs.reordered grants).capsOn metric).Perm (inputs.capsOn metric) :=
    perm.filter _
  have last : (((inputs.reordered grants).capsOn metric).filterMap (·.limitValue)).getLast? =
      ((inputs.capsOn metric).filterMap (·.limitValue)).getLast? := by
    refine getLast_perm (caps.filterMap _) fun one left other right => ?_
    obtain ⟨first, here, set⟩ := List.mem_filterMap.mp left
    obtain ⟨second, there, set'⟩ := List.mem_filterMap.mp right
    have alike := agree.limits metric first here second there (by rw [set]; rfl) (by rw [set']; rfl)
    rw [set, set'] at alike
    exact Option.some.inj alike
  have bare : (inputs.reordered grants).capsOn metric = [] ↔ inputs.capsOn metric = [] :=
    ⟨fun empty => (empty ▸ caps).symm.eq_nil, fun empty => (empty ▸ caps).eq_nil⟩
  rw [lookup_limits, lookup_limits]
  simp only [capped, last, bare]
  rfl

/-- A cap that is read last is the limit. -/
theorem limit_of_last {cap : EntitlementGrant} {rest : List EntitlementGrant} {value : Int}
    (last : inputs.grants = rest ++ [cap]) (caps : cap ∈ inputs.capsOn metric)
    (set : cap.limitValue = some value) :
    ((resolveEffective inputs).limits.lookup metric).bind (·.value) = some value := by
  have selects := (List.mem_filter.mp caps).2
  have shape : inputs.capsOn metric = rest.filter (fun grant => grant.isActive inputs.now ∧
      grant.enabled ∧ grant.limitMetric = some metric) ++ [cap] := by
    rw [EntitlementInputs.capsOn, last, List.filter_append, List.filter_cons, if_pos selects,
      List.filter_nil]
  rw [lookup_limits, shape, capped, if_neg (by simp), List.filterMap_append,
    List.filterMap_cons_some set, List.filterMap_nil, List.getLast?_concat]
  rfl

end Limits

/-- The order of the grants is immaterial exactly if those that lead on a feature
agree, and those that cap a metric cap it alike. -/
theorem resolution_order_immaterial_iff (inputs : EntitlementInputs) :
    inputs.OrderFree ↔ inputs.GrantsAgree := by
  constructor
  · intro free
    constructor
    · intro one here other there same leads leads'
      -- read either grant first: it decides
      have decides {leader : EntitlementGrant} (active : leader ∈ inputs.activeGrants)
          (leads : inputs.Leads leader) :
          leader.featureKey ∈ (resolveEffective inputs).features ↔ leader.enabled = true := by
        obtain ⟨rest, perm⟩ := Orders.exists_perm_cons (mem_activeGrants.mp active).1
        rw [← (free _ perm).features]
        exact mem_features_of_leader rfl ((mem_activeGrants_reordered perm).mpr active)
          ((leads_reordered perm).mpr leads)
      have first := decides here leads
      have second := decides there leads'
      rw [same] at first
      exact Bool.eq_iff_iff.mpr (first.symm.trans second)
    · intro metric one here other there set set'
      -- read either cap last: it is the limit
      have decides {cap : EntitlementGrant} (caps : cap ∈ inputs.capsOn metric)
          (set : cap.limitValue.isSome) :
          ((resolveEffective inputs).limits.lookup metric).bind (·.value) = cap.limitValue := by
        obtain ⟨value, set⟩ := Option.isSome_iff_exists.mp set
        obtain ⟨rest, perm⟩ := Orders.exists_perm_append_singleton (List.mem_filter.mp caps).1
        have member : cap ∈ (inputs.reordered (rest ++ [cap])).capsOn metric :=
          List.mem_filter.mpr ⟨perm.mem_iff.mpr (List.mem_filter.mp caps).1,
            (List.mem_filter.mp caps).2⟩
        rw [← (free _ perm).limits, limit_of_last rfl member set, set]
      rw [← decides here set, ← decides there set']
  · intro agree grants perm
    constructor
    · intro feature
      rw [mem_features_iff_won, mem_features_iff_won, won_reordered agree perm]
    · intro metric
      exact limit_reordered agree perm metric

/-! Two overrides of one feature, and two caps of one metric, that disagree. -/

def disagreeingInputs : EntitlementInputs :=
  { sampleInputs with
    grants := [windowGrant "sso" "override" false none none,
      windowGrant "sso" "override" true none none,
      windowGrant "limit:api_calls" "enterprise" true none (some 1000),
      windowGrant "limit:api_calls" "addon" true none (some 10)] }

theorem grant_order_decides_feature_and_limit :
    (resolveEffective disagreeingInputs).features = ["export"] ∧
      (resolveEffective (disagreeingInputs.reordered disagreeingInputs.grants.reverse)).features =
        ["export", "sso"] ∧
      ((resolveEffective disagreeingInputs).limits.lookup "api_calls").bind (·.value) = some 10 ∧
      ((resolveEffective (disagreeingInputs.reordered disagreeingInputs.grants.reverse)).limits.lookup
        "api_calls").bind (·.value) = some 1000 ∧
      ¬ disagreeingInputs.OrderFree := by
  have last : ((resolveEffective disagreeingInputs).limits.lookup "api_calls").bind (·.value) =
      some 10 := by decide
  have first : ((resolveEffective (disagreeingInputs.reordered
      disagreeingInputs.grants.reverse)).limits.lookup "api_calls").bind (·.value) = some 1000 := by
    decide
  refine ⟨by decide, by decide, last, first, fun free => ?_⟩
  have same := (free _ (List.reverse_perm _)).limits "api_calls"
  rw [same, last] at first
  exact absurd first (by decide)

end SynapseSaas
