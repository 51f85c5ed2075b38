import SynapseSaas.Entitlements.Resolver
import SynapseSaas.Foundation.Contest

/-! What resolution decides about a feature: a contest between the plan and the
grants on it. -/

set_option autoImplicit false

namespace SynapseSaas

/-- A priority, and whether the feature is on. -/
abbrev Decision := Nat × Bool

def EntitlementGrant.decision (grant : EntitlementGrant) : Decision :=
  (sourcePriority grant.source, grant.enabled)

/-- The plan's word on a feature it has, when its status is in force. -/
def EntitlementInputs.planDecision (inputs : EntitlementInputs) (feature : String) :
    Option Decision :=
  if inputs.planActive ∧ feature ∈ inputs.planFeatures then some (sourcePriority "plan", true)
  else none

/-- The grants of features that are in their window and not revoked. -/
def EntitlementInputs.activeGrants (inputs : EntitlementInputs) : List EntitlementGrant :=
  inputs.grants.filter fun grant => grant.isActive inputs.now ∧ grant.limitMetric = none

def EntitlementInputs.grantsOn (inputs : EntitlementInputs) (feature : String) :
    List EntitlementGrant :=
  inputs.activeGrants.filter fun grant => grant.featureKey = feature

/-- Everything that has a say on a feature. -/
def EntitlementInputs.decisionsOn (inputs : EntitlementInputs) (feature : String) :
    List Decision :=
  (inputs.planDecision feature).toList ++ (inputs.grantsOn feature).map EntitlementGrant.decision

theorem mem_grantsOn {inputs : EntitlementInputs} {feature : String} {grant : EntitlementGrant} :
    grant ∈ inputs.grantsOn feature ↔
      grant ∈ inputs.activeGrants ∧ grant.featureKey = feature := by
  simp [EntitlementInputs.grantsOn]

section Mappings

variable {α : Type} {mapping : List (String × α)} {key : String} {value : α}

theorem lookup_assign (key other : String) (value : α) :
    (assign mapping key value).lookup other =
      if other = key then some value else mapping.lookup other := by
  simp only [assign, List.lookup_append]
  split
  · next same =>
      subst same
      have absent : (mapping.filter fun entry => decide (entry.1 ≠ other)).lookup other = none := by
        rw [List.lookup_eq_none_iff]
        intro entry member
        have kept := (List.mem_filter.mp member).2
        simp only [ne_eq, decide_not, Bool.not_eq_true', decide_eq_false_iff_not] at kept
        simpa using fun same => kept same.symm
      rw [absent, Option.none_or, List.lookup_cons, beq_self_eq_true]
  · next distinct =>
      have rest : ([(key, value)] : List (String × α)).lookup other = none := by
        have apart : (other == key) = false := by simpa using distinct
        rw [List.lookup_cons, apart]
        rfl
      rw [rest, Option.or_none]
      induction mapping with
      | nil => rfl
      | cons entry entries ih =>
          obtain ⟨first, content⟩ := entry
          by_cases dropped : first = key
          · rw [List.filter_cons_of_neg (by simp [dropped]), ih, List.lookup_cons]
            have apart : (other == first) = false := by simpa [dropped] using distinct
            rw [apart]
          · rw [List.filter_cons_of_pos (by simp [dropped]), List.lookup_cons, List.lookup_cons, ih]

theorem nodup_assign (distinct : (mapping.map Prod.fst).Nodup) (key : String) (value : α) :
    ((assign mapping key value).map Prod.fst).Nodup := by
  simp only [assign, List.map_append, List.map_cons, List.map_nil]
  have shorter : (mapping.filter fun entry => decide (entry.1 ≠ key)).Sublist mapping :=
    List.filter_sublist
  have kept := distinct.sublist (shorter.map Prod.fst)
  rw [List.nodup_append]
  refine ⟨kept, by simp, ?_⟩
  intro first here second there
  obtain ⟨entry, member, rfl⟩ := List.mem_map.mp here
  have apart := (List.mem_filter.mp member).2
  rw [List.mem_singleton] at there
  subst there
  simpa using apart

theorem mem_iff_lookup (distinct : (mapping.map Prod.fst).Nodup) :
    (key, value) ∈ mapping ↔ mapping.lookup key = some value := by
  induction mapping with
  | nil => simp
  | cons entry entries ih =>
      obtain ⟨first, content⟩ := entry
      obtain ⟨absent, later⟩ := List.nodup_cons.mp distinct
      rw [List.mem_cons, List.lookup_cons, ih later]
      by_cases same : key = first
      · subst same
        have missing : ¬ entries.lookup key = some value := by
          rw [← ih later]
          exact fun member => absent (List.mem_map.mpr ⟨_, member, rfl⟩)
        simp [missing, eq_comm]
      · have apart : (key == first) = false := by simpa using same
        simp [apart, same]

end Mappings

section Features

variable {inputs : EntitlementInputs} {feature : String}

/-- The decisions before any grant is looked at. -/
def planDecisions (inputs : EntitlementInputs) : List (String × Decision) :=
  if inputs.planActive then
    inputs.planFeatures.foldl (fun decisions feature =>
      assign decisions feature (sourcePriority "plan", true)) []
  else []

/-- What one grant makes of the decisions. -/
def overlay (decisions : List (String × Decision)) (grant : EntitlementGrant) :
    List (String × Decision) :=
  if grant.limitMetric.isSome then decisions
  else
    match decisions.lookup grant.featureKey with
    | some (priority, _) =>
        if priority < sourcePriority grant.source then
          assign decisions grant.featureKey (sourcePriority grant.source, grant.enabled)
        else decisions
    | none => assign decisions grant.featureKey (sourcePriority grant.source, grant.enabled)

theorem resolveFeatures_eq (inputs : EntitlementInputs) (grants : List EntitlementGrant) :
    resolveFeatures inputs grants =
      ((grants.foldl overlay (planDecisions inputs)).filter (·.2.2)).map (·.1) := rfl

theorem lookup_overlay (decisions : List (String × Decision)) (grant : EntitlementGrant)
    (feature : String) :
    (overlay decisions grant).lookup feature =
      if grant.limitMetric = none ∧ grant.featureKey = feature then
        Contest.challenge Prod.fst (decisions.lookup feature) grant.decision
      else decisions.lookup feature := by
  unfold overlay
  cases synthetic : grant.limitMetric with
  | some metric => simp
  | none =>
      simp only [Option.isSome_none, Bool.false_eq_true, if_false, true_and]
      by_cases same : grant.featureKey = feature
      · subst same
        rw [if_pos rfl]
        cases held : decisions.lookup grant.featureKey with
        | none => simp only [lookup_assign, Contest.challenge, EntitlementGrant.decision, if_true]
        | some decision =>
            obtain ⟨priority, enabled⟩ := decision
            change (if priority < sourcePriority grant.source then
                assign decisions grant.featureKey grant.decision else decisions).lookup _ =
              if priority < sourcePriority grant.source then some grant.decision
              else some (priority, enabled)
            split
            · rw [lookup_assign, if_pos rfl]
            · exact held
      · rw [if_neg same]
        split
        · split
          · rw [lookup_assign, if_neg (Ne.symm same)]
          · rfl
        · rw [lookup_assign, if_neg (Ne.symm same)]

/-- By induction on the grants: those on the feature challenge for it in turn. -/
theorem lookup_foldl_overlay (decisions : List (String × Decision))
    (grants : List EntitlementGrant) (feature : String) :
    (grants.foldl overlay decisions).lookup feature =
      ((grants.filter fun grant => grant.limitMetric = none ∧ grant.featureKey = feature).map
        EntitlementGrant.decision).foldl (Contest.challenge Prod.fst) (decisions.lookup feature) := by
  induction grants generalizing decisions with
  | nil => rfl
  | cons grant grants ih =>
      rw [List.foldl_cons, ih, lookup_overlay]
      by_cases selects : grant.limitMetric = none ∧ grant.featureKey = feature
      · rw [if_pos selects, List.filter_cons_of_pos (by simpa using selects), List.map_cons,
          List.foldl_cons]
      · rw [if_neg selects, List.filter_cons_of_neg (by simpa using selects)]

theorem lookup_foldl_assign (features : List String) (decisions : List (String × Decision))
    (decision : Decision) (feature : String) :
    (features.foldl (fun decisions feature => assign decisions feature decision) decisions).lookup
        feature =
      if feature ∈ features then some decision else decisions.lookup feature := by
  induction features generalizing decisions with
  | nil => simp
  | cons first rest ih =>
      rw [List.foldl_cons, ih, lookup_assign]
      by_cases later : feature ∈ rest
      · simp [later]
      · by_cases same : feature = first
        · simp [same]
        · simp [later, same]

theorem lookup_planDecisions (inputs : EntitlementInputs) (feature : String) :
    (planDecisions inputs).lookup feature = inputs.planDecision feature := by
  unfold planDecisions EntitlementInputs.planDecision
  split
  · next active =>
      rw [lookup_foldl_assign]
      simp [active]
  · next inactive => simp [inactive]

theorem nodup_overlay {decisions : List (String × Decision)}
    (distinct : (decisions.map Prod.fst).Nodup) (grant : EntitlementGrant) :
    ((overlay decisions grant).map Prod.fst).Nodup := by
  unfold overlay
  split
  · exact distinct
  · split
    · split
      · exact nodup_assign distinct _ _
      · exact distinct
    · exact nodup_assign distinct _ _

theorem nodup_foldl_overlay {decisions : List (String × Decision)}
    (distinct : (decisions.map Prod.fst).Nodup) (grants : List EntitlementGrant) :
    ((grants.foldl overlay decisions).map Prod.fst).Nodup := by
  induction grants generalizing decisions with
  | nil => exact distinct
  | cons grant grants ih => exact ih (nodup_overlay distinct grant)

theorem nodup_planDecisions (inputs : EntitlementInputs) :
    ((planDecisions inputs).map Prod.fst).Nodup := by
  have all (features : List String) (decisions : List (String × Decision)) (decision : Decision)
      (distinct : (decisions.map Prod.fst).Nodup) :
      ((features.foldl (fun decisions feature => assign decisions feature decision) decisions).map
        Prod.fst).Nodup := by
    induction features generalizing decisions with
    | nil => exact distinct
    | cons first rest ih => exact ih _ (nodup_assign distinct _ _)
  unfold planDecisions
  split
  · exact all _ _ _ (by simp)
  · simp

/-- A feature is in effect iff the decision that wins it is to have it. -/
theorem mem_features_iff :
    feature ∈ (resolveEffective inputs).features ↔
      ∃ priority, Contest.winner Prod.fst (inputs.decisionsOn feature) = some (priority, true) := by
  have decided : ((inputs.grants.filter (·.isActive inputs.now)).foldl overlay
      (planDecisions inputs)).lookup feature =
        Contest.winner Prod.fst (inputs.decisionsOn feature) := by
    rw [lookup_foldl_overlay, lookup_planDecisions, Contest.foldl_challenge,
      EntitlementInputs.decisionsOn, EntitlementInputs.grantsOn, EntitlementInputs.activeGrants,
      List.filter_filter, List.filter_filter]
    congr 4
    funext grant
    simp only [Bool.decide_and, Bool.decide_eq_true]
    ac_rfl
  have distinct := nodup_foldl_overlay (nodup_planDecisions inputs)
    (inputs.grants.filter (·.isActive inputs.now))
  simp only [resolveEffective, resolveFeatures_eq, ← decided]
  simp only [← mem_iff_lookup distinct, List.mem_map, List.mem_filter]
  constructor
  · rintro ⟨⟨key, priority, enabled⟩, ⟨member, on⟩, rfl⟩
    simp only at on
    subst on
    exact ⟨priority, member⟩
  · rintro ⟨priority, member⟩
    exact ⟨_, ⟨member, rfl⟩, rfl⟩

end Features

/-- The rule as it is declared: of everything that has a say on the feature,
what has the greatest priority exists and is enabled. -/
def EntitlementInputs.Entitled (inputs : EntitlementInputs) (feature : String) : Prop :=
  ∃ decision ∈ inputs.decisionsOn feature, decision.2 = true ∧
    ∀ other ∈ inputs.decisionsOn feature, other.1 ≤ decision.1

/-- Grants in their window on one feature and with one priority agree, and none
of the lowest priority turns off a feature of the plan. -/
structure EntitlementInputs.Unambiguous (inputs : EntitlementInputs) : Prop where
  agree : ∀ one ∈ inputs.activeGrants, ∀ other ∈ inputs.activeGrants,
    one.featureKey = other.featureKey → sourcePriority one.source = sourcePriority other.source →
      one.enabled = other.enabled
  planned : ∀ grant ∈ inputs.activeGrants, grant.featureKey ∈ inputs.planFeatures →
    sourcePriority grant.source = 0 → grant.enabled = true

theorem EntitlementInputs.Unambiguous.agrees {inputs : EntitlementInputs}
    (unambiguous : inputs.Unambiguous) {feature : String} {one other : Decision}
    (left : one ∈ inputs.decisionsOn feature) (right : other ∈ inputs.decisionsOn feature)
    (level : one.1 = other.1) : one.2 = other.2 := by
  -- a grant as high as the plan's word has the lowest priority there is
  have planned {decision : Decision} (word : inputs.planDecision feature = some decision)
      (grant : EntitlementGrant) (granted : grant ∈ inputs.grantsOn feature)
      (level : decision.1 = grant.decision.1) : decision.2 = grant.decision.2 := by
    obtain ⟨active, on⟩ := mem_grantsOn.mp granted
    unfold EntitlementInputs.planDecision at word
    split at word
    · next has =>
        cases word
        exact (unambiguous.planned grant active (on ▸ has.2) level.symm).symm
    · cases word
  simp only [EntitlementInputs.decisionsOn, List.mem_append, Option.mem_toList,
    List.mem_map] at left right
  rcases left with plan | ⟨grant, granted, rfl⟩
  · rcases right with plan' | ⟨grant, granted, rfl⟩
    · rw [plan] at plan'
      cases plan'
      rfl
    · exact planned plan grant granted level
  · rcases right with plan | ⟨grant', granted', rfl⟩
    · exact (planned plan grant granted level.symm).symm
    · obtain ⟨active, on⟩ := mem_grantsOn.mp granted
      obtain ⟨active', on'⟩ := mem_grantsOn.mp granted'
      exact unambiguous.agree grant active grant' active' (on.trans on'.symm) level

/-- Resolution grants a feature exactly when its declarative rule does. -/
theorem resolves_feature_iff (inputs : EntitlementInputs) (unambiguous : inputs.Unambiguous)
    (feature : String) :
    feature ∈ (resolveEffective inputs).features ↔ inputs.Entitled feature := by
  rw [mem_features_iff]
  constructor
  · rintro ⟨priority, won⟩
    have ⟨entered, above⟩ := Contest.winner_top _ won
    exact ⟨_, entered, rfl, above⟩
  · rintro ⟨decision, entered, enabled, above⟩
    obtain ⟨⟨priority, on⟩, won⟩ := Contest.exists_winner Prod.fst entered
    have ⟨entered', above'⟩ := Contest.winner_top _ won
    have level : priority = decision.1 := Nat.le_antisymm (above _ entered') (above' _ entered)
    have same : on = decision.2 := unambiguous.agrees entered' entered level
    rw [same, enabled] at won
    exact ⟨priority, won⟩

/-! A plan of two features, one of them switched off by an override that
outranks an add-on, and a trial grant that has ended. -/

def windowGrant (featureKey source : String) (enabled : Bool) (endsAt : Option Int)
    (limitValue : Option Int) : EntitlementGrant :=
  ⟨featureKey, source, enabled, 0, endsAt, none, limitValue⟩

def sampleInputs : EntitlementInputs where
  organizationId := 1
  now := day
  planKey := some "starter"
  subscriptionStatus := some .active
  planFeatures := ["export", "sso"]
  planLimits := []
  grants := [windowGrant "sso" "addon" true none none, windowGrant "sso" "override" false none none,
    windowGrant "audit" "trial" true (some day) none]
  metricOverage := []
  graceOnPastDue := true

example : (resolveEffective sampleInputs).features = ["export"] := by decide

theorem resolves_feature_iff_overridden :
    "sso" ∈ (resolveEffective sampleInputs).features ↔ sampleInputs.Entitled "sso" :=
  resolves_feature_iff sampleInputs ⟨by decide, by decide⟩ "sso"

end SynapseSaas
