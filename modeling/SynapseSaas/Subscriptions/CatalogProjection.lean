import SynapseSaas.Subscriptions.CatalogSync

/-! What a sync makes of the tables: it completes exactly where every row can be stored, and then
they offer what the catalog offers, but for ratios that were rounded. -/

set_option autoImplicit false

namespace SynapseSaas.Catalog

/-! What each part of a sync needs, and what it makes. -/

section Flush

variable {Row : Type} {key : Row → String} {fits references : Row → Bool} {rows next : Rows key}
  {news : List Row}

theorem insertRows_eq_ok : insertRows fits references rows news = .ok next ↔
    ((∀ row ∈ news, fits row) ∧ ∀ row ∈ news, references row) ∧
      (news.map key).Nodup ∧ (∀ row ∈ news, rows.has (key row) = false) ∧ next = rows.putAll news := by
  unfold insertRows
  rw [← List.all_eq_true, ← List.all_eq_true, ← Rows.insertAll_eq_some]
  split
  · next fit =>
      cases inserted : rows.insertAll news with
      | none => simp
      | some made =>
          simp only [fit, true_and, Option.some.injEq]
          split
          · next known => simp [known]
          · next unknown => simp [unknown]
  · next unfit => simp [unfit]

theorem updateRows_eq_ok : updateRows fits rows news = .ok next ↔
    (∀ row ∈ news, fits row) ∧ next = rows.putAll news := by
  unfold updateRows
  rw [← List.all_eq_true]
  split
  · next fit =>
      rw [Except.ok.injEq]
      exact ⟨fun same => ⟨fit, same.symm⟩, fun parts => parts.2.symm⟩
  · next unfit => simp [unfit]

theorem writeRows_eq_ok (distinct : (news.map key).Nodup) :
    writeRows fits references rows news = .ok next ↔
      (∀ row ∈ news, fits row) ∧ (∀ row ∈ news, rows.has (key row) = false → references row) ∧
        next = rows.merge news := by
  simp only [writeRows, Outcomes.bind_eq_ok, updateRows_eq_ok, insertRows_eq_ok, List.mem_filter,
    Bool.not_eq_true', and_imp]
  constructor
  · rintro ⟨_, ⟨olds, rfl⟩, ⟨fresh, known⟩, -, -, rfl⟩
    refine ⟨fun row here => ?_, known, rfl⟩
    cases there : rows.has (key row) with
    | true => exact olds row here there
    | false => exact fresh row here there
  · rintro ⟨fit, known, rfl⟩
    refine ⟨_, ⟨fun row here _ => fit row here, rfl⟩, ⟨fun row here _ => fit row here, known⟩,
      distinct.sublist (List.filter_sublist.map key), fun row here fresh => ?_, rfl⟩
    -- The rows that were there have other keys.
    rw [Rows.has_putAll, fresh, Bool.or_false, decide_eq_false_iff_not]
    intro taken
    obtain ⟨old, member, same⟩ := List.mem_map.mp taken
    rw [← same, (List.mem_filter.mp member).2] at fresh
    cases fresh

end Flush

/-- The features of a plan, after a sync. -/
def featuresAfter (existing : Rows PlanFeature.featureKey) (featureKeys : List String) :
    Rows PlanFeature.featureKey :=
  (existing.putAll ((featureKeys.filter fun key => !existing.has key).map fun key => ⟨key, true⟩)).keep
    fun row => row.featureKey ∈ featureKeys

theorem enabledRows_keys (keys : List String) :
    (keys.map fun key => (⟨key, true⟩ : PlanFeature)).map PlanFeature.featureKey = keys := by
  rw [List.map_map]
  exact List.map_id' keys

theorem syncPlanFeatures_eq_ok {registered : Rows Feature.key}
    {existing next : Rows PlanFeature.featureKey} {featureKeys : List String}
    (known : ∀ key ∈ featureKeys, registered.has key) :
    syncPlanFeatures registered existing featureKeys = .ok next ↔
      (featureKeys.filter fun key => !existing.has key).Nodup ∧
        next = featuresAfter existing featureKeys := by
  simp only [syncPlanFeatures, Outcomes.bind_eq_ok, insertRows_eq_ok, enabledRows_keys]
  constructor
  · rintro ⟨_, ⟨-, once, -, rfl⟩, same⟩
    cases same
    exact ⟨once, rfl⟩
  · rintro ⟨once, rfl⟩
    refine ⟨_, ⟨⟨fun _ _ => trivial, fun row here => ?_⟩, once, fun row here => ?_, rfl⟩, rfl⟩
    · obtain ⟨key, listed, rfl⟩ := List.mem_map.mp here
      exact known key (List.mem_filter.mp listed).1
    · obtain ⟨key, listed, rfl⟩ := List.mem_map.mp here
      simpa using (List.mem_filter.mp listed).2

/-- The limits of a plan, after a sync. -/
def limitsAfter (catalog : PlanCatalog) (existing : Rows PlanLimit.metric) (plan : PlanDefinition) :
    Rows PlanLimit.metric :=
  (existing.merge (plan.limits.list.map (catalog.limitRow plan.key))).keep
    fun row => plan.limits.has row.metric

theorem limitRows_nodup (catalog : PlanCatalog) (plan : PlanDefinition) :
    ((plan.limits.list.map (catalog.limitRow plan.key)).map PlanLimit.metric).Nodup := by
  rw [List.map_map]
  exact plan.limits.distinct

theorem syncPlanLimits_eq_ok {catalog : PlanCatalog} {registered : Rows Metric.key}
    {existing next : Rows PlanLimit.metric} {plan : PlanDefinition}
    (known : ∀ limit ∈ plan.limits.list, registered.has limit.1) :
    syncPlanLimits catalog registered existing plan = .ok next ↔
      (∀ limit ∈ plan.limits.list, (catalog.limitRow plan.key limit).fits) ∧
        next = limitsAfter catalog existing plan := by
  simp only [syncPlanLimits, Outcomes.bind_eq_ok, writeRows_eq_ok (limitRows_nodup catalog plan),
    List.forall_mem_map]
  constructor
  · rintro ⟨_, ⟨fit, -, rfl⟩, same⟩
    cases same
    exact ⟨fit, rfl⟩
  · rintro ⟨fit, rfl⟩
    exact ⟨_, ⟨fit, fun limit here _ => known limit here, rfl⟩, rfl⟩

/-- The row of a plan with its own columns written. -/
def relisted (catalog : PlanCatalog) (existing : Rows Plan.key) (entry : PlanDefinition × Nat) : Plan :=
  let values := planValues catalog.defaults entry.2 entry.1
  match existing.find entry.1.key with
  | none => newPlan entry.1.key values
  | some old => { old with terms := values, archivedAt := none }

/-- The row of a plan after a sync. -/
def syncedPlan (catalog : PlanCatalog) (existing : Rows Plan.key) (entry : PlanDefinition × Nat) : Plan :=
  let row := relisted catalog existing entry
  { row with
    features := featuresAfter row.features entry.1.features
    limits := limitsAfter catalog row.limits entry.1 }

def counted (catalog : PlanCatalog) (existing : Rows Plan.key) (result : SyncResult)
    (entry : PlanDefinition × Nat) : SyncResult :=
  match existing.find entry.1.key with
  | none => { result with plansAdded := result.plansAdded + 1 }
  | some old =>
      let changed : Bool :=
        old.terms ≠ planValues catalog.defaults entry.2 entry.1 ∨ old.archivedAt ≠ none
      if changed then { result with plansUpdated := result.plansUpdated + 1 } else result

theorem relisted_key (catalog : PlanCatalog) (existing : Rows Plan.key)
    (entry : PlanDefinition × Nat) : (relisted catalog existing entry).key = entry.1.key := by
  unfold relisted
  cases found : existing.find entry.1.key with
  | none => rfl
  | some old => exact (Rows.find_eq_some.mp found).2

theorem relisted_fits (catalog : PlanCatalog) (existing : Rows Plan.key)
    (entry : PlanDefinition × Nat) : (relisted catalog existing entry).fits =
      (newPlan entry.1.key (planValues catalog.defaults entry.2 entry.1)).fits := by
  unfold relisted
  cases found : existing.find entry.1.key with
  | none => rfl
  | some old =>
      have own := (Rows.find_eq_some.mp found).2
      obtain ⟨key, terms, archivedAt, providerRefs, features, limits⟩ := old
      cases own
      rfl

/-- What one plan needs. -/
structure PlanStorable (catalog : PlanCatalog) (existing : Rows Plan.key)
    (entry : PlanDefinition × Nat) : Prop where
  fits : (newPlan entry.1.key (planValues catalog.defaults entry.2 entry.1)).fits
  once : (entry.1.features.filter fun feature =>
    !(relisted catalog existing entry).features.has feature).Nodup
  limits : ∀ limit ∈ entry.1.limits.list, (catalog.limitRow entry.1.key limit).fits

theorem syncPlan_eq_ok {catalog : PlanCatalog} {features : Rows Feature.key}
    {metrics : Rows Metric.key} {existing : Rows Plan.key} {state next : SyncResult × Rows Plan.key}
    {entry : PlanDefinition × Nat} (known : ∀ key ∈ entry.1.features, features.has key)
    (limited : ∀ limit ∈ entry.1.limits.list, metrics.has limit.1)
    (free : existing.find entry.1.key = none → state.2.has entry.1.key = false) :
    syncPlan catalog features metrics existing state entry = .ok next ↔
      PlanStorable catalog existing entry ∧
        next = (counted catalog existing state.1 entry,
          state.2.put (syncedPlan catalog existing entry)) := by
  -- Either way of writing the row is followed by its features and its limits.
  have finish {write : Except SyncError (Rows Plan.key)} (result : SyncResult) (row : Plan)
      (writes : ∀ plans, write = .ok plans ↔ row.fits ∧ plans = state.2.put row) :
      (do
        let plans ← write
        let planFeatures ← syncPlanFeatures features row.features entry.1.features
        let planLimits ← syncPlanLimits catalog metrics row.limits entry.1
        return (result, plans.put { row with features := planFeatures, limits := planLimits })) =
        .ok next ↔
      (row.fits ∧ (entry.1.features.filter fun feature => !row.features.has feature).Nodup ∧
        ∀ limit ∈ entry.1.limits.list, (catalog.limitRow entry.1.key limit).fits) ∧
        next = (result, state.2.put { row with
          features := featuresAfter row.features entry.1.features
          limits := limitsAfter catalog row.limits entry.1 }) := by
    simp only [Outcomes.bind_eq_ok, writes, syncPlanFeatures_eq_ok known,
      syncPlanLimits_eq_ok limited]
    constructor
    · rintro ⟨_, ⟨fits, rfl⟩, _, ⟨once, rfl⟩, _, ⟨limits, rfl⟩, same⟩
      cases same
      exact ⟨⟨fits, once, limits⟩, Prod.ext rfl (Rows.put_put _ rfl)⟩
    · rintro ⟨⟨fits, once, limits⟩, rfl⟩
      exact ⟨_, ⟨fits, rfl⟩, _, ⟨once, rfl⟩, _, ⟨limits, rfl⟩,
        congrArg (fun plans => Except.ok (result, plans)) (Rows.put_put _ rfl)⟩
  have storable : PlanStorable catalog existing entry ↔ (relisted catalog existing entry).fits ∧
      (entry.1.features.filter fun feature =>
        !(relisted catalog existing entry).features.has feature).Nodup ∧
      ∀ limit ∈ entry.1.limits.list, (catalog.limitRow entry.1.key limit).fits := by
    rw [relisted_fits]
    constructor
    · intro plan
      exact ⟨plan.fits, plan.once, plan.limits⟩
    · intro parts
      exact ⟨parts.1, parts.2.1, parts.2.2⟩
  rw [storable]
  cases found : existing.find entry.1.key with
  | none =>
      have row : relisted catalog existing entry =
          newPlan entry.1.key (planValues catalog.defaults entry.2 entry.1) := by
        simp only [relisted, found]
      simp only [syncPlan, counted, syncedPlan, row, found, pure_bind]
      apply finish
      intro plans
      rw [insertRows_eq_ok]
      simp only [List.forall_mem_singleton, List.map_singleton, List.nodup_singleton, true_and,
        and_true]
      exact ⟨fun parts => ⟨parts.1, parts.2.2⟩, fun parts => ⟨parts.1, free found, parts.2⟩⟩
  | some old =>
      have row : relisted catalog existing entry =
          { old with
            terms := planValues catalog.defaults entry.2 entry.1
            archivedAt := none } := by
        simp only [relisted, found]
      simp only [syncPlan, counted, syncedPlan, row, found, pure_bind]
      apply finish _ { old with
        terms := planValues catalog.defaults entry.2 entry.1
        archivedAt := none }
      intro plans
      rw [updateRows_eq_ok, List.forall_mem_singleton]
      rfl

theorem syncedPlan_key (catalog : PlanCatalog) (existing : Rows Plan.key)
    (entry : PlanDefinition × Nat) : (syncedPlan catalog existing entry).key = entry.1.key :=
  relisted_key catalog existing entry

/-- The loop over plans completes exactly where each of them can be stored, and writes them all. -/
theorem foldlM_syncPlan_eq_ok {catalog : PlanCatalog} {features : Rows Feature.key}
    {metrics : Rows Metric.key} {existing : Rows Plan.key} {entries : List (PlanDefinition × Nat)}
    {state next : SyncResult × Rows Plan.key}
    (known : ∀ entry ∈ entries, ∀ key ∈ entry.1.features, features.has key)
    (limited : ∀ entry ∈ entries, ∀ limit ∈ entry.1.limits.list, metrics.has limit.1)
    (distinct : (entries.map fun entry => entry.1.key).Nodup)
    (free : ∀ entry ∈ entries, existing.find entry.1.key = none → state.2.has entry.1.key = false) :
    entries.foldlM (syncPlan catalog features metrics existing) state = .ok next ↔
      (∀ entry ∈ entries, PlanStorable catalog existing entry) ∧
        next = (entries.foldl (counted catalog existing) state.1,
          state.2.putAll (entries.map (syncedPlan catalog existing))) := by
  induction entries generalizing state with
  | nil =>
      simp only [List.foldlM_nil, List.not_mem_nil, false_implies, implies_true, true_and,
        List.foldl_nil, List.map_nil, Rows.putAll_nil]
      exact ⟨fun same => (Except.ok.inj same).symm, fun same => congrArg Except.ok same.symm⟩
  | cons entry rest ih =>
      obtain ⟨knownHead, known⟩ := List.forall_mem_cons.mp known
      obtain ⟨limitedHead, limited⟩ := List.forall_mem_cons.mp limited
      obtain ⟨freeHead, free⟩ := List.forall_mem_cons.mp free
      obtain ⟨apart, distinct⟩ := List.nodup_cons.mp distinct
      -- The plan just written is none of the rest.
      have free (other : PlanDefinition × Nat) (here : other ∈ rest)
          (fresh : existing.find other.1.key = none) :
          (state.2.put (syncedPlan catalog existing entry)).has other.1.key = false := by
        rw [Rows.has_put, free other here fresh, Bool.or_false, decide_eq_false_iff_not, syncedPlan_key]
        intro same
        exact apart (List.mem_map.mpr ⟨other, here, same⟩)
      rw [List.foldlM_cons, Outcomes.bind_eq_ok, List.forall_mem_cons]
      constructor
      · rintro ⟨_, first, later⟩
        obtain ⟨storable, rfl⟩ := (syncPlan_eq_ok knownHead limitedHead freeHead).mp first
        obtain ⟨others, rfl⟩ := (ih known limited distinct free).mp later
        exact ⟨⟨storable, others⟩, rfl⟩
      · rintro ⟨⟨storable, others⟩, rfl⟩
        exact ⟨_, (syncPlan_eq_ok knownHead limitedHead freeHead).mpr ⟨storable, rfl⟩,
          (ih known limited distinct free).mpr ⟨others, rfl⟩⟩

/-! The whole sync. -/

/-- The rows of the features that are not there yet. -/
def newFeatures (catalog : PlanCatalog) (db : CatalogDb) : List Feature :=
  (catalog.features.map (·.row)).filter fun row => !db.features.has row.key

def resultAfter (catalog : PlanCatalog) (db : CatalogDb) : SyncResult :=
  { catalog.plans.zipIdx.foldl (counted catalog db.plans)
      { featuresAdded := (catalog.features.filter fun feature => !db.features.has feature.key).length
        metricsAdded := (catalog.metrics.filter fun metric => !db.metrics.has metric.key).length } with
    plansArchived := (db.plans.list.filter catalog.dropped).length }

def dbAfter (catalog : PlanCatalog) (now : Int) (db : CatalogDb) : CatalogDb :=
  { db with
    features := db.features.putAll (newFeatures catalog db)
    metrics := db.metrics.merge (catalog.metrics.map (·.row))
    plans := archivePlans catalog now
      (db.plans.putAll (catalog.plans.zipIdx.map (syncedPlan catalog db.plans))) }

structure Completes (catalog : PlanCatalog) (db : CatalogDb) : Prop where
  features : ∀ row ∈ newFeatures catalog db, row.fits
  metrics : ∀ metric ∈ catalog.metrics, metric.row.fits
  plans : ∀ entry ∈ catalog.plans.zipIdx, PlanStorable catalog db.plans entry

theorem entry_keys (catalog : PlanCatalog) :
    (catalog.plans.zipIdx.map fun entry => entry.1.key) = catalog.planKeys :=
  List.map_map.symm.trans (congrArg (List.map (·.key)) (List.zipIdx_map_fst 0 catalog.plans))

theorem metricRows_keys (catalog : PlanCatalog) :
    (catalog.metrics.map (·.row)).map Metric.key = catalog.metricKeys :=
  List.map_map

/-- Every feature of the catalog is registered before the plans are written. -/
theorem has_features {catalog : PlanCatalog} (db : CatalogDb) {key : String}
    (known : key ∈ catalog.featureKeys) : (db.features.putAll (newFeatures catalog db)).has key := by
  obtain ⟨feature, listed, rfl⟩ := List.mem_map.mp known
  rw [Rows.has_putAll, Bool.or_eq_true, decide_eq_true_iff]
  cases there : db.features.has feature.key with
  | true => exact .inr rfl
  | false =>
      refine .inl (List.mem_map.mpr ⟨feature.row, List.mem_filter.mpr ⟨?_, ?_⟩, rfl⟩)
      · exact List.mem_map_of_mem listed
      · rw [FeatureDefinition.row, there]
        rfl

theorem has_metrics {catalog : PlanCatalog} (db : CatalogDb) {key : String}
    (known : key ∈ catalog.metricKeys) :
    (db.metrics.merge (catalog.metrics.map (·.row))).has key := by
  rw [Rows.has_merge, metricRows_keys, decide_eq_true known]
  rfl

theorem syncPlans_eq_ok {catalog : AcceptedCatalog} {now : Int} {db : CatalogDb}
    {made : SyncResult × CatalogDb} :
    syncPlans catalog.toPlanCatalog now db = .ok made ↔ Completes catalog.toPlanCatalog db ∧
      made = (resultAfter catalog.toPlanCatalog db, dbAfter catalog.toPlanCatalog now db) := by
  have featuresDistinct : ((newFeatures catalog.toPlanCatalog db).map Feature.key).Nodup := by
    apply List.Nodup.sublist (List.filter_sublist.map Feature.key)
    rw [List.map_map]
    exact catalog.featureKeys_nodup
  have featuresFree : ∀ row ∈ newFeatures catalog.toPlanCatalog db, db.features.has row.key = false :=
    fun row here => by simpa using (List.mem_filter.mp here).2
  have metricsDistinct : ((catalog.metrics.map (·.row)).map Metric.key).Nodup := by
    rw [metricRows_keys]
    exact catalog.metricKeys_nodup
  have loop (start : SyncResult) (next : SyncResult × Rows Plan.key) :
      catalog.plans.zipIdx.foldlM (syncPlan catalog.toPlanCatalog
          (db.features.putAll (newFeatures catalog.toPlanCatalog db))
          (db.metrics.merge (catalog.metrics.map (·.row))) db.plans) (start, db.plans) = .ok next ↔
        (∀ entry ∈ catalog.plans.zipIdx, PlanStorable catalog.toPlanCatalog db.plans entry) ∧
          next = (catalog.plans.zipIdx.foldl (counted catalog.toPlanCatalog db.plans) start,
            db.plans.putAll (catalog.plans.zipIdx.map (syncedPlan catalog.toPlanCatalog db.plans))) := by
    apply foldlM_syncPlan_eq_ok
    · intro entry here key listed
      exact has_features db ((catalog.known (List.fst_mem_of_mem_zipIdx here)).1 key listed)
    · intro entry here limit listed
      exact has_metrics db ((catalog.known (List.fst_mem_of_mem_zipIdx here)).2 limit listed)
    · rw [entry_keys]
      exact catalog.planKeys_nodup
    · intro entry _ fresh
      rw [Rows.has, fresh]
      rfl
  constructor
  · intro done
    obtain ⟨_, synced, done⟩ := Outcomes.bind_eq_ok.mp done
    obtain ⟨⟨features, -⟩, -, -, rfl⟩ := insertRows_eq_ok.mp synced
    obtain ⟨_, synced, done⟩ := Outcomes.bind_eq_ok.mp done
    obtain ⟨metrics, -, rfl⟩ := (writeRows_eq_ok metricsDistinct).mp synced
    obtain ⟨_, synced, done⟩ := Outcomes.bind_eq_ok.mp done
    obtain ⟨plans, rfl⟩ := (loop _ _).mp synced
    cases done
    exact ⟨⟨features, List.forall_mem_map.mp metrics, plans⟩, rfl⟩
  · rintro ⟨⟨features, metrics, plans⟩, rfl⟩
    have first : syncFeatures catalog.toPlanCatalog db.features =
        .ok (db.features.putAll (newFeatures catalog.toPlanCatalog db)) :=
      insertRows_eq_ok.mpr ⟨⟨features, fun _ _ => rfl⟩, featuresDistinct, featuresFree, rfl⟩
    have second : syncMetrics catalog.toPlanCatalog db.metrics =
        .ok (db.metrics.merge (catalog.metrics.map (·.row))) :=
      (writeRows_eq_ok metricsDistinct).mpr
        ⟨List.forall_mem_map.mpr metrics, fun _ _ _ => rfl, rfl⟩
    exact Outcomes.bind_eq_ok.mpr ⟨_, first, Outcomes.bind_eq_ok.mpr ⟨_, second,
      Outcomes.bind_eq_ok.mpr ⟨_, (loop _ _).mpr ⟨plans, rfl⟩, rfl⟩⟩⟩

/-- Written once more, a sync's own values are the terms that the catalog means. -/
theorem planValues_eq {catalog : AcceptedCatalog} {plan : PlanDefinition}
    (listed : plan ∈ catalog.plans) (order : Nat) :
    planValues catalog.defaults order plan = plan.terms catalog.defaults order := by
  have currency : plan.currency.filter (· ≠ "") = plan.currency := by
    cases said : plan.currency with
    | none => rfl
    | some text =>
        have written : text ≠ "" := by
          rintro rfl
          exact catalog.currency_ne_empty listed said
        simp [Option.filter, written]
  rw [planValues, PlanDefinition.terms, currency, catalog.custom_iff listed]
  congr 1
  by_cases unset : plan.sortOrder = 0
  · rw [if_neg (not_not.mpr unset), if_pos unset]
  · rw [if_pos unset, if_neg unset]

theorem planStorable_iff {catalog : AcceptedCatalog} {db : CatalogDb} {entry : PlanDefinition × Nat}
    (listed : entry.1 ∈ catalog.plans) :
    PlanStorable catalog.toPlanCatalog db.plans entry ↔
      (newPlan entry.1.key (entry.1.terms catalog.defaults entry.2)).fits ∧
        (entry.1.features.filter fun feature => !db.planHas entry.1.key feature).Nodup ∧
        ∀ limit ∈ entry.1.limits.list, (catalog.limitRow entry.1.key limit).fits := by
  have has (feature : String) : (relisted catalog.toPlanCatalog db.plans entry).features.has feature =
      db.planHas entry.1.key feature := by
    unfold relisted CatalogDb.planHas
    cases db.plans.find entry.1.key with
    | none => rfl
    | some old => rfl
  constructor
  · rintro ⟨fits, once, limits⟩
    rw [planValues_eq listed] at fits
    simp only [has] at once
    exact ⟨fits, once, limits⟩
  · rintro ⟨fits, once, limits⟩
    rw [← planValues_eq listed] at fits
    simp only [← has] at once
    exact ⟨fits, once, limits⟩

/-- A plan of the catalog stands at some position. -/
theorem exists_order {catalog : AcceptedCatalog} {plan : PlanDefinition}
    (here : plan ∈ catalog.plans) : ∃ order, (plan, order) ∈ catalog.plans.zipIdx := by
  rw [← List.zipIdx_map_fst 0 catalog.plans] at here
  obtain ⟨⟨_, order⟩, member, rfl⟩ := List.mem_map.mp here
  exact ⟨order, member⟩

theorem completes_iff {catalog : AcceptedCatalog} {db : CatalogDb} :
    Completes catalog.toPlanCatalog db ↔
      (∀ plan ∈ catalog.plans,
        (plan.features.filter fun feature => !db.planHas plan.key feature).Nodup) ∧
        Fits catalog.toPlanCatalog db := by
  have listed {entry : PlanDefinition × Nat} (here : entry ∈ catalog.plans.zipIdx) :
      entry.1 ∈ catalog.plans := List.fst_mem_of_mem_zipIdx here
  have features : (∀ row ∈ newFeatures catalog.toPlanCatalog db, row.fits) ↔
      ∀ feature ∈ catalog.features, db.features.has feature.key = false → feature.row.fits := by
    simp [newFeatures, FeatureDefinition.row]
  constructor
  · rintro ⟨features', metrics, plans⟩
    have parts (entry) (here : entry ∈ catalog.plans.zipIdx) :=
      (planStorable_iff (listed here)).mp (plans entry here)
    refine ⟨fun plan here => ?_, features.mp features', metrics, fun entry here => ?_,
      fun plan here => ?_⟩
    · obtain ⟨order, member⟩ := exists_order here
      exact (parts _ member).2.1
    · exact (parts entry here).1
    · obtain ⟨order, member⟩ := exists_order here
      exact (parts _ member).2.2
  · rintro ⟨once, fits⟩
    refine ⟨features.mpr fits.features, fits.metrics, fun entry here => ?_⟩
    exact (planStorable_iff (listed here)).mpr
      ⟨fits.plans entry here, once _ (listed here), fits.limits _ (listed here)⟩

/-! What the rows of a plan offer after a sync. -/

theorem featuresAfter_enabled {existing : Rows PlanFeature.featureKey} {featureKeys : List String}
    (enabled : ∀ row ∈ existing.list, row.enabled)
    (once : (featureKeys.filter fun key => !existing.has key).Nodup) (feature : String) :
    ((featuresAfter existing featureKeys).find feature).any (·.enabled) =
      decide (feature ∈ featureKeys) := by
  rw [featuresAfter, Rows.find_keep]
  by_cases listed : feature ∈ featureKeys
  · rw [decide_eq_true listed]
    cases there : existing.find feature with
    | some row =>
        have old : feature ∉ featureKeys.filter fun key => !existing.has key := by
          simp [List.mem_filter, Rows.has, there]
        obtain ⟨here, rfl⟩ := Rows.find_eq_some.mp there
        rw [Rows.find_putAll_of_not_mem (by rwa [enabledRows_keys]), there]
        simp [Option.filter, listed, enabled row here]
    | none =>
        have new : (⟨feature, true⟩ : PlanFeature) ∈
            (featureKeys.filter fun key => !existing.has key).map fun key => ⟨key, true⟩ :=
          List.mem_map.mpr ⟨feature, by simp [List.mem_filter, listed, Rows.has, there], rfl⟩
        have found : (existing.putAll _).find feature = some ⟨feature, true⟩ :=
          Rows.find_putAll_of_mem (by rwa [enabledRows_keys]) new
        rw [found]
        simp [Option.filter, listed]
  · rw [decide_eq_false listed]
    cases there : (existing.putAll _).find feature with
    | none => rfl
    | some row =>
        have own := (Rows.find_eq_some.mp there).2
        simp [Option.filter, own, listed]

theorem limitsAfter_find (catalog : PlanCatalog) (existing : Rows PlanLimit.metric)
    (plan : PlanDefinition) (metric : String) :
    (limitsAfter catalog existing plan).find metric =
      (plan.limits.find metric).map (catalog.limitRow plan.key) := by
  rw [limitsAfter, Rows.find_keep]
  cases there : plan.limits.find metric with
  | some limit =>
      obtain ⟨here, rfl⟩ := Rows.find_eq_some.mp there
      have found : (existing.merge _).find limit.1 = some (catalog.limitRow plan.key limit) :=
        Rows.find_merge_of_mem (limitRows_nodup catalog plan) (List.mem_map_of_mem here)
      rw [found]
      simp [Option.filter, Rows.has, PlanCatalog.limitRow, there]
  | none =>
      rw [Option.map_none]
      cases found : (existing.merge _).find metric with
      | none => rfl
      | some row =>
          have own := (Rows.find_eq_some.mp found).2
          simp [Option.filter, own, Rows.has, there]

theorem numeric_eq_iff (ratio : Rat) : ((numeric ratio : Int) : Rat) / 100 = ratio ↔ TwoDecimals ratio := by
  constructor
  · intro same
    exact ⟨numeric ratio, same.symm⟩
  · rintro ⟨hundredths, rfl⟩
    have kept : numeric ((hundredths : Rat) / 100) = hundredths := by
      rw [numeric, Rat.div_mul_cancel (by decide), Rat.add_comm, Rat.floor_add_intCast]
      have half : (1 / 2 : Rat).floor = 0 := by decide +kernel
      rw [half, Int.zero_add]
    rw [kept]

/-- A stored limit says what the catalog says exactly if its ratio was not rounded. -/
theorem limitRow_terms_iff {catalog : AcceptedCatalog} {plan : PlanDefinition}
    (listed : plan ∈ catalog.plans) (limit : String × Option Int) :
    (catalog.limitRow plan.key limit).terms = catalog.limitTerms plan limit ↔
      ∀ ratio ∈ (catalog.limitTerms plan limit).softLimitRatio, TwoDecimals ratio := by
  have overage : (catalog.limitRow plan.key limit).terms.overage =
      (catalog.limitTerms plan limit).overage := by
    rw [← AcceptedCatalog.overageFor_eq listed]
    simp only [PlanLimit.terms, PlanCatalog.limitRow]
    cases catalog.overageFor plan.key limit.1 <;> rfl
  have ratio : (catalog.limitRow plan.key limit).terms.softLimitRatio =
      (catalog.limitTerms plan limit).softLimitRatio.map fun ratio => (numeric ratio : Rat) / 100 := by
    simp only [PlanLimit.terms, PlanCatalog.limitRow, PlanCatalog.limitTerms, Option.map_map]
    cases (catalog.metric limit.1).bind (·.softLimitRatio) <;> rfl
  have value : (catalog.limitRow plan.key limit).terms.value =
      (catalog.limitTerms plan limit).value := rfl
  have same : (catalog.limitRow plan.key limit).terms = catalog.limitTerms plan limit ↔
      (catalog.limitRow plan.key limit).terms.softLimitRatio =
        (catalog.limitTerms plan limit).softLimitRatio :=
    ⟨congrArg LimitTerms.softLimitRatio, fun same => LimitTerms.ext value same overage⟩
  rw [same, ratio]
  cases (catalog.limitTerms plan limit).softLimitRatio with
  | none => simp
  | some ratio => simp [numeric_eq_iff]

/-! The plans after a sync, key by key. -/

/-- Only a sync writes the features of a plan, and it enables them. -/
def FeaturesEnabled (db : CatalogDb) : Prop :=
  ∀ row ∈ db.plans.list, ∀ feature ∈ row.features.list, feature.enabled

section After

variable {catalog : AcceptedCatalog} {db : CatalogDb} {now : Int} {entry : PlanDefinition × Nat}

theorem relisted_found {row : Plan} (there : db.plans.find entry.1.key = some row) :
    relisted catalog.toPlanCatalog db.plans entry =
      { row with terms := planValues catalog.defaults entry.2 entry.1, archivedAt := none } := by
  simp only [relisted, there]

theorem relisted_enabled (enabled : FeaturesEnabled db) :
    ∀ feature ∈ (relisted catalog.toPlanCatalog db.plans entry).features.list, feature.enabled := by
  cases there : db.plans.find entry.1.key with
  | none =>
      intro feature here
      simp only [relisted, there] at here
      cases here
  | some row =>
      rw [relisted_found there]
      exact enabled row (Rows.find_eq_some.mp there).1

theorem syncedPlan_terms : (syncedPlan catalog.toPlanCatalog db.plans entry).terms =
    planValues catalog.defaults entry.2 entry.1 := by
  unfold syncedPlan relisted
  cases db.plans.find entry.1.key <;> rfl

theorem syncedPlan_archivedAt :
    (syncedPlan catalog.toPlanCatalog db.plans entry).archivedAt = none := by
  unfold syncedPlan relisted
  cases db.plans.find entry.1.key <;> rfl

theorem listed_key (listed : entry ∈ catalog.plans.zipIdx) : entry.1.key ∈ catalog.planKeys :=
  List.mem_map_of_mem (List.fst_mem_of_mem_zipIdx listed)

theorem exists_entry {key : String} (listed : key ∈ catalog.planKeys) :
    ∃ entry ∈ catalog.plans.zipIdx, entry.1.key = key := by
  rw [← entry_keys] at listed
  exact List.mem_map.mp listed

theorem plans_find_listed (listed : entry ∈ catalog.plans.zipIdx) :
    (dbAfter catalog.toPlanCatalog now db).plans.find entry.1.key =
      some (syncedPlan catalog.toPlanCatalog db.plans entry) := by
  have keys : (catalog.plans.zipIdx.map (syncedPlan catalog.toPlanCatalog db.plans)).map Plan.key =
      catalog.planKeys := by
    rw [← entry_keys, List.map_map]
    exact List.map_congr_left fun other _ => syncedPlan_key _ _ other
  have found : (db.plans.putAll (catalog.plans.zipIdx.map
      (syncedPlan catalog.toPlanCatalog db.plans))).find
        (syncedPlan catalog.toPlanCatalog db.plans entry).key =
      some (syncedPlan catalog.toPlanCatalog db.plans entry) :=
    Rows.find_putAll_of_mem (by rw [keys]; exact catalog.planKeys_nodup) (List.mem_map_of_mem listed)
  rw [syncedPlan_key] at found
  have stays : catalog.dropped (syncedPlan catalog.toPlanCatalog db.plans entry) = false := by
    rw [PlanCatalog.dropped, syncedPlan_key]
    simp [listed_key listed]
  rw [dbAfter, archivePlans, Rows.find_revise, found, Option.map_some, stays]
  rfl

theorem plans_find_other {key : String} (gone : key ∉ catalog.planKeys) :
    (dbAfter catalog.toPlanCatalog now db).plans.find key = (db.plans.find key).map fun row =>
      if catalog.dropped row then { row with archivedAt := some now } else row := by
  rw [dbAfter, archivePlans, Rows.find_revise, Rows.find_putAll_of_not_mem]
  rw [List.map_map]
  intro here
  obtain ⟨entry, listed, rfl⟩ := List.mem_map.mp here
  rw [Function.comp_apply, syncedPlan_key] at gone
  exact gone (listed_key listed)

/-- A plan that the catalog does not list is archived after the sync. -/
theorem archived_of_not_mem {key : String} {row : Plan} (gone : key ∉ catalog.planKeys)
    (found : (dbAfter catalog.toPlanCatalog now db).plans.find key = some row) :
    row.archivedAt ≠ none := by
  have own := (Rows.find_eq_some.mp found).2
  rw [plans_find_other gone] at found
  obtain ⟨old, there, rfl⟩ := Option.map_eq_some_iff.mp found
  split
  · exact Option.some_ne_none now
  · next kept =>
      intro live
      apply kept
      rw [PlanCatalog.dropped, (Rows.find_eq_some.mp there).2]
      simp [gone, live]

theorem none_dropped : ∀ row ∈ (dbAfter catalog.toPlanCatalog now db).plans.list,
    catalog.dropped row = false := by
  intro row here
  have found := Rows.find_eq_some.mpr ⟨here, rfl⟩
  by_contra dropped
  obtain ⟨gone, live⟩ := of_decide_eq_true (Bool.not_eq_false _ ▸ dropped)
  exact archived_of_not_mem gone found live

theorem after_once (completes : Completes catalog.toPlanCatalog db)
    (listed : entry ∈ catalog.plans.zipIdx) : (entry.1.features.filter fun feature =>
      !(relisted catalog.toPlanCatalog db.plans entry).features.has feature).Nodup :=
  (completes.plans entry listed).once

theorem after_enabled (enabled : FeaturesEnabled db) (completes : Completes catalog.toPlanCatalog db) :
    FeaturesEnabled (dbAfter catalog.toPlanCatalog now db) := by
  intro row here
  have found := Rows.find_eq_some.mpr ⟨here, rfl⟩
  by_cases listed : row.key ∈ catalog.planKeys
  · obtain ⟨entry, placed, own⟩ := exists_entry listed
    rw [← own, plans_find_listed placed] at found
    cases found
    intro feature member
    have kept : feature.featureKey ∈ entry.1.features :=
      of_decide_eq_true (List.mem_filter.mp member).2
    have any := featuresAfter_enabled (relisted_enabled enabled) (after_once completes placed)
      feature.featureKey
    have found : (featuresAfter _ entry.1.features).find feature.featureKey = some feature :=
      Rows.find_eq_some.mpr ⟨member, rfl⟩
    rw [found, decide_eq_true kept] at any
    exact any
  · rw [plans_find_other listed] at found
    obtain ⟨old, there, same⟩ := Option.map_eq_some_iff.mp found
    have features : row.features = old.features := by
      rw [← same]
      split <;> rfl
    rw [features]
    exact enabled old (Rows.find_eq_some.mp there).1

theorem run_enabled (history : List CatalogAction) :
    FeaturesEnabled (Runs.run CatalogDb.step {} history) := by
  apply Runs.run_invariant CatalogDb.step
  · intro db action enabled
    cases action with
    | sync catalog now =>
        apply Transaction.commit_cases enabled
        intro next made
        cases outcome : syncPlans catalog.toPlanCatalog now db with
        | error failure =>
            rw [outcome] at made
            cases made
        | ok pair =>
            obtain ⟨completes, rfl⟩ := syncPlans_eq_ok.mp outcome
            rw [outcome] at made
            cases made
            exact after_enabled enabled completes
    | refer planKey providerRefs =>
        intro row here
        obtain ⟨old, there, rfl⟩ := List.mem_map.mp here
        have features : (if old.key = planKey then { old with providerRefs := providerRefs }
            else old).features = old.features := by
          split <;> rfl
        rw [features]
        exact enabled old there
    | subscribe subscription => exact enabled
  · intro row here
    cases here

/-! What the tables offer after a sync. -/

theorem offer_listed (listed : entry ∈ catalog.plans.zipIdx) : catalog.offer entry.1.key =
    some { terms := entry.1.terms catalog.defaults entry.2
           features := fun feature => feature ∈ entry.1.features
           limits := fun metric => (entry.1.limits.find metric).map (catalog.limitTerms entry.1) } := by
  rw [PlanCatalog.offer]
  cases found : catalog.plans.zipIdx.find? fun other => other.1.key = entry.1.key with
  | none => simpa using List.find?_eq_none.mp found entry listed
  | some other =>
      have here := List.mem_of_find?_eq_some found
      have same : other.1.key = entry.1.key := by simpa using List.find?_some found
      have distinct : (catalog.plans.zipIdx.map fun entry => entry.1.key).Nodup := by
        rw [entry_keys]
        exact catalog.planKeys_nodup
      rw [List.inj_on_of_nodup_map distinct here listed same]
      rfl

theorem offer_other {key : String} (gone : key ∉ catalog.planKeys) : catalog.offer key = none := by
  rw [PlanCatalog.offer, Option.map_eq_none_iff, List.find?_eq_none]
  intro entry listed same
  apply gone
  rw [← of_decide_eq_true same]
  exact listed_key listed

theorem syncedPlan_offer (enabled : FeaturesEnabled db)
    (completes : Completes catalog.toPlanCatalog db) (listed : entry ∈ catalog.plans.zipIdx) :
    (syncedPlan catalog.toPlanCatalog db.plans entry).offer =
      { terms := entry.1.terms catalog.defaults entry.2
        features := fun feature => feature ∈ entry.1.features
        limits := fun metric =>
          ((entry.1.limits.find metric).map (catalog.limitRow entry.1.key)).map (·.terms) } := by
  have features : (syncedPlan catalog.toPlanCatalog db.plans entry).offer.features =
      fun feature => decide (feature ∈ entry.1.features) :=
    funext fun feature =>
      featuresAfter_enabled (relisted_enabled enabled) (after_once completes listed) feature
  have limits : (syncedPlan catalog.toPlanCatalog db.plans entry).offer.limits = fun metric =>
      ((entry.1.limits.find metric).map (catalog.limitRow entry.1.key)).map (·.terms) :=
    funext fun metric => congrArg (Option.map PlanLimit.terms) (limitsAfter_find _ _ _ metric)
  have terms : (syncedPlan catalog.toPlanCatalog db.plans entry).offer.terms =
      entry.1.terms catalog.defaults entry.2 :=
    syncedPlan_terms.trans (planValues_eq (List.fst_mem_of_mem_zipIdx listed) entry.2)
  rw [← features, ← limits, ← terms]

/-- The offers agree exactly if no ratio in effect was rounded. -/
theorem offers_iff (enabled : FeaturesEnabled db) (completes : Completes catalog.toPlanCatalog db) :
    (∀ key, (dbAfter catalog.toPlanCatalog now db).offer key = catalog.offer key) ↔
      ∀ plan ∈ catalog.plans, ∀ limit ∈ plan.limits.list,
        ∀ ratio ∈ (catalog.limitTerms plan limit).softLimitRatio, TwoDecimals ratio := by
  have stored (entry) (listed : entry ∈ catalog.plans.zipIdx) :
      (dbAfter catalog.toPlanCatalog now db).offer entry.1.key =
        some (syncedPlan catalog.toPlanCatalog db.plans entry).offer := by
    rw [CatalogDb.offer, plans_find_listed listed]
    simp [Option.filter, syncedPlan_archivedAt]
  constructor
  · intro offers plan here limit member
    obtain ⟨order, listed⟩ := exists_order here
    have agree := offers plan.key
    rw [stored (plan, order) listed, offer_listed listed, syncedPlan_offer enabled completes listed,
      Option.some.injEq, PlanOffer.mk.injEq] at agree
    have agree := congrFun agree.2.2 limit.1
    rw [Rows.find_eq_some.mpr ⟨member, rfl⟩] at agree
    exact (limitRow_terms_iff (List.fst_mem_of_mem_zipIdx listed) limit).mp (Option.some.inj agree)
  · intro exact_ratios key
    by_cases listed : key ∈ catalog.planKeys
    · obtain ⟨entry, placed, rfl⟩ := exists_entry listed
      have plan := List.fst_mem_of_mem_zipIdx placed
      rw [stored entry placed, offer_listed placed, syncedPlan_offer enabled completes placed,
        Option.some.injEq, PlanOffer.mk.injEq]
      refine ⟨rfl, rfl, funext fun metric => ?_⟩
      cases found : entry.1.limits.find metric with
      | none => rfl
      | some limit =>
          have member := (Rows.find_eq_some.mp found).1
          exact congrArg some ((limitRow_terms_iff plan limit).mpr (exact_ratios _ plan limit member))
    · rw [offer_other listed, CatalogDb.offer, Option.map_eq_none_iff, Option.filter_eq_none_iff]
      intro row found live
      exact archived_of_not_mem listed found (of_decide_eq_true live)

/-- No plan is gone after a sync, and none has another name with a provider. -/
theorem refs_kept : ∀ row ∈ db.plans.list, ∃ kept ∈ (dbAfter catalog.toPlanCatalog now db).plans.list,
    kept.key = row.key ∧ kept.providerRefs = row.providerRefs := by
  intro row here
  have there := Rows.find_eq_some.mpr ⟨here, rfl⟩
  by_cases listed : row.key ∈ catalog.planKeys
  · obtain ⟨entry, placed, own⟩ := exists_entry listed
    have found : (dbAfter catalog.toPlanCatalog now db).plans.find entry.1.key = some _ :=
      plans_find_listed placed
    obtain ⟨member, same⟩ := Rows.find_eq_some.mp found
    refine ⟨_, member, same.trans own, ?_⟩
    rw [syncedPlan, relisted_found (own ▸ there)]
  · have found : (dbAfter catalog.toPlanCatalog now db).plans.find row.key = Option.map _ _ :=
      plans_find_other listed
    rw [there, Option.map_some] at found
    obtain ⟨member, same⟩ := Rows.find_eq_some.mp found
    refine ⟨_, member, same, ?_⟩
    split <;> rfl

theorem synced_iff (enabled : FeaturesEnabled db) (completes : Completes catalog.toPlanCatalog db) :
    Synced catalog.toPlanCatalog db (dbAfter catalog.toPlanCatalog now db) ↔
      ∀ plan ∈ catalog.plans, ∀ limit ∈ plan.limits.list,
        ∀ ratio ∈ (catalog.limitTerms plan limit).softLimitRatio, TwoDecimals ratio := by
  constructor
  · intro synced
    exact (offers_iff enabled completes).mp synced.offers
  · intro exact_ratios
    refine ⟨(offers_iff enabled completes).mpr exact_ratios, fun row here gone => ?_, refs_kept, rfl⟩
    obtain ⟨kept, member, same, -⟩ : ∃ kept ∈ (dbAfter catalog.toPlanCatalog now db).plans.list, _ :=
      refs_kept row here
    have found : (dbAfter catalog.toPlanCatalog now db).plans.find row.key = some kept :=
      Rows.find_eq_some.mpr ⟨member, same⟩
    exact ⟨kept, member, same, archived_of_not_mem gone found⟩

/-! Once more. -/

theorem featuresAfter_again {existing : Rows PlanFeature.featureKey} {featureKeys : List String}
    (enabled : ∀ row ∈ existing.list, row.enabled)
    (once : (featureKeys.filter fun key => !existing.has key).Nodup) :
    (featureKeys.filter fun key => !(featuresAfter existing featureKeys).has key) = [] ∧
      featuresAfter (featuresAfter existing featureKeys) featureKeys =
        featuresAfter existing featureKeys := by
  have none_new : (featureKeys.filter fun key => !(featuresAfter existing featureKeys).has key) = [] := by
    rw [List.filter_eq_nil_iff]
    intro key listed
    have any := featuresAfter_enabled enabled once key
    rw [decide_eq_true listed] at any
    cases found : (featuresAfter existing featureKeys).find key with
    | none =>
        rw [found] at any
        cases any
    | some row => simp [Rows.has, found]
  refine ⟨none_new, ?_⟩
  rw [featuresAfter, none_new]
  exact Rows.keep_eq_self fun row here => (List.mem_filter.mp here).2

theorem limitsAfter_again (catalog : PlanCatalog) (existing : Rows PlanLimit.metric)
    (plan : PlanDefinition) : limitsAfter catalog (limitsAfter catalog existing plan) plan =
      limitsAfter catalog existing plan := by
  have written : ∀ row ∈ plan.limits.list.map (catalog.limitRow plan.key),
      (limitsAfter catalog existing plan).find row.metric = some row := by
    intro row here
    obtain ⟨limit, listed, rfl⟩ := List.mem_map.mp here
    rw [limitsAfter_find, show (catalog.limitRow plan.key limit).metric = limit.1 from rfl,
      Rows.find_eq_some.mpr ⟨listed, rfl⟩]
    rfl
  rw [limitsAfter, Rows.merge_eq_self written]
  exact Rows.keep_eq_self fun row here => (List.mem_filter.mp here).2

/-- A plan that was written is as it would be written again. -/
theorem relisted_again (listed : entry ∈ catalog.plans.zipIdx) :
    relisted catalog.toPlanCatalog (dbAfter catalog.toPlanCatalog now db).plans entry =
      syncedPlan catalog.toPlanCatalog db.plans entry := by
  rw [relisted_found (plans_find_listed listed), ← syncedPlan_terms, ← syncedPlan_archivedAt]

theorem syncedPlan_again (enabled : FeaturesEnabled db)
    (completes : Completes catalog.toPlanCatalog db) (listed : entry ∈ catalog.plans.zipIdx) :
    syncedPlan catalog.toPlanCatalog (dbAfter catalog.toPlanCatalog now db).plans entry =
      syncedPlan catalog.toPlanCatalog db.plans entry := by
  have features := (featuresAfter_again (relisted_enabled enabled) (after_once completes listed)).2
  have limits := limitsAfter_again catalog.toPlanCatalog
    (relisted catalog.toPlanCatalog db.plans entry).limits entry.1
  rw [syncedPlan, relisted_again listed]
  simp only [syncedPlan, features, limits]

theorem newFeatures_again :
    (catalog.features.filter fun feature =>
      !(dbAfter catalog.toPlanCatalog now db).features.has feature.key) = [] := by
  rw [List.filter_eq_nil_iff]
  intro feature listed
  have there := has_features db (List.mem_map_of_mem listed : feature.key ∈ catalog.featureKeys)
  rw [show (dbAfter catalog.toPlanCatalog now db).features.has feature.key = true from there]
  exact Bool.false_ne_true

theorem newMetrics_again :
    (catalog.metrics.filter fun metric =>
      !(dbAfter catalog.toPlanCatalog now db).metrics.has metric.key) = [] := by
  rw [List.filter_eq_nil_iff]
  intro metric listed
  have there := has_metrics db (List.mem_map_of_mem listed : metric.key ∈ catalog.metricKeys)
  rw [show (dbAfter catalog.toPlanCatalog now db).metrics.has metric.key = true from there]
  exact Bool.false_ne_true

theorem newFeatures_eq (db : CatalogDb) : newFeatures catalog.toPlanCatalog db =
    (catalog.features.filter fun feature => !db.features.has feature.key).map (·.row) :=
  List.filter_map

theorem completes_again (enabled : FeaturesEnabled db)
    (completes : Completes catalog.toPlanCatalog db) :
    Completes catalog.toPlanCatalog (dbAfter catalog.toPlanCatalog now db) := by
  refine ⟨fun row here => ?_, completes.metrics, fun entry listed => ?_⟩
  · rw [newFeatures_eq, newFeatures_again] at here
    cases here
  · have storable := completes.plans entry listed
    refine ⟨storable.fits, ?_, storable.limits⟩
    have none_new := (featuresAfter_again (relisted_enabled enabled) (after_once completes listed)).1
    rw [relisted_again listed, syncedPlan, none_new]
    exact List.nodup_nil

theorem dbAfter_again (enabled : FeaturesEnabled db) (completes : Completes catalog.toPlanCatalog db)
    (later : Int) :
    dbAfter catalog.toPlanCatalog later (dbAfter catalog.toPlanCatalog now db) =
      dbAfter catalog.toPlanCatalog now db := by
  have features : (dbAfter catalog.toPlanCatalog now db).features.putAll
      (newFeatures catalog.toPlanCatalog (dbAfter catalog.toPlanCatalog now db)) =
        (dbAfter catalog.toPlanCatalog now db).features := by
    rw [newFeatures_eq, newFeatures_again]
    rfl
  have metrics : (dbAfter catalog.toPlanCatalog now db).metrics.merge (catalog.metrics.map (·.row)) =
      (dbAfter catalog.toPlanCatalog now db).metrics := by
    apply Rows.merge_eq_self
    intro row here
    apply Rows.find_merge_of_mem _ here
    rw [metricRows_keys]
    exact catalog.metricKeys_nodup
  have plans : archivePlans catalog.toPlanCatalog later
      ((dbAfter catalog.toPlanCatalog now db).plans.putAll (catalog.plans.zipIdx.map
        (syncedPlan catalog.toPlanCatalog (dbAfter catalog.toPlanCatalog now db).plans))) =
      (dbAfter catalog.toPlanCatalog now db).plans := by
    rw [Rows.putAll_eq_self]
    · apply Rows.revise_eq_self
      intro row here
      rw [none_dropped row here]
      rfl
    · intro row here
      obtain ⟨entry, listed, rfl⟩ := List.mem_map.mp here
      rw [syncedPlan_again enabled completes listed, syncedPlan_key]
      exact plans_find_listed listed
  rw [dbAfter, features, metrics, plans]

theorem counted_again (listed : entry ∈ catalog.plans.zipIdx) (result : SyncResult) :
    counted catalog.toPlanCatalog (dbAfter catalog.toPlanCatalog now db).plans result entry =
      result := by
  rw [counted, plans_find_listed listed]
  simp [syncedPlan_terms, syncedPlan_archivedAt]

theorem resultAfter_again :
    resultAfter catalog.toPlanCatalog (dbAfter catalog.toPlanCatalog now db) = {} := by
  have loop (entries : List (PlanDefinition × Nat)) (some_listed : entries ⊆ catalog.plans.zipIdx)
      (start : SyncResult) : entries.foldl (counted catalog.toPlanCatalog
        (dbAfter catalog.toPlanCatalog now db).plans) start = start := by
    induction entries with
    | nil => rfl
    | cons entry rest ih =>
        obtain ⟨head, tail⟩ := List.cons_subset.mp some_listed
        rw [List.foldl_cons, counted_again head, ih tail]
  have archived : (dbAfter catalog.toPlanCatalog now db).plans.list.filter catalog.dropped = [] := by
    rw [List.filter_eq_nil_iff]
    intro row here
    simp [none_dropped row here]
  rw [resultAfter, loop _ (List.Subset.refl _), newFeatures_again, newMetrics_again, archived]
  rfl

end After

/-- After any history of syncs, a catalog that validation accepts is synced as it says, and once
more without any change, exactly if each plan lists no new feature twice, every value fits its
column, and no ratio in effect has to be rounded. -/
theorem catalog_sync_iff (history : List CatalogAction) (catalog : AcceptedCatalog) :
    SyncsFaithfully catalog.toPlanCatalog (Runs.run CatalogDb.step {} history) ↔
      Storable catalog.toPlanCatalog (Runs.run CatalogDb.step {} history) := by
  have enabled := run_enabled history
  generalize Runs.run CatalogDb.step {} history = db at enabled ⊢
  constructor
  · intro faithful
    obtain ⟨result, after, completed, synced, -⟩ := faithful 0
    obtain ⟨completes, same⟩ := syncPlans_eq_ok.mp completed
    cases same
    obtain ⟨once, fits⟩ := completes_iff.mp completes
    exact ⟨once, fits, (synced_iff enabled completes).mp synced⟩
  · rintro ⟨once, fits, exact_ratios⟩ now
    have completes := completes_iff.mpr ⟨once, fits⟩
    refine ⟨_, _, syncPlans_eq_ok.mpr ⟨completes, rfl⟩,
      (synced_iff enabled completes).mpr exact_ratios, fun later => ?_⟩
    apply syncPlans_eq_ok.mpr
    rw [resultAfter_again, dbAfter_again enabled completes]
    exact ⟨completes_again enabled completes, rfl⟩

/-- A plan that lists its one feature twice. -/
def twiceListed : AcceptedCatalog where
  version := 1
  defaults := { softLimitRatio := none }
  features := [⟨"api_access", "API access", none⟩]
  metrics := []
  plans := [
    { key := "pro", name := "Pro", description := none, priceCents := some 4900, custom := false
      currency := none, interval := none, trialDays := none
      features := ["api_access", "api_access"], limits := Rows.empty, overage := Rows.empty }]
  fields := by decide
  consistent := by decide

/-- Validation lets it pass, and the first sync of it violates the key of `plan_features`. -/
theorem listed_twice :
    syncPlans twiceListed.toPlanCatalog 0 {} = .error .uniqueViolation ∧
      ¬ SyncsFaithfully twiceListed.toPlanCatalog (Runs.run CatalogDb.step {} []) := by
  have fails : syncPlans twiceListed.toPlanCatalog 0 {} = .error .uniqueViolation := by decide
  refine ⟨fails, fun faithful => ?_⟩
  obtain ⟨result, after, completed, -⟩ := faithful 0
  rw [Runs.run_nil, fails] at completed
  cases completed

end SynapseSaas.Catalog
