import SynapseSaas.Subscriptions.Service

/-! Which lifecycle operations succeed: the table's indexes never stand in their way. -/

set_option autoImplicit false

namespace SynapseSaas

namespace SubscriptionService

variable {db next : Db} {now : Int} {organization : Nat} {subscription existing : Subscription}

theorem resume_cases (resumed : resume db organization = .ok (subscription, next)) :
    ∃ existing, db.currentForOrg organization = some existing ∧ existing.cancelAtPeriodEnd ∧
      db.WritesSubscription existing subscription next ∧
      subscription = { existing with cancelAtPeriodEnd := false } := by
  obtain ⟨existing, current, resumed⟩ := Result.bind_eq_ok.mp resumed
  have current := requireCurrent_eq_ok.mp current
  have member := (Db.currentForOrg_eq_some.mp current).1
  split at resumed
  · next scheduled =>
      obtain ⟨mid, put, done⟩ := Result.bind_eq_ok.mp resumed
      cases done
      exact ⟨existing, current, scheduled,
        (Db.putSubscription_writes put member rfl).outbox _ _ _ _ _, rfl⟩
  · cases resumed

/-- No provider knows of a trial. -/
theorem startTrial_unbilled {planKey : String} {trialDays : Option Nat}
    (started : startTrial db now organization planKey trialDays = .ok (subscription, next)) :
    subscription.provider = none ∧ subscription.providerSubscriptionId = none := by
  obtain ⟨plan, -, started⟩ := Result.bind_eq_ok.mp started
  split at started
  · cases started
  · obtain ⟨mid, -, created⟩ := Result.bind_eq_ok.mp started
    obtain ⟨-, eq⟩ := createSubscription_inserts created
    rw [eq]
    exact ⟨rfl, rfl⟩

/-- A trial lasts as long as asked, else as its plan offers. -/
theorem startTrial_ends {planKey : String} {trialDays : Option Nat}
    (started : startTrial db now organization planKey trialDays = .ok (subscription, next)) :
    ∃ plan, db.planByKey planKey = .ok plan ∧ (plan.trialDays ≠ 0 ∨ trialDays.isSome) ∧
      subscription.trialEndsAt = some (now + (trialDays.getD plan.trialDays) * day) ∧
      subscription.cancelAtPeriodEnd = false := by
  obtain ⟨plan, -, found, offered, -⟩ := startTrial_cases started
  obtain ⟨other, same, started⟩ := Result.bind_eq_ok.mp started
  rw [found] at same
  cases same
  split at started
  · cases started
  · obtain ⟨mid, -, created⟩ := Result.bind_eq_ok.mp started
    obtain ⟨-, eq⟩ := createSubscription_inserts created
    rw [eq]
    exact ⟨plan, found, offered, rfl, rfl⟩

/-- The row a cancellation leaves. -/
def canceledRow (existing : Subscription) (now : Int) (atPeriodEnd : Bool) : Subscription :=
  if atPeriodEnd then { existing with cancelAtPeriodEnd := true } else existing.ended now

theorem cancel_succeeds (current : db.currentForOrg organization = some existing)
    (atPeriodEnd : Bool) :
    ∃ next, cancel db now organization atPeriodEnd =
      .ok (canceledRow existing now atPeriodEnd, next) := by
  have member := (Db.currentForOrg_eq_some.mp current).1
  have same : (canceledRow existing now atPeriodEnd).id = existing.id := by
    cases atPeriodEnd <;> rfl
  have keys : ∀ key ∈ (canceledRow existing now atPeriodEnd).keys, key ∈ existing.keys := by
    intro key mine
    cases atPeriodEnd with
    | true => exact mine
    | false => exact List.mem_append_right _ mine
  have legal : assertTransition existing.status "canceled" = .ok .canceled :=
    assertTransition_eq_ok.mpr ⟨rfl, canTransition_canceled _⟩
  obtain ⟨mid, put⟩ := Db.putSubscription_accepts member same keys
  refine ⟨mid.emit "subscription.canceled" (canceledRow existing now atPeriodEnd)
    (db.planOf existing) [], ?_⟩
  refine Result.bind_eq_ok.mpr ⟨existing, requireCurrent_eq_ok.mpr current, ?_⟩
  refine Result.bind_eq_ok.mpr ⟨.canceled, legal, ?_⟩
  exact Result.bind_eq_ok.mpr ⟨mid, put, rfl⟩

theorem resume_succeeds (current : db.currentForOrg organization = some existing)
    (scheduled : existing.cancelAtPeriodEnd) :
    ∃ next, resume db organization = .ok ({ existing with cancelAtPeriodEnd := false }, next) := by
  have member := (Db.currentForOrg_eq_some.mp current).1
  let resumed : Subscription := { existing with cancelAtPeriodEnd := false }
  have same : resumed.id = existing.id := rfl
  have keys : ∀ key ∈ resumed.keys, key ∈ existing.keys := fun key mine => mine
  obtain ⟨mid, put⟩ := Db.putSubscription_accepts member same keys
  refine ⟨mid.emit "subscription.resumed" resumed (db.planOf existing) [], ?_⟩
  refine Result.bind_eq_ok.mpr ⟨existing, requireCurrent_eq_ok.mpr current, ?_⟩
  rw [if_pos scheduled]
  exact Result.bind_eq_ok.mpr ⟨mid, put, rfl⟩

/-- A switch that claims no new provider reference is accepted. -/
theorem changePlan_succeeds {planKey : String} {plan : Plan} {provider reference : Option String}
    {keepPeriod : Bool} (found : db.planByKey planKey = .ok plan)
    (current : db.currentForOrg organization = some existing)
    (keys : (existing.switched now plan provider reference keepPeriod).providerKeys =
      existing.providerKeys) :
    ∃ next, changePlan db now organization planKey provider reference keepPeriod =
      .ok (existing.switched now plan provider reference keepPeriod, next) := by
  obtain ⟨member, -, occupying⟩ := Db.currentForOrg_eq_some.mp current
  let switched := existing.switched now plan provider reference keepPeriod
  have same : switched.id = existing.id := rfl
  have claims : ∀ key ∈ switched.keys, key ∈ existing.keys := by
    intro key mine
    rw [Subscription.keys, keys] at mine
    rw [Subscription.keys, if_pos occupying]
    exact mine
  obtain ⟨mid, put⟩ := Db.putSubscription_accepts member same claims
  refine ⟨mid.emit "subscription.plan_changed" switched (some plan)
    [("from_plan", .str ((existing.planSnapshot.map (·.key)).getD "None")),
      ("to_plan", .str plan.key)], Result.bind_eq_ok.mpr ⟨plan, found, ?_⟩⟩
  simp only [current]
  exact Result.bind_eq_ok.mpr ⟨mid, put, rfl⟩

/-- An organization without an occupying subscription can be given one that no
provider knows. -/
theorem createSubscription_succeeds {plan : Plan} {status : Status}
    {currentPeriodStart currentPeriodEnd trialEndsAt : Option Int}
    (vacant : db.currentForOrg organization = none) :
    ∃ created next, createSubscription db now organization plan status currentPeriodStart
      currentPeriodEnd trialEndsAt none none = .ok (created, next) := by
  let make := newSubscription now organization plan status currentPeriodStart currentPeriodEnd
    trialEndsAt none none
  -- The new row has one key: it occupies the organization, as no other row does.
  have free : ∀ row ∈ db.subscriptions.rows, ∀ key ∈ Keyed.keys row,
      key ∉ Keyed.keys (make db.subscriptions.next) := by
    intro row member key mine claimed
    have unbilled : (make db.subscriptions.next).providerKeys = [] := rfl
    have key_of : key = .occupies organization := by
      change key ∈ (make db.subscriptions.next).keys at claimed
      rw [Subscription.keys, unbilled, List.append_nil] at claimed
      split at claimed
      · exact List.mem_singleton.mp claimed
      · cases claimed
    rw [key_of] at mine
    obtain ⟨occupying, same⟩ := (row.occupies_mem_keys organization).mp mine
    exact Db.currentForOrg_eq_none.mp vacant row member same occupying
  obtain ⟨table, inserted⟩ := Table.insert_accepted db.subscriptions make rfl free
  have stored : db.insertSubscription make =
      .ok (make db.subscriptions.next, { db with subscriptions := table }) :=
    write_eq_ok.mpr ⟨table, inserted, rfl⟩
  exact ⟨_, _, Result.bind_eq_ok.mpr ⟨_, stored, rfl⟩⟩

theorem startTrial_succeeds {planKey : String} {plan : Plan} {trialDays : Option Nat}
    (found : db.planByKey planKey = .ok plan) (offered : plan.trialDays ≠ 0 ∨ trialDays.isSome)
    (fresh : ∀ existing, db.currentForOrg organization = some existing →
      existing.status ≠ .trialing) :
    ∃ trial next, startTrial db now organization planKey trialDays = .ok (trial, next) := by
  have ended : ∃ mid, endCurrent db now organization = .ok mid ∧
      mid.currentForOrg organization = none := by
    cases current : db.currentForOrg organization with
    | none => exact ⟨db, by simp only [endCurrent, current], current⟩
    | some existing =>
        obtain ⟨member, mine, occupying⟩ := Db.currentForOrg_eq_some.mp current
        have legal : assertTransition existing.status "canceled" = .ok .canceled :=
          assertTransition_eq_ok.mpr ⟨rfl, canTransition_canceled _⟩
        have same : (existing.ended now).id = existing.id := rfl
        -- An ended row gives up its key and claims no new one, so the write is accepted.
        have gone : ¬ (existing.ended now).status.occupying := Bool.false_ne_true
        have keys : ∀ key ∈ (existing.ended now).keys, key ∈ existing.keys :=
          fun key claimed => List.mem_append_right _ claimed
        obtain ⟨mid, put⟩ := Db.putSubscription_accepts member same keys
        have writes := Db.putSubscription_writes put member same
        refine ⟨mid, ?_, mine ▸ writes.vacated occupying gone⟩
        simp only [endCurrent, current, if_neg (fresh existing current)]
        exact Result.bind_eq_ok.mpr ⟨.canceled, legal, put⟩
  obtain ⟨mid, ended, vacant⟩ := ended
  obtain ⟨trial, next, created⟩ := createSubscription_succeeds vacant
  refine ⟨trial, next, Result.bind_eq_ok.mpr ⟨plan, found, ?_⟩⟩
  have trials : ¬ (plan.trialDays = 0 ∧ trialDays.isNone) := by
    rintro ⟨none_offered, unasked⟩
    rcases offered with offered | asked
    · exact offered none_offered
    · rw [Option.isNone_iff_eq_none.mp unasked] at asked
      cases asked
  rw [if_neg trials]
  exact Result.bind_eq_ok.mpr ⟨mid, ended, created⟩

end SubscriptionService

end SynapseSaas
