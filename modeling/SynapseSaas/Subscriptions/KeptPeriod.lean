import SynapseSaas.Subscriptions.Progress

/-! When a plan change keeps the billing period: the check comes after the status has
been made active, and no longer sees what it was. -/

set_option autoImplicit false

namespace SynapseSaas

/-- An active subscription in its period. -/
def Subscription.Live (existing : Subscription) (now : Int) : Prop :=
  existing.status = .active ∧ now < existing.currentPeriodEnd

def Subscription.SamePeriod (existing changed : Subscription) : Prop :=
  changed.currentPeriodStart = existing.currentPeriodStart ∧
    changed.currentPeriodEnd = existing.currentPeriodEnd

/-- A period that begins now and lasts the plan's interval. -/
def Subscription.Restarted (changed : Subscription) (now : Int) (plan : Plan) : Prop :=
  changed.currentPeriodStart = now ∧ changed.currentPeriodEnd = now + plan.intervalDelta

/-- The period is kept exactly where there is a live one; otherwise it restarts. -/
structure KeepsLivePeriod (db : Db) (now : Int) (organization : Nat) (plan : Plan)
    (changed : Subscription) : Prop where
  kept : (∃ existing, db.currentForOrg organization = some existing ∧ existing.SamePeriod changed) ↔
    ∃ existing, db.currentForOrg organization = some existing ∧ existing.Live now
  restarted : (∀ existing, db.currentForOrg organization = some existing → ¬ existing.Live now) →
    changed.Restarted now plan

namespace SubscriptionService

variable {db next : Db} {now : Int} {organization : Nat} {changed existing : Subscription}

theorem intervalDelta_pos (plan : Plan) : 0 < plan.intervalDelta := by
  unfold Plan.intervalDelta
  split <;> decide

section Switched

variable (plan : Plan) (provider reference : Option String)

theorem switched_kept (later : now < existing.currentPeriodEnd) :
    existing.SamePeriod (existing.switched now plan provider reference true) := by
  unfold Subscription.SamePeriod Subscription.switched
  simp [later]

theorem switched_restarted (lapsed : existing.currentPeriodEnd ≤ now) :
    (existing.switched now plan provider reference true).Restarted now plan := by
  unfold Subscription.Restarted Subscription.switched
  simp [Int.not_lt.mpr lapsed]

end Switched

/-- A change to another plan with `keep_period` keeps the period exactly where it should,
unless it makes a trial or an overdue subscription with time left active. -/
theorem keep_period_iff {planKey : String} {provider reference : Option String} {plan : Plan}
    (found : db.planByKey planKey = .ok plan)
    (done : changePlan db now organization planKey provider reference true = .ok (changed, next)) :
    KeepsLivePeriod db now organization plan changed ↔
      ∀ existing, db.currentForOrg organization = some existing →
        existing.status = .active ∨ existing.currentPeriodEnd ≤ now := by
  obtain ⟨other, found', outcome⟩ := changePlan_cases done
  rw [found] at found'
  cases found'
  rcases outcome with ⟨vacant, -, new⟩ | ⟨existing, current, -, new⟩
  · -- A new subscription has a period of its own.
    have restarted : changed.Restarted now plan := by
      rw [new]
      exact ⟨rfl, rfl⟩
    refine iff_of_true ⟨?_, fun _ => restarted⟩ ?_
    · simp [vacant]
    · simp [vacant]
  · have only (property : Subscription → Prop) :
        (∃ row, db.currentForOrg organization = some row ∧ property row) ↔ property existing := by
      simp [current]
    rcases Int.lt_or_le now existing.currentPeriodEnd with later | lapsed
    · have kept : existing.SamePeriod changed := by
        rw [new]
        exact switched_kept plan provider reference later
      constructor
      · rintro ⟨law, -⟩ row same
        rw [current] at same
        cases same
        rw [only, only] at law
        exact .inl (law.mp kept).1
      · intro stands
        have live : existing.Live now :=
          ⟨(stands existing current).resolve_right (by omega), later⟩
        refine ⟨?_, fun dead => absurd live (dead existing current)⟩
        rw [only, only]
        exact iff_of_true kept live
    · have restarted : changed.Restarted now plan := by
        rw [new]
        exact switched_restarted plan provider reference lapsed
      have moved : ¬ existing.SamePeriod changed := by
        rintro ⟨-, same⟩
        have longer := intervalDelta_pos plan
        have ends := restarted.2
        omega
      have dead : ¬ existing.Live now := by
        rintro ⟨-, later⟩
        omega
      refine iff_of_true ⟨?_, fun _ => restarted⟩ ?_
      · rw [only, only]
        exact iff_of_false moved dead
      · intro row same
        rw [current] at same
        cases same
        exact .inr lapsed

end SubscriptionService

def subscribedAs (status : Status) : Subscription := { sampleSubscription 0 with status }

/-- A subscription in some status, to be changed ten days into its period. -/
def tenDaysInto (status : Status) : Db := sampleDb (subscribedAs status)

theorem tenDaysInto_current {status : Status} (occupying : status.occupying) :
    (tenDaysInto status).currentForOrg 1 = some (subscribedAs status) :=
  Db.currentForOrg_eq_some.mpr ⟨by simp [tenDaysInto, sampleDb], rfl, occupying⟩

theorem tenDaysInto_changes {status : Status} (occupying : status.occupying) :
    ∃ next, SubscriptionService.changePlan (tenDaysInto status) (10 * day) 1 "starter" none none
      true = .ok ((subscribedAs status).switched (10 * day) samplePlan none none true, next) :=
  SubscriptionService.changePlan_succeeds rfl (tenDaysInto_current occupying) rfl

/-- An active subscription keeps its period. -/
theorem keep_period_active :
    ∃ changed next, SubscriptionService.changePlan (tenDaysInto .active) (10 * day) 1 "starter" none
      none true = .ok (changed, next) ∧
      KeepsLivePeriod (tenDaysInto .active) (10 * day) 1 samplePlan changed := by
  have occupying : Status.occupying .active := rfl
  obtain ⟨next, done⟩ := tenDaysInto_changes occupying
  refine ⟨_, next, done, (SubscriptionService.keep_period_iff rfl done).mpr ?_⟩
  intro existing current
  rw [tenDaysInto_current occupying] at current
  cases current
  exact .inl rfl

/-- A trial with time left keeps its period too, and is active in it. -/
theorem trial_keeps_period :
    ∃ changed next, SubscriptionService.changePlan (tenDaysInto .trialing) (10 * day) 1 "starter" none
      none true = .ok (changed, next) ∧ changed.currentPeriodStart = 0 ∧
      ¬ KeepsLivePeriod (tenDaysInto .trialing) (10 * day) 1 samplePlan changed := by
  have occupying : Status.occupying .trialing := rfl
  obtain ⟨next, done⟩ := tenDaysInto_changes occupying
  refine ⟨_, next, done, by decide, ?_⟩
  rintro ⟨law, -⟩
  obtain ⟨existing, current, live, -⟩ := law.mp
    ⟨_, tenDaysInto_current occupying, by decide, by decide⟩
  rw [tenDaysInto_current occupying] at current
  cases current
  cases live

end SynapseSaas
