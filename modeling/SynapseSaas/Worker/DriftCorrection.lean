import SynapseSaas.Usage.LimitEnforcement

/-! The rollup against the hot path. The job is meant to correct counters that
drifted; an event committed between its query and its upsert it takes away. -/

set_option autoImplicit false

namespace SynapseSaas

open ReadCommitted

/-- The counters of the month and later are the sums of the committed events. -/
def Consistent (month : Int) (system : UsageSystem) : Prop :=
  ∀ counter : CounterKey, month ≤ counter.periodStart →
    counterTotal system.committed.rows counter = used counter system.committed.log

/-- Metering of any kind, and rollups that run in the month or later. -/
def UsageRequest.RunsIn (month : Int) : UsageRequest → Prop
  | .record .. | .consume .. | .consumeMany .. => True
  | .rollup now => month ≤ monthBucket now

/-- A rollup that commits here is fresh: for every counter it wrote, the events
committed since its query add up to nothing. -/
def CommitsFresh (system : UsageSystem) : Action UsageRequest → Prop
  | .commit id => ∀ session answer, system.sessions id = some session →
      session.script = .done answer → session.request.mayCommit system.committed session.draft
  | .start _ _ | .advance _ | .rollback _ => True

/-- No counter capped, no key followed, rollups in the month or later. -/
def Terms.correcting (start : UsageStore) (month : Int) : Terms where
  opening := start
  cap _ := none
  tracked _ := False
  rollups now := month ≤ monthBucket now

section Correcting

variable {start : UsageStore} {month : Int} (right : Consistent month (System.idle start))

include right

theorem Terms.correcting_admits {request : UsageRequest} (usual : request.RunsIn month) :
    (Terms.correcting start month).Admits request := by
  have binds : ∀ organization call, (Terms.correcting start month).Binding organization call :=
    Terms.Binding.of_uncapped fun _ => rfl
  cases request with
  | record organization calls => exact fun _ _ _ => rfl
  | consume organization call => exact binds organization call
  | consumeMany organization calls => exact fun call _ => binds organization call
  | rollup now => exact ⟨usual, fun counter current => right counter (le_trans usual current)⟩

theorem consistent_of_sound {system : UsageSystem}
    (sound : (Terms.correcting start month).contract.Sound system) : Consistent month system :=
  fun counter current => sound.valid.right (right counter current)

omit right in
/-- A rollup that is not fresh leaves a total that lacks the events since. -/
theorem commitsFresh_of_consistent {system : UsageSystem} {action : Action UsageRequest}
    (sound : (Terms.correcting start month).contract.Sound system)
    (consistent : Consistent month (usageStep system action)) : CommitsFresh system action := by
  cases action with
  | start id request => trivial
  | advance id => trivial
  | rollback id => trivial
  | commit id =>
      intro session answer here finished
      have committed : (usageStep system (.commit id)).committed =
          system.committed.under session.draft := by
        simp only [usageStep, step, here, finished]
      have admitted := sound.admitted id session here
      obtain ⟨done, -⟩ := sound.commits here finished
      change session.request.finished system.committed session.draft at done
      change (Terms.correcting start month).Admits session.request at admitted
      generalize session.request = request at done admitted
      cases request with
      | record organization calls => trivial
      | consume organization call => trivial
      | consumeMany organization calls => trivial
      | rollup now =>
          obtain ⟨read, rolling⟩ := done
          intro counter row written
          obtain ⟨total, current⟩ := rolling.totals counter row written
          -- The total written counts the events read; consistency counts those there are.
          have after := consistent counter (le_trans admitted.1 current)
          rw [committed, counterTotal_of_some (Store.under_rows_of_some written), total,
            rolling.log_eq, rolling.used_eq counter] at after
          omega

/-- In every interleaving of metering with rollups of the month, the counters are
right throughout exactly when every rollup that commits is fresh; and while they
are, they are right whenever nothing is in flight. -/
theorem rollup_consistent_iff (actions : List (Action UsageRequest))
    (usual : ∀ action ∈ actions, action.Starts (UsageRequest.RunsIn month)) :
    (Runs.Always usageStep (Consistent month) (System.idle start) actions ↔
      Runs.Guarded usageStep CommitsFresh (System.idle start) actions) ∧
    (Runs.Guarded usageStep CommitsFresh (System.idle start) actions →
      Runs.Always usageStep (fun system => system.Quiet → Consistent month system)
        (System.idle start) actions) := by
  have valid : (Terms.correcting start month).Valid start :=
    Terms.Valid.start _ fun _ impossible => impossible.elim
  have started : ∀ action ∈ actions,
      action.Starts (Terms.correcting start month).contract.admissible := by
    intro action member
    exact (usual action member).imp fun request kind => Terms.correcting_admits right kind
  -- Only a commit asks for a condition.
  have permits (system : UsageSystem) (action : Action UsageRequest)
      (fresh : CommitsFresh system action) :
      (Terms.correcting start month).contract.Permits system action := by
    cases action with
    | commit id => exact fresh
    | start id request => trivial
    | advance id => trivial
    | rollback id => trivial
  have exactly : Runs.Always usageStep (Consistent month) (System.idle start) actions ↔
      Runs.Guarded usageStep CommitsFresh (System.idle start) actions :=
    Runs.always_iff_guarded_among _
      (fun system action starts sound fresh => Contract.Sound.step Terms.serves sound starts
        (permits system action fresh))
      (fun _ sound => consistent_of_sound right sound)
      (fun _ _ _ sound consistent => commitsFresh_of_consistent sound consistent)
      (.idle valid) started
  exact ⟨exactly, fun fresh => (exactly.mpr fresh).mono _ fun _ consistent _ => consistent⟩

end Correcting

/-- A rollup nobody commits beside: what it read is what there is. -/
def undisturbedRun : List (Action UsageRequest) :=
  [.start 1 (.consume 1 (sampleCall 1 5 none)), .advance 1, .advance 1, .commit 1,
    .start 3 (.rollup 0), .advance 3, .advance 3, .commit 3]

theorem rollup_consistent_iff_undisturbed :
    Runs.Always usageStep (fun system => system.Quiet → Consistent 0 system)
      (System.idle emptyUsage) undisturbedRun := by
  have right : Consistent 0 (System.idle emptyUsage) := fun counter _ => rfl
  have usual : ∀ action ∈ undisturbedRun, action.Starts (UsageRequest.RunsIn 0) := by
    have thisMonth : 0 ≤ monthBucket 0 := by decide
    simp [undisturbedRun, Action.Starts, UsageRequest.RunsIn, thisMonth]
  apply (rollup_consistent_iff right undisturbedRun usual).2
  refine ⟨trivial, trivial, trivial, ?_, trivial, trivial, trivial, ?_, trivial⟩
  · intro session answer here finished
    cases here
    trivial
  · intro session answer here finished
    cases here
    intro counter row written
    rfl

/-! A consumer commits between the rollup's query and its upsert. -/

def overtakenRun : List (Action UsageRequest) :=
  [.start 1 (.consume 1 (sampleCall 1 5 none)), .advance 1, .advance 1, .commit 1,
    .start 2 (.consume 1 (sampleCall 2 3 none)), .advance 2, .advance 2,
    .start 3 (.rollup 0), .advance 3, .advance 3, .commit 2, .advance 3, .commit 3]

theorem rollup_loses_usage :
    ¬Runs.Always usageStep (fun system => system.Quiet → Consistent 0 system)
      (System.idle emptyUsage) overtakenRun := by
  intro always
  have last := always.last usageStep
  have quiet : (Runs.run usageStep (System.idle emptyUsage) overtakenRun).Quiet := by
    intro id
    by_cases first : id = 1
    · subst first
      rfl
    by_cases second : id = 2
    · subst second
      rfl
    by_cases third : id = 3
    · subst third
      rfl
    apply run_vacant
    · simp [overtakenRun, Ne.symm first, Ne.symm second, Ne.symm third]
    · rfl
  have right := last quiet sampleCounter le_rfl
  exact absurd right (by decide)

end SynapseSaas
