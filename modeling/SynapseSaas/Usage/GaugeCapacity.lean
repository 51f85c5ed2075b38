import SynapseSaas.Usage.Overflow
import SynapseSaas.Usage.Gauges

/-! The capacity of a gauge. The check reads the level without a lock and the move comes
after it, so that of two transactions each may find the room that the other takes. -/

set_option autoImplicit false

namespace SynapseSaas.Metering

open ReadCommitted UsageService

/-- One gauge of one organization under a limit. -/
structure Capacity where
  organization : Nat
  metric : String
  limit : Int

namespace Capacity

variable (capacity : Capacity)

def counter : CounterKey := ⟨capacity.organization, capacity.metric, gaugePeriod⟩

def level (store : UsageStore) : Int := counterTotal store.rows capacity.counter

/-- `adjust_gauge` with its check, where it finds the limit. -/
structure Enforces (move : GaugeMove) : Prop where
  metric : move.metric = capacity.metric
  enforce : move.enforce = true
  limit : move.readings.entitlements.limitOf capacity.metric = some capacity.limit

def Kept (store : UsageStore) : Prop :=
  0 ≤ capacity.level store ∧ capacity.level store ≤ capacity.limit

instance : DecidablePred capacity.Kept := fun _ => inferInstanceAs (Decidable (_ ∧ _))

/-- One scheduling decision among moves of the gauge. -/
def step : System UsageKey.Row UsageEntry Failure GaugeMove UsageResult → Action GaugeMove →
    System UsageKey.Row UsageEntry Failure GaugeMove UsageResult :=
  ReadCommitted.step (adjustGauge capacity.organization)

/-- The capacity check of an upward move, made again on the level that the move found. -/
def StillRoom (move : GaugeMove) (_ : UsageResult) (store : UsageStore) (_ : UsageDraft) : Prop :=
  0 < move.delta → overCapacity (some capacity.limit) (capacity.level store) move.delta = false

/-- What a move has done once it is made. -/
structure Moved (delta : Int) (store : UsageStore) (draft : UsageDraft) : Prop where
  written : ∃ row, draft.rows (.counter capacity.counter) = some row
  level : capacity.level (store.under draft) = max (capacity.level store + delta) 0

/-- Any transaction may commit beside a move, and a move may always commit. -/
def contract : Contract UsageKey.Row UsageEntry GaugeMove UsageResult where
  valid _ := True
  grows _ _ := True
  refl _ := trivial
  trans _ _ := trivial
  admissible := capacity.Enforces
  finished move _ store draft := capacity.Moved move.delta store draft
  mayCommit _ _ _ _ := True
  told _ _ _ := True
  told_grows _ _ := trivial

variable {capacity : Capacity} {store : UsageStore} {draft : UsageDraft} {move : GaugeMove}

/-- The row is locked, so what a move made of the level stands. -/
theorem moved_stable (delta : Int) :
    capacity.contract.toRely.Stable (capacity.Moved delta) := by
  intro before after draft _ later moved
  obtain ⟨row, written⟩ := moved.written
  have same : capacity.level after = capacity.level before :=
    counterTotal_congr (later.held _ row written)
  have kept : capacity.level (after.under draft) = capacity.level (before.under draft) :=
    counterTotal_congr ((Store.under_rows_of_some written).trans
      (Store.under_rows_of_some written).symm)
  exact ⟨moved.written, by rw [kept, same, moved.level]⟩

/-- The gauge is not written yet. -/
def Unmoved (draft : UsageDraft) : Prop := draft.rows (.counter capacity.counter) = none

theorem unmoved_stable : capacity.contract.toRely.Stable
    fun _ draft => capacity.Unmoved draft := fun _ _ _ _ _ unmoved => unmoved

theorem safe_assertGaugeMetric {metric : String} {readings : Readings}
    (unmoved : capacity.Unmoved draft) :
    Safe capacity.contract.toRely (fun _ _ draft => capacity.Unmoved draft)
      (assertGaugeMetric metric readings) store draft := by
  unfold assertGaugeMetric
  cases readings.kind with
  | none => trivial
  | some kind =>
      cases kind with
      | counter => trivial
      | gauge => exact fun _ _ => unmoved

theorem safe_currentTotal {organization : Nat} {metric : String} {readings : Readings}
    (unmoved : capacity.Unmoved draft) :
    Safe capacity.contract.toRely (fun _ _ draft => capacity.Unmoved draft)
      (currentTotal organization metric readings) store draft := by
  have period : Safe capacity.contract.toRely (fun _ _ draft => capacity.Unmoved draft)
      (periodFor metric readings) store draft := by
    unfold periodFor
    cases readings.kind with
    | none => trivial
    | some kind => cases kind <;> exact fun _ _ => unmoved
  exact Safe.bind trivial period fun period store draft _ unmoved =>
    Safe.select (fun _ => unmoved_stable) fun _ _ => unmoved

theorem safe_ensureGaugeCapacity {metric : String} {readings : Readings} {current adding : Int}
    (unmoved : capacity.Unmoved draft) :
    Safe capacity.contract.toRely (fun _ _ draft => capacity.Unmoved draft)
      (ensureGaugeCapacity metric readings current adding) store draft := by
  unfold ensureGaugeCapacity
  refine Safe.bind trivial (safe_assertGaugeMetric unmoved) fun _ store draft _ unmoved => ?_
  cases readings.entitlements.limitOf metric with
  | none => exact fun _ _ => unmoved
  | some value =>
      dsimp only
      split
      · trivial
      · exact fun _ _ => unmoved

/-- The move itself, on whatever level it finds. -/
theorem safe_levelMoved {transactionStart : Int} (unmoved : capacity.Unmoved draft) :
    Safe capacity.contract.toRely (fun _ store draft => capacity.Moved move.delta store draft)
      (writeCounter capacity.counter (levelMoved move.delta transactionStart)) store draft := by
  refine Safe.execute (fun _ => moved_stable _) ?_ ?_
  · intro later _ unchanged
    exact absurd unchanged (levelMoved_ne_none _)
  · intro later row _ written
    have found : (later.under draft).rows (.counter capacity.counter) =
        later.rows (.counter capacity.counter) := Store.under_rows_of_none unmoved
    rw [found] at written
    refine ⟨⟨row, put_counter_self ..⟩, ?_⟩
    have total := levelMoved_total written
    rw [level, counterTotal_of_some (Store.under_rows_of_some (put_counter_self ..)), total]
    rfl

theorem serves (move : GaugeMove) (enforces : capacity.Enforces move) (store : UsageStore) :
    Safe capacity.contract.toRely (capacity.contract.Commits move)
      (adjustGauge capacity.organization move) store Draft.empty := by
  have commits : Safe capacity.contract.toRely
      (fun _ store draft => capacity.Moved move.delta store draft)
      (adjustGauge capacity.organization move) store Draft.empty := by
    unfold adjustGauge
    refine Safe.bind trivial (safe_assertGaugeMetric rfl) fun _ store draft _ unmoved => ?_
    have moves {store : UsageStore} {draft : UsageDraft} (unmoved : capacity.Unmoved draft) :
        Safe capacity.contract.toRely (fun _ store draft => capacity.Moved move.delta store draft)
          (moveGauge capacity.organization move) store draft := by
      rw [moveGauge, enforces.metric]
      refine Safe.bind trivial (safe_levelMoved unmoved) fun written store draft _ moved => ?_
      cases written with
      | none => trivial
      | some row => exact Safe.pure (moved_stable _) trivial moved
    split
    · refine Safe.bind trivial (safe_currentTotal unmoved) fun current store draft _ unmoved => ?_
      refine Safe.bind trivial (safe_ensureGaugeCapacity unmoved) fun _ store draft _ unmoved => ?_
      exact moves unmoved
    · exact moves unmoved
  exact commits.weaken fun _ _ _ _ moved => ⟨moved, fun _ => ⟨trivial, trivial, trivial⟩⟩

/-- A move keeps the level within the capacity exactly if there is still room for it. -/
theorem kept_under_iff {result : UsageResult} (kept : capacity.Kept store)
    (moved : capacity.Moved move.delta store draft) :
    capacity.Kept (store.under draft) ↔ capacity.StillRoom move result store draft := by
  obtain ⟨above, within⟩ := kept
  simp only [Kept, StillRoom, moved.level, overCapacity, Option.any_some, decide_eq_false_iff_not]
  omega

end Capacity

/-- Among moves that check the capacity first, the level stays within it throughout a run
exactly if every upward move that is committed found the room it had checked for. -/
theorem gauge_within_capacity_iff (capacity : Capacity) (start : UsageStore)
    (kept : capacity.Kept start) (actions : List (Action GaugeMove))
    (enforcing : ∀ action ∈ actions, action.Starts capacity.Enforces) :
    Runs.Always capacity.step (fun system => capacity.Kept system.committed)
        (System.idle start) actions ↔
      Runs.Guarded capacity.step (Contract.CommitsMeet capacity.StillRoom)
        (System.idle start) actions := by
  have sound : capacity.contract.Sound (System.idle start : System _ _ Failure _ _) :=
    .idle trivial
  refine sound.always_iff_commits (fun move enforces store _ => Capacity.serves move enforces store)
    enforcing (fun _ _ _ _ _ => trivial) ?_ kept
  exact fun move result store draft _ kept commits => Capacity.kept_under_iff kept commits.1

/-! Ten projects at most, and two requests for six. -/

def projects : Capacity := ⟨5, "projects", 10⟩

def adding (delta : Int) : GaugeMove where
  metric := "projects"
  delta := delta
  readings :=
    { kind := some .gauge, now := 0
      entitlements := ⟨5, none, none, [], [("projects", ⟨some 10, none, none⟩)]⟩, nowLater := 0
      entitlementsLater := ⟨5, none, none, [], [("projects", ⟨some 10, none, none⟩)]⟩
      transactionStart := 0, softThreshold := fun value ratio => value * ratio
      eventId := 50, aggregateIds := (51, 52) }

theorem adding_enforces (delta : Int) : projects.Enforces (adding delta) := ⟨rfl, rfl, rfl⟩

def crossingMoves : List (Action GaugeMove) :=
  [.start 1 (adding 6), .start 2 (adding 6), .advance 1, .advance 2, .advance 1, .commit 1,
    .advance 2, .commit 2]

/-- Both find room for six, and both are committed. -/
theorem gauge_passes_capacity :
    (∀ action ∈ crossingMoves, action.Starts projects.Enforces) ∧ projects.Kept noUsage ∧
    ¬ Runs.Always projects.step (fun system => projects.Kept system.committed)
      (System.idle noUsage) crossingMoves := by
  refine ⟨?_, by decide +kernel, by decide +kernel⟩
  simp [crossingMoves, Action.Starts, adding_enforces]

def successiveMoves : List (Action GaugeMove) :=
  [.start 1 (adding 6), .advance 1, .advance 1, .commit 1, .start 2 (adding 6), .advance 2,
    .advance 2, .commit 2, .start 3 (adding (-7)), .advance 3, .commit 3]

/-- One after the other, the second is refused, and a move below zero stops there. -/
theorem gauge_within_capacity_iff_successive :
    (Runs.Always projects.step (fun system => projects.Kept system.committed)
        (System.idle noUsage) successiveMoves ↔
      Runs.Guarded projects.step (Contract.CommitsMeet projects.StillRoom)
        (System.idle noUsage) successiveMoves) ∧
    Runs.Always projects.step (fun system => projects.Kept system.committed)
      (System.idle noUsage) successiveMoves ∧
    projects.level (Runs.run projects.step (System.idle noUsage) successiveMoves).committed =
      0 := by
  refine ⟨gauge_within_capacity_iff projects noUsage (by decide +kernel) _ ?_,
    by decide +kernel, by decide +kernel⟩
  simp [successiveMoves, Action.Starts, adding_enforces]

end SynapseSaas.Metering
