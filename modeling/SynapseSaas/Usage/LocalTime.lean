import SynapseSaas.Usage.SoftLimit
import SynapseSaas.Worker.Rollup

/-! Usage at times that carry an offset of their own. The event is stored as an instant and
rolled up by its month in UTC; the counter is chosen by the date on the wall where the
event was recorded. -/

set_option autoImplicit false

namespace SynapseSaas.Metering

open ReadCommitted UsageService

/-- A datetime with a timezone: the instant, and what its clock is ahead of UTC by. -/
structure AwareDatetime where
  instant : Int
  offset : Int
  deriving DecidableEq, Repr

/-- `datetime.date()`, by the clock of the datetime. -/
def AwareDatetime.date (datetime : AwareDatetime) : Int :=
  dateOf (datetime.instant + datetime.offset)

/-- `_month_bucket`. -/
def AwareDatetime.monthBucket (datetime : AwareDatetime) : Int := firstOfMonth datetime.date

/-- The month of the instant in UTC, counted in months since year zero. -/
def AwareDatetime.month (datetime : AwareDatetime) : Int :=
  Calendar.monthOf (dateOf datetime.instant)

/-- The clock shows a time in the month that UTC is in. -/
def AwareDatetime.SameMonth (datetime : AwareDatetime) : Prop :=
  midnight (Calendar.firstDay datetime.month) ≤ datetime.instant + datetime.offset ∧
    datetime.instant + datetime.offset < midnight (Calendar.firstDay (datetime.month + 1))

instance (datetime : AwareDatetime) : Decidable datetime.SameMonth :=
  inferInstanceAs (Decidable (_ ∧ _))

/-- The upsert-increment at a datetime. -/
def incrementCounterAt (organization : Nat) (metric : String) (quantity : Int)
    (occurredAt : AwareDatetime) : UsageScript Int := do
  let written ← writeCounter ⟨organization, metric, occurredAt.monthBucket⟩
    (counted quantity occurredAt.instant)
  match written with
  | none => .fail (.other .noResult)
  | some row => return row.quantityTotal

/-- `record` at a datetime. -/
def recordAt (organization : Nat) (call : UsageCall) (occurredAt : AwareDatetime) :
    UsageScript UsageResult := do
  assertCounterMetric call
  unlessReplayed organization call (do
    let eventId ← insertEvent organization call occurredAt.instant
    let total ← incrementCounterAt organization call.metric call.quantity occurredAt
    maybeEmitSoftLimit organization call total
    settle organization call eventId total
    return { metric := call.metric, quantity := call.quantity, total, deduplicated := false }) id

/-- The two buckets are one exactly while the clock is in the month UTC is in. -/
theorem AwareDatetime.monthBucket_eq_iff (datetime : AwareDatetime) :
    datetime.monthBucket = SynapseSaas.monthBucket datetime.instant ↔ datetime.SameMonth := by
  rw [monthBucket, SynapseSaas.monthBucket, firstOfMonth, firstOfMonth,
    Calendar.firstDay_strictMono.injective.eq_iff, Calendar.monthOf_eq_iff, SameMonth,
    midnight_le_iff, ← not_le, ← not_le, midnight_le_iff]
  rfl

section Records

variable {organization : Nat} {call : UsageCall} {occurredAt : AwareDatetime}

/-- In one month, a record at a datetime is a record at its instant. -/
theorem recordAt_eq_record (same : occurredAt.SameMonth) :
    recordAt organization call occurredAt =
      record organization { call with occurredAt := some occurredAt.instant } := by
  have increments : incrementCounterAt organization call.metric call.quantity occurredAt =
      incrementCounter organization call.metric call.quantity occurredAt.instant := by
    rw [incrementCounter_eq, ← occurredAt.monthBucket_eq_iff.mpr same]
    rfl
  rw [recordAt, increments]
  rfl

end Records

/-- A record of an organization at a datetime. -/
structure TimedRecord where
  organization : Nat
  call : UsageCall
  occurredAt : AwareDatetime

def TimedRecord.after (store : UsageStore) (timed : TimedRecord) : UsageStore :=
  (recordAt timed.organization timed.call timed.occurredAt).after (usageColumns bigInteger) store

/-- Every counter is what its events add up to. -/
def Consistent (store : UsageStore) : Prop :=
  ∀ counter, counterTotal store.rows counter = used counter store.log

structure InStep (store : UsageStore) : Prop where
  fitting : Fitting bigInteger store
  consistent : Consistent store

/-- The rollup finds the totals that are there. -/
def RollupReproduces (now : Int) (store : UsageStore) : Prop :=
  ∀ counter, counterTotal ((rollupUsage now).after (usageColumns bigInteger) store).rows counter =
    counterTotal store.rows counter

section Rollup

variable {fits : Int → Bool} {store : UsageStore} {draft : UsageDraft}

theorem alone_rebuildCounter {row : RolledUp} (holds : fits row.quantityTotal) :
    ∃ written, (rebuildCounter row).alone (usageColumns fits) store draft =
        .ok (some written, draft.put (.counter row.counter) written) ∧
      written.quantityTotal = row.quantityTotal := by
  unfold rebuildCounter writeCounter
  cases found : (store.under draft).rows (.counter row.counter) with
  | none =>
      exact ⟨_, Script.alone_execute_some (by simp [usageColumns, holds]) (by rw [found])
        (by simp [usageColumns, holds]), rfl⟩
  | some old =>
      exact ⟨_, Script.alone_execute_some (by simp [usageColumns, holds]) (by rw [found])
        (by simp [usageColumns, holds]), rfl⟩

/-- Rebuilding counters to the totals they have changes none. -/
theorem alone_rebuildEach {rows : List RolledUp}
    (right : ∀ row ∈ rows, fits row.quantityTotal ∧
      row.quantityTotal = counterTotal (store.under draft).rows row.counter) :
    ∃ results after, (Script.each rebuildCounter rows).alone (usageColumns fits) store draft =
        .ok (results, after) ∧
      ∀ counter, counterTotal (store.under after).rows counter =
        counterTotal (store.under draft).rows counter := by
  induction rows generalizing draft with
  | nil => exact ⟨[], draft, rfl, fun _ => rfl⟩
  | cons row rest ih =>
      obtain ⟨⟨holds, total⟩, right⟩ := List.forall_mem_cons.mp right
      obtain ⟨written, ran, same⟩ := @alone_rebuildCounter fits store draft row holds
      have kept (counter : CounterKey) :
          counterTotal (store.under (draft.put (.counter row.counter) written)).rows counter =
            counterTotal (store.under draft).rows counter := by
        by_cases here : counter = row.counter
        · subst here
          rw [counterTotal_of_some (Store.under_rows_of_some (put_counter_self ..)), same, total]
        · exact counterTotal_congr (by simp only [Store.under, put_counter_other draft written here])
      obtain ⟨results, after, rest_ran, rest_kept⟩ := @ih
        (draft.put (.counter row.counter) written)
        (fun other member => by rw [kept]; exact right other member)
      refine ⟨some written :: results, after, ?_, fun counter => (rest_kept counter).trans (kept counter)⟩
      rw [Script.each, Script.alone_bind, ran]
      change (_ >>= _ : UsageScript _).alone _ _ _ = _
      rw [Script.alone_bind, rest_ran]
      rfl

theorem rollup_reproduces (inStep : InStep store) (now : Int) : RollupReproduces now store := by
  intro counter
  obtain ⟨results, after, ran, kept⟩ := @alone_rebuildEach bigInteger store
    (Draft.empty.queried store.log.length) (rollUp now store.log) (by
      intro row member
      obtain ⟨-, total⟩ := mem_rollUp member
      have total : row.quantityTotal = counterTotal store.rows row.counter :=
        total.trans (inStep.consistent row.counter).symm
      refine ⟨?_, total⟩
      rw [total]
      exact inStep.fitting.total (by decide) row.counter)
  have ended : (rollupUsage now).alone (usageColumns bigInteger) store Draft.empty = .ok (1, after) := by
    rw [rollupUsage, Script.alone_bind, Script.alone_select]
    have same : (store.under Draft.empty).log = store.log := List.append_nil _
    rw [same]
    change (_ >>= _ : UsageScript _).alone _ _ _ = _
    rw [Script.alone_bind, ran]
    rfl
  rw [Script.after_of_ok ended]
  exact kept counter

end Rollup

theorem used_of_events {counter : CounterKey} {entries : List UsageEntry} {event : UsageEvent}
    (events : entries.filterMap UsageEntry.event? = [event]) :
    used counter entries = if event.counter = counter then event.quantity else 0 := by
  rw [← used_event, used, used, countedBy, countedBy, events]
  rfl

/-- A record in the month of its instant keeps counters and events together. -/
theorem TimedRecord.after_consistent {store : UsageStore} {timed : TimedRecord}
    (kind : timed.call.readings.kind = some .counter) (same : timed.occurredAt.SameMonth)
    (inStep : InStep store) : InStep (TimedRecord.after store timed) := by
  obtain ⟨fitting, consistent⟩ := inStep
  rw [TimedRecord.after, recordAt_eq_record same]
  rcases metered_or_same timed.organization
    (.record { timed.call with occurredAt := some timed.occurredAt.instant }) kind fitting with
    unchanged | ⟨-, holds, metered⟩
  · rw [MeterCall.script] at unchanged
    rw [unchanged]
    exact ⟨fitting, consistent⟩
  · refine ⟨metered.fitting fitting (by decide) holds, fun counter => ?_⟩
    obtain ⟨sent, log, events, -⟩ := metered.log
    rw [MeterCall.script] at metered log
    rw [metered.total, log, used_append, consistent, used_of_events events]
    congr 1
    exact if_congr eq_comm rfl rfl

/-- The bucket of the live counter is the bucket of the rollup exactly while the clock of the
event is in the month UTC is in; and where it is, for every event of a run, the rollup
reproduces the counters whenever it runs. -/
theorem live_bucket_is_rollup_bucket_iff (datetime : AwareDatetime) :
    (datetime.monthBucket = monthBucket datetime.instant ↔ datetime.SameMonth) ∧
    ∀ (start : UsageStore) (records : List TimedRecord), Fitting bigInteger start →
      Consistent start → (∀ timed ∈ records, timed.call.readings.kind = some .counter) →
      (∀ timed ∈ records, timed.occurredAt.SameMonth) →
      ∀ now, Runs.Always TimedRecord.after (RollupReproduces now) start records := by
  refine ⟨datetime.monthBucket_eq_iff, ?_⟩
  intro start records fitting consistent kinds same now
  have guarded : Runs.Guarded TimedRecord.after (fun _ timed => timed.occurredAt.SameMonth) start
      records := by
    clear fitting consistent kinds
    induction records generalizing start with
    | nil => trivial
    | cons timed rest ih =>
        obtain ⟨here, same⟩ := List.forall_mem_cons.mp same
        exact ⟨here, ih _ same⟩
  exact (Runs.always_of_guarded_among TimedRecord.after
    (fun _ _ kind inStep same => TimedRecord.after_consistent kind same inStep)
    (⟨fitting, consistent⟩ : InStep start) kinds guarded).mono
      TimedRecord.after fun _ inStep => rollup_reproduces inStep now

/-! Half an hour before February in UTC, on a clock that is an hour ahead. -/

def eveningAbroad : AwareDatetime := ⟨midnight 31 - 1800 * second, 3600 * second⟩

def tripCall : UsageCall where
  metric := "trips"
  quantity := 2
  readings :=
    { kind := some .counter, now := 0, entitlements := ⟨9, none, none, [], []⟩, nowLater := 0
      entitlementsLater := ⟨9, none, none, [], []⟩, transactionStart := 0
      softThreshold := fun _ ratio => ratio, eventId := 90, aggregateIds := (91, 92) }

/-- The live counter is February's, the rollup's January's, and the rollup counts it again. -/
theorem live_bucket_abroad :
    eveningAbroad.monthBucket ≠ monthBucket eveningAbroad.instant ∧
    ¬ RollupReproduces eveningAbroad.instant
      (TimedRecord.after noUsage ⟨9, tripCall, eveningAbroad⟩) := by
  refine ⟨by decide, fun reproduces => ?_⟩
  exact absurd (reproduces ⟨9, "trips", 0⟩) (by decide +kernel)

/-- At home the two agree. -/
theorem live_bucket_is_rollup_bucket_home :
    Runs.Always TimedRecord.after (RollupReproduces 5) noUsage
      [⟨9, tripCall, ⟨0, 3600 * second⟩⟩, ⟨9, tripCall, ⟨midnight 31, 0⟩⟩] := by
  refine (live_bucket_is_rollup_bucket_iff eveningAbroad).2 noUsage _ (noUsage_fitting _)
    (fun _ => rfl) ?_ ?_ 5
  · simp [tripCall]
  · simp only [List.mem_cons, List.not_mem_nil, or_false, forall_eq_or_imp, forall_eq]
    decide

end SynapseSaas.Metering
