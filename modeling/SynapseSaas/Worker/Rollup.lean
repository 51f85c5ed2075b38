import SynapseSaas.Usage.Models
import Mathlib.Data.List.Dedup

/-! The hourly job that rebuilds the counters of the current month from the
events. It is one statement, `INSERT … SELECT … GROUP BY … ON CONFLICT`: its
query sees what was committed when it began, its upserts take the counters as
they come to them. -/

set_option autoImplicit false

namespace SynapseSaas

open ReadCommitted

structure RolledUp where
  counter : CounterKey
  quantityTotal : Int
  lastEventAt : Option Int
  deriving DecidableEq, Repr

/-- `WHERE occurred_at >= date_trunc('month', now())`. -/
def currentEvents (now : Int) (log : List UsageEntry) : List UsageEvent :=
  (log.filterMap UsageEntry.event?).filter fun event => midnight (monthBucket now) ≤ event.occurredAt

/-- `GROUP BY organization_id, metric, date_trunc('month', occurred_at)`. -/
def rollUp (now : Int) (log : List UsageEntry) : List RolledUp :=
  let events := currentEvents now log
  (events.map (·.counter)).dedup.map fun counter =>
    let group := events.filter (·.counter = counter)
    { counter, quantityTotal := (group.map (·.quantity)).sum
      lastEventAt := (group.map (·.occurredAt)).max? }

def rebuildCounter (row : RolledUp) : UsageScript (Option CounterRow) :=
  writeCounter row.counter fun
    | none => some ⟨row.quantityTotal, none, row.lastEventAt⟩
    | some old => some { old with
        quantityTotal := row.quantityTotal
        lastEventAt := row.lastEventAt }

def rollupUsage (now : Int) : UsageScript Nat := do
  let rows ← Script.select fun store : UsageStore => rollUp now store.log
  let _ ← Script.each rebuildCounter rows
  return 1

theorem monthBucket_le_iff (now instant : Int) :
    midnight (monthBucket now) ≤ instant ↔ monthBucket now ≤ monthBucket instant := by
  rw [midnight_le_iff, monthBucket, monthBucket, firstOfMonth, firstOfMonth,
    Calendar.firstDay_strictMono.le_iff_le, Calendar.le_monthOf_iff]

/-- A group is all the events of its counter: it starts in the current month or
later, and so do they. -/
theorem mem_rollUp {now : Int} {log : List UsageEntry} {row : RolledUp}
    (member : row ∈ rollUp now log) :
    monthBucket now ≤ row.counter.periodStart ∧ row.quantityTotal = used row.counter log := by
  simp only [rollUp, List.mem_map, List.mem_dedup] at member
  obtain ⟨counter, ⟨event, here, rfl⟩, rfl⟩ := member
  have current : monthBucket now ≤ monthBucket event.occurredAt := by
    rw [← monthBucket_le_iff]
    simpa using (List.mem_filter.mp here).2
  have whole : (currentEvents now log).filter (·.counter = event.counter) =
      countedBy event.counter log := by
    rw [currentEvents, List.filter_filter, countedBy]
    apply List.filter_congr
    intro other _
    by_cases same : other.counter = event.counter
    · have bucket : monthBucket other.occurredAt = monthBucket event.occurredAt :=
        congrArg CounterKey.periodStart same
      simp [same, monthBucket_le_iff, bucket, current]
    · simp [same]
  refine ⟨current, ?_⟩
  simp only [whole]
  rfl

/-- A rollup under way: what it wrote so far are the sums of the log it read. -/
structure RollingUp (now : Int) (read : List UsageEntry) (store : UsageStore)
    (draft : UsageDraft) : Prop where
  entries : draft.entries = []
  since_le : draft.since ≤ store.log.length
  read_eq : store.log.take draft.since = read
  keys : ∀ key, draft.rows (.idempotency key) = none
  totals : ∀ counter row, draft.rows (.counter counter) = some row →
    row.quantityTotal = used counter read ∧ monthBucket now ≤ counter.periodStart

/-- What a rollup read of the counters it rebuilt is still all there is. -/
def Fresh (store : UsageStore) (draft : UsageDraft) : Prop :=
  ∀ counter row, draft.rows (.counter counter) = some row →
    used counter (store.log.drop draft.since) = 0

namespace RollingUp

variable {now : Int} {read : List UsageEntry} {store : UsageStore} {draft : UsageDraft}

theorem put (rolling : RollingUp now read store draft) {counter : CounterKey} {row : CounterRow}
    (total : row.quantityTotal = used counter read) (current : monthBucket now ≤ counter.periodStart) :
    RollingUp now read store (draft.put (.counter counter) row) where
  entries := rolling.entries
  since_le := rolling.since_le
  read_eq := rolling.read_eq
  keys key := by
    rw [put_counter_key]
    exact rolling.keys key
  totals other written here := by
    by_cases same : other = counter
    · subst same
      rw [put_counter_self] at here
      cases here
      exact ⟨total, current⟩
    · rw [put_counter_other draft row same] at here
      exact rolling.totals other written here

theorem log_eq (rolling : RollingUp now read store draft) : (store.under draft).log = store.log := by
  rw [Store.under_log, rolling.entries, List.append_nil]

theorem key_eq (rolling : RollingUp now read store draft) (key : IdempotencyKey) :
    (store.under draft).rows (.idempotency key) = store.rows (.idempotency key) :=
  Store.under_rows_of_none (rolling.keys key)

/-- What is committed now is what was read, and what came since. -/
theorem used_eq (rolling : RollingUp now read store draft) (counter : CounterKey) :
    used counter store.log = used counter read + used counter (store.log.drop draft.since) := by
  have split := congrArg (used counter) (List.take_append_drop draft.since store.log)
  rw [used_append, rolling.read_eq] at split
  exact split.symm

end RollingUp

end SynapseSaas
