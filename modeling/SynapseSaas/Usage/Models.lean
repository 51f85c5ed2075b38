import SynapseSaas.Core.Db
import SynapseSaas.Foundation.ReadCommitted

/-! Usage metering: events, the counters limit checks read, and the ledger of
idempotency keys. -/

set_option autoImplicit false

namespace SynapseSaas

open ReadCommitted

inductive MetricKind where
  | counter | gauge
  deriving DecidableEq, Repr

structure UsageEvent where
  id : Nat
  organizationId : Nat
  metric : String
  quantity : Int
  occurredAt : Int
  idempotencyKey : Option String
  properties : List (String × Value)
  deriving DecidableEq, Repr

structure CounterKey where
  organizationId : Nat
  metric : String
  periodStart : Int                  -- the first day of a month
  deriving DecidableEq, Repr

structure CounterRow where
  quantityTotal : Int
  softLimitNotifiedAt : Option Int
  lastEventAt : Option Int
  deriving DecidableEq, Repr

structure IdempotencyKey where
  organizationId : Nat
  idempotencyKey : String
  deriving DecidableEq, Repr

/-- A reservation is settled once it carries its event and the total after it. -/
structure IdempotencyRow where
  metric : String
  quantity : Int
  totalAfter : Option Int
  eventId : Option Nat
  deriving DecidableEq, Repr

/-- Primary keys of the two tables that are updated in place. -/
inductive UsageKey where
  | counter (key : CounterKey)
  | idempotency (key : IdempotencyKey)
  deriving DecidableEq, Repr

@[reducible] def UsageKey.Row : UsageKey → Type
  | .counter _ => CounterRow
  | .idempotency _ => IdempotencyRow

/-- Rows of the tables that are only inserted into. -/
inductive UsageEntry where
  | event (event : UsageEvent)
  | outbox (event : OutboxEvent)
  deriving DecidableEq, Repr

abbrev UsageStore := Store UsageKey.Row UsageEntry
abbrev UsageDraft := Draft UsageKey.Row UsageEntry
abbrev UsageScript := Script UsageKey.Row UsageEntry Failure

/-- `INSERT … ON CONFLICT` or `UPDATE … WHERE` on one counter. -/
def writeCounter (counter : CounterKey) (change : Option CounterRow → Option CounterRow) :
    UsageScript (Option CounterRow) :=
  Script.execute (UsageKey.counter counter) change

def writeKey (key : IdempotencyKey) (change : Option IdempotencyRow → Option IdempotencyRow) :
    UsageScript (Option IdempotencyRow) :=
  Script.execute (UsageKey.idempotency key) change

def selectKey (key : IdempotencyKey) : UsageScript (Option IdempotencyRow) :=
  Script.select fun store : UsageStore => store.rows (.idempotency key)

/-- The counter an event is counted by: its month's. -/
def UsageEvent.counter (event : UsageEvent) : CounterKey :=
  ⟨event.organizationId, event.metric, monthBucket event.occurredAt⟩

def UsageEvent.key (event : UsageEvent) : Option IdempotencyKey :=
  event.idempotencyKey.map fun key => ⟨event.organizationId, key⟩

def UsageEntry.event? : UsageEntry → Option UsageEvent
  | .event row => some row
  | .outbox _ => none

def counterTotal (rows : (key : UsageKey) → Option key.Row) (counter : CounterKey) : Int :=
  match rows (.counter counter) with
  | some row => row.quantityTotal
  | none => 0

theorem counterTotal_of_some {rows : (key : UsageKey) → Option key.Row} {counter : CounterKey}
    {row : CounterRow} (here : rows (.counter counter) = some row) :
    counterTotal rows counter = row.quantityTotal := by
  simp [counterTotal, here]

theorem counterTotal_congr {first second : (key : UsageKey) → Option key.Row}
    {counter : CounterKey} (same : first (.counter counter) = second (.counter counter)) :
    counterTotal first counter = counterTotal second counter := by
  rw [counterTotal, counterTotal, same]

section Puts

variable (draft : UsageDraft) {counter other : CounterKey} {key next : IdempotencyKey}

@[simp] theorem put_counter_self (row : CounterRow) :
    (draft.put (.counter counter) row).rows (.counter counter) = some row :=
  Function.update_self ..

theorem put_counter_other (row : CounterRow) (apart : other ≠ counter) :
    (draft.put (.counter counter) row).rows (.counter other) = draft.rows (.counter other) :=
  Function.update_of_ne (by simpa using apart) ..

@[simp] theorem put_counter_key (row : CounterRow) :
    (draft.put (.counter counter) row).rows (.idempotency key) = draft.rows (.idempotency key) := by
  simp [Draft.put]

@[simp] theorem put_key_self (row : IdempotencyRow) :
    (draft.put (.idempotency key) row).rows (.idempotency key) = some row :=
  Function.update_self ..

theorem put_key_other (row : IdempotencyRow) (apart : next ≠ key) :
    (draft.put (.idempotency key) row).rows (.idempotency next) = draft.rows (.idempotency next) :=
  Function.update_of_ne (by simpa using apart) ..

@[simp] theorem put_key_counter (row : IdempotencyRow) :
    (draft.put (.idempotency key) row).rows (.counter counter) = draft.rows (.counter counter) := by
  simp [Draft.put]

end Puts

/-- The events a counter counts. -/
def countedBy (counter : CounterKey) (entries : List UsageEntry) : List UsageEvent :=
  (entries.filterMap UsageEntry.event?).filter (·.counter = counter)

/-- The usage events of a counter add up to. -/
def used (counter : CounterKey) (entries : List UsageEntry) : Int :=
  ((countedBy counter entries).map (·.quantity)).sum

/-- The events that carry an idempotency key. -/
def carrying (key : IdempotencyKey) (entries : List UsageEntry) : List UsageEvent :=
  (entries.filterMap UsageEntry.event?).filter (·.key = some key)

section Entries

variable {counter : CounterKey} {key : IdempotencyKey}

@[simp] theorem used_nil : used counter [] = 0 := rfl

@[simp] theorem used_append (first second : List UsageEntry) :
    used counter (first ++ second) = used counter first + used counter second := by
  simp [used, countedBy, List.filterMap_append, List.filter_append]

@[simp] theorem carrying_append (first second : List UsageEntry) :
    carrying key (first ++ second) = carrying key first ++ carrying key second := by
  simp [carrying, List.filterMap_append, List.filter_append]

@[simp] theorem used_outbox (event : OutboxEvent) : used counter [.outbox event] = 0 := rfl
@[simp] theorem carrying_outbox (event : OutboxEvent) : carrying key [.outbox event] = [] := rfl

theorem used_event (event : UsageEvent) :
    used counter [.event event] = if event.counter = counter then event.quantity else 0 := by
  by_cases counted : event.counter = counter
  · simp [used, countedBy, UsageEntry.event?, counted]
  · simp [used, countedBy, UsageEntry.event?, counted]

theorem carrying_event (event : UsageEvent) :
    carrying key [.event event] = if event.key = some key then [event] else [] := by
  by_cases carried : event.key = some key
  · simp [carrying, UsageEntry.event?, carried]
  · simp [carrying, UsageEntry.event?, carried]

end Entries

end SynapseSaas
