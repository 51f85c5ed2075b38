import SynapseSaas.Foundation.Alone
import SynapseSaas.Usage.Accounting

/-! Metering one call at a time: what a call leaves in the counters, the keys and the log
when no other transaction runs beside it. -/

set_option autoImplicit false

namespace SynapseSaas.Metering

open ReadCommitted UsageService

/-- The columns that hold quantities and totals, by what fits them. -/
def usageColumns (fits : Int → Bool) : Columns UsageKey.Row UsageEntry Failure where
  row
    | .counter _, row => if fits row.quantityTotal then none else some (.other .invalidData)
    | .idempotency _, row =>
        if fits row.quantity ∧ row.totalAfter.all fits then none else some (.other .invalidData)
  entry
    | .event event => if fits event.quantity then none else some (.other .invalidData)
    | .outbox _ => none

abbrev Counters := CounterKey → Option CounterRow

def countersOf (store : UsageStore) : Counters := fun counter => store.rows (.counter counter)

/-- The month of the clock when the soft limit is checked. -/
def clockCounter (organization : Nat) (call : UsageCall) : CounterKey :=
  ⟨organization, call.metric, monthBucket call.readings.nowLater⟩

/-- The mark a total of the call makes, where it makes one. -/
def softMark (organization : Nat) (call : UsageCall) (total : Int) (counters : Counters) :
    Option CounterRow :=
  match softThreshold call with
  | none => none
  | some (_, threshold) =>
      if total < threshold then none
      else softMarked call.readings.transactionStart (counters (clockCounter organization call))

def marked (organization : Nat) (call : UsageCall) (total : Int) (counters : Counters) : Counters :=
  match softMark organization call total counters with
  | none => counters
  | some row => Function.update counters (clockCounter organization call) (some row)

/-- The counters after the increment of the call. -/
def raised (organization : Nat) (call : UsageCall) (occurredAt : Int) (counters : Counters) :
    Counters :=
  let counter : CounterKey := ⟨organization, call.metric, monthBucket occurredAt⟩
  Function.update counters counter (counted call.quantity occurredAt (counters counter))

def totalAfter (organization : Nat) (call : UsageCall) (occurredAt : Int) (store : UsageStore) : Int :=
  counterTotal store.rows ⟨organization, call.metric, monthBucket occurredAt⟩ + call.quantity

def isSoftLimit : UsageEntry → Bool
  | .event _ => false
  | .outbox sent => sent.eventType = "usage.soft_limit_reached"

section Statements

variable {fits : Int → Bool} {committed : UsageStore} {draft : UsageDraft} {organization : Nat}
  {call : UsageCall} {total : Int}

/-- The counters hold what their columns can. -/
def Fitting (fits : Int → Bool) (store : UsageStore) : Prop :=
  ∀ counter row, store.rows (.counter counter) = some row → fits row.quantityTotal

theorem alone_assertCounterMetric (kind : call.readings.kind = some .counter) :
    (assertCounterMetric call).alone (usageColumns fits) committed draft = .ok ((), draft) := by
  rw [assertCounterMetric, kind]
  rfl

theorem alone_insertEvent {occurredAt : Int} (quantity : fits call.quantity) :
    (insertEvent organization call occurredAt).alone (usageColumns fits) committed draft =
      .ok (call.readings.eventId, draft.add (.event
        ⟨call.readings.eventId, organization, call.metric, call.quantity, occurredAt,
          call.idempotencyKey, call.properties.getD []⟩)) := by
  rw [insertEvent, Script.alone_bind, Script.alone_insert (by simp [usageColumns, quantity])]
  rfl

theorem alone_insertEvent_error {occurredAt : Int} (quantity : fits call.quantity = false) :
    (insertEvent organization call occurredAt).alone (usageColumns fits) committed draft =
      .error (.other .invalidData) := by
  have refused : (usageColumns fits).entry (.event
      ⟨call.readings.eventId, organization, call.metric, call.quantity, occurredAt,
        call.idempotencyKey, call.properties.getD []⟩) = some (.other .invalidData) := by
    simp [usageColumns, quantity]
  rw [insertEvent, Script.alone_bind, Script.alone_insert_error refused]
  rfl

theorem incrementCounter_eq (organization : Nat) (metric : String) (quantity occurredAt : Int) :
    incrementCounter organization metric quantity occurredAt = (do
      let written ← writeCounter ⟨organization, metric, monthBucket occurredAt⟩
        (counted quantity occurredAt)
      match written with
      | none => .fail (.other .noResult)
      | some row => return row.quantityTotal) := by
  unfold incrementCounter
  congr 2

/-- The increment returns the total it leaves. -/
theorem alone_incrementCounter {metric : String} {quantity occurredAt : Int} {row : CounterRow}
    (proposed : fits quantity) (row_eq : counted quantity occurredAt ((committed.under draft).rows
      (.counter ⟨organization, metric, monthBucket occurredAt⟩)) = some row)
    (holds : fits row.quantityTotal) :
    (incrementCounter organization metric quantity occurredAt).alone (usageColumns fits) committed
        draft =
      .ok (row.quantityTotal,
        draft.put (.counter ⟨organization, metric, monthBucket occurredAt⟩) row) := by
  rw [incrementCounter_eq, Script.alone_bind, writeCounter,
    Script.alone_execute_some (by simp [counted, usageColumns, proposed]) row_eq
      (by simp [usageColumns, holds])]
  rfl

theorem alone_incrementCounter_error {metric : String} {quantity occurredAt : Int} {row : CounterRow}
    (proposed : fits quantity) (row_eq : counted quantity occurredAt ((committed.under draft).rows
      (.counter ⟨organization, metric, monthBucket occurredAt⟩)) = some row)
    (refused : fits row.quantityTotal = false) :
    (incrementCounter organization metric quantity occurredAt).alone (usageColumns fits) committed
        draft = .error (.other .invalidData) := by
  have refused : (usageColumns fits).row
      (.counter ⟨organization, metric, monthBucket occurredAt⟩) row = some (.other .invalidData) := by
    simp [usageColumns, refused]
  rw [incrementCounter_eq, Script.alone_bind, writeCounter,
    Script.alone_execute_error (by simp [counted, usageColumns, proposed]) row_eq refused]
  rfl

theorem countersOf_put (counter : CounterKey) (row : CounterRow) :
    countersOf (committed.under (draft.put (.counter counter) row)) =
      Function.update (countersOf (committed.under draft)) counter (some row) := by
  funext other
  by_cases same : other = counter
  · subst same
    rw [Function.update_self]
    exact Store.under_rows_of_some (put_counter_self draft row)
  · rw [Function.update_of_ne same]
    simp only [countersOf, Store.under, put_counter_other draft row same]

theorem countersOf_add (entry : UsageEntry) :
    countersOf (committed.under (draft.add entry)) = countersOf (committed.under draft) := rfl

theorem countersOf_put_key (key : IdempotencyKey) (row : IdempotencyRow) :
    countersOf (committed.under (draft.put (.idempotency key) row)) =
      countersOf (committed.under draft) := by
  funext other
  simp only [countersOf, Store.under, put_key_counter]

theorem softMarked_some {instant : Int} {found : Option CounterRow} {row : CounterRow}
    (changed : softMarked instant found = some row) :
    ∃ old, found = some old ∧ old.softLimitNotifiedAt = none ∧
      row = { old with softLimitNotifiedAt := some instant } := by
  cases found with
  | none => cases changed
  | some old =>
      simp only [softMarked, Option.isNone_iff_eq_none] at changed
      split at changed
      · rename_i unmarked
        cases changed
        exact ⟨old, rfl, unmarked, rfl⟩
      · cases changed

/-- Marking a counter that fits its column. -/
theorem alone_maybeEmitSoftLimit (total : Int) (fitting : ∀ row, (committed.under draft).rows
      (.counter (clockCounter organization call)) = some row → fits row.quantityTotal) :
    ∃ after, (maybeEmitSoftLimit organization call total).alone (usageColumns fits) committed draft =
        .ok ((), after) ∧
      countersOf (committed.under after) =
        marked organization call total (countersOf (committed.under draft)) ∧
      (∀ key, after.rows (.idempotency key) = draft.rows (.idempotency key)) ∧
      ∃ sent, after.entries = draft.entries ++ sent ∧ sent.filterMap UsageEntry.event? = [] ∧
        sent.countP isSoftLimit =
          (softMark organization call total (countersOf (committed.under draft))).toList.length := by
  unfold maybeEmitSoftLimit marked softMark
  cases softThreshold call with
  | none => exact ⟨draft, rfl, rfl, fun _ => rfl, [], by simp, rfl, rfl⟩
  | some limit =>
      obtain ⟨limit, threshold⟩ := limit
      dsimp only
      split
      · exact ⟨draft, rfl, rfl, fun _ => rfl, [], by simp, rfl, rfl⟩
      · rw [Script.alone_bind]
        change ∃ after, (Script.alone _ _ (writeCounter (clockCounter organization call)
          (softMarked call.readings.transactionStart)) draft >>= _) = _ ∧ _
        cases changed : softMarked call.readings.transactionStart
            ((committed.under draft).rows (.counter (clockCounter organization call))) with
        | none =>
            have same : softMarked call.readings.transactionStart
                (countersOf (committed.under draft) (clockCounter organization call)) = none := changed
            rw [writeCounter, Script.alone_execute_none rfl changed, same]
            exact ⟨draft, rfl, rfl, fun _ => rfl, [], by simp, rfl, rfl⟩
        | some row =>
            have same : softMarked call.readings.transactionStart
                (countersOf (committed.under draft) (clockCounter organization call)) =
                  some row := changed
            have holds : (usageColumns fits).row (.counter (clockCounter organization call)) row =
                none := by
              obtain ⟨old, found, -, rfl⟩ := softMarked_some changed
              simp [usageColumns, fitting old found]
            rw [writeCounter, Script.alone_execute_some rfl changed holds, same]
            refine ⟨_, rfl, ?_, ?_, [_], rfl, rfl, rfl⟩
            · exact countersOf_put _ _
            · intro key
              simp

theorem reserveIdempotency_eq (organization : Nat) (key metric : String) (quantity : Int) :
    reserveIdempotency organization key metric quantity = (do
      let row ← writeKey ⟨organization, key⟩ (keyReserved metric quantity)
      return row.isSome) := by
  unfold reserveIdempotency
  congr 2

theorem settleIdempotency_eq (organization : Nat) (key : String) (eventId : Nat) (total : Int) :
    settleIdempotency organization key eventId total = (do
      let _ ← writeKey ⟨organization, key⟩ (keySettled eventId total)
      return ()) := by
  unfold settleIdempotency
  congr 2

/-- A key the transaction reserved is settled. -/
theorem alone_settle (eventId : Nat) (settles : fits total)
    (reserved : ∀ key, call.key organization = some key →
      ∃ row, (committed.under draft).rows (.idempotency key) = some row ∧ fits row.quantity) :
    ∃ after, (settle organization call eventId total).alone (usageColumns fits) committed draft =
        .ok ((), after) ∧
      countersOf (committed.under after) = countersOf (committed.under draft) ∧
      after.entries = draft.entries ∧
      ∀ key, ((committed.under after).rows (.idempotency key)).isSome =
        ((committed.under draft).rows (.idempotency key)).isSome := by
  unfold settle
  cases named : call.idempotencyKey with
  | none => exact ⟨draft, rfl, rfl, rfl, fun _ => rfl⟩
  | some key =>
      obtain ⟨row, found, holds⟩ := reserved ⟨organization, key⟩ (by simp [UsageCall.key, named])
      dsimp only
      have settled : keySettled eventId total
          ((committed.under draft).rows (.idempotency ⟨organization, key⟩)) =
            some { row with eventId := some eventId, totalAfter := some total } := by
        rw [found]
        rfl
      have written : (settleIdempotency organization key eventId total).alone (usageColumns fits)
          committed draft = .ok ((), draft.put (.idempotency ⟨organization, key⟩)
            { row with eventId := some eventId, totalAfter := some total }) := by
        rw [settleIdempotency_eq, Script.alone_bind, writeKey,
          Script.alone_execute_some rfl settled (by simp [usageColumns, holds, settles])]
        rfl
      refine ⟨_, written, countersOf_put_key _ _, rfl, ?_⟩
      intro other
      by_cases same : other = ⟨organization, key⟩
      · subst same
        rw [Store.under_rows_of_some (put_key_self ..), found]
        rfl
      · simp only [Store.under, put_key_other draft _ same]

/-- The keys of the call have not been seen. -/
def Fresh (store : UsageStore) (organization : Nat) (call : UsageCall) : Prop :=
  ∀ key, call.key organization = some key → store.rows (.idempotency key) = none

/-- What a transaction starts from that reserved its key, where it has one. -/
def opened (organization : Nat) (call : UsageCall) : UsageDraft :=
  match call.idempotencyKey with
  | none => Draft.empty
  | some key => Draft.empty.put (.idempotency ⟨organization, key⟩)
      ⟨call.metric, call.quantity, none, none⟩

theorem opened_counters : countersOf (committed.under (opened organization call)) =
    countersOf committed := by
  unfold opened
  cases call.idempotencyKey with
  | none => rfl
  | some key =>
      rw [countersOf_put_key]
      rfl

theorem opened_entries : (opened organization call).entries = [] := by
  unfold opened
  cases call.idempotencyKey <;> rfl

theorem opened_self {key : IdempotencyKey} (named : call.key organization = some key) :
    (opened organization call).rows (.idempotency key) =
      some ⟨call.metric, call.quantity, none, none⟩ := by
  simp only [UsageCall.key, Option.map_eq_some_iff] at named
  obtain ⟨key, named, rfl⟩ := named
  rw [opened, named]
  exact put_key_self ..

theorem opened_other {key : IdempotencyKey} (apart : call.key organization ≠ some key) :
    (opened organization call).rows (.idempotency key) = none := by
  unfold opened
  cases named : call.idempotencyKey with
  | none => rfl
  | some own =>
      refine put_key_other _ _ fun same => apart ?_
      simp [UsageCall.key, named, same]

section Unless

variable {fresh : UsageScript UsageResult} {replayed : UsageResult → UsageResult}

theorem alone_unlessReplayed (unseen : Fresh committed organization call)
    (quantity : fits call.quantity) :
    (unlessReplayed organization call fresh replayed).alone (usageColumns fits) committed
        Draft.empty =
      fresh.alone (usageColumns fits) committed (opened organization call) := by
  unfold unlessReplayed opened
  cases named : call.idempotencyKey with
  | none => rfl
  | some key =>
      have vacant : (committed.under Draft.empty).rows (.idempotency ⟨organization, key⟩) = none :=
        unseen _ (by simp [UsageCall.key, named])
      have reserved : keyReserved call.metric call.quantity
          ((committed.under Draft.empty).rows (.idempotency ⟨organization, key⟩)) =
            some ⟨call.metric, call.quantity, none, none⟩ := by
        rw [vacant]
        rfl
      have written : (reserveIdempotency organization key call.metric call.quantity).alone
          (usageColumns fits) committed Draft.empty =
            .ok (true, Draft.empty.put (.idempotency ⟨organization, key⟩)
              ⟨call.metric, call.quantity, none, none⟩) := by
        rw [reserveIdempotency_eq, Script.alone_bind, writeKey, Script.alone_execute_some
          (by simp [keyReserved, usageColumns, quantity]) reserved (by simp [usageColumns, quantity])]
        rfl
      dsimp only
      rw [Script.alone_bind, written]
      rfl

/-- A quantity its column cannot hold fails the request, a replay too. -/
theorem alone_unlessReplayed_error (quantity : fits call.quantity = false)
    (fails : ∀ draft, fresh.alone (usageColumns fits) committed draft = .error (.other .invalidData)) :
    (unlessReplayed organization call fresh replayed).alone (usageColumns fits) committed
        Draft.empty = .error (.other .invalidData) := by
  unfold unlessReplayed
  cases call.idempotencyKey with
  | none => exact fails _
  | some key =>
      have refused : (keyReserved call.metric call.quantity none).bind
          ((usageColumns fits).row (.idempotency ⟨organization, key⟩)) =
            some (.other .invalidData) := by
        simp [keyReserved, usageColumns, quantity]
      have written : (reserveIdempotency organization key call.metric call.quantity).alone
          (usageColumns fits) committed Draft.empty = .error (.other .invalidData) := by
        rw [reserveIdempotency_eq, Script.alone_bind, writeKey, Script.alone_execute_refused refused]
        rfl
      dsimp only
      rw [Script.alone_bind, written]
      rfl

/-- A replay answers from the row of its key and writes nothing. -/
theorem alone_unlessReplayed_seen {key : IdempotencyKey} {row : IdempotencyRow}
    (quantity : fits call.quantity) (named : call.key organization = some key)
    (seen : committed.rows (.idempotency key) = some row) :
    ∃ after, (unlessReplayed organization call fresh replayed).alone (usageColumns fits) committed
        Draft.empty = .ok (replayed ⟨row.metric, row.quantity, row.totalAfter.getD 0,
          none, none, none, true⟩, after) ∧ committed.under after = committed := by
  simp only [UsageCall.key, Option.map_eq_some_iff] at named
  obtain ⟨key, named, rfl⟩ := named
  have read : (committed.under Draft.empty).rows (.idempotency ⟨organization, key⟩) = some row := by
    rw [Store.under_rows_of_none rfl, seen]
  have kept : keyReserved call.metric call.quantity
      ((committed.under Draft.empty).rows (.idempotency ⟨organization, key⟩)) = none := by
    rw [read]
    rfl
  have idle : (reserveIdempotency organization key call.metric call.quantity).alone
      (usageColumns fits) committed Draft.empty = .ok (false, Draft.empty) := by
    rw [reserveIdempotency_eq, Script.alone_bind, writeKey, Script.alone_execute_none
      (by simp [keyReserved, usageColumns, quantity]) kept]
    rfl
  refine ⟨Draft.empty.queried committed.log.length, ?_, ?_⟩
  · simp only [unlessReplayed, named]
    rw [Script.alone_bind, idle]
    change Script.alone _ _ (replayIdempotent organization key >>= _) _ = _
    rw [Script.alone_bind, replayIdempotent, Script.alone_bind, selectKey, Script.alone_select, read]
    rfl
  · simp [Store.under]

end Unless

variable {occurredAt : Int}

/-- The draft once the event is inserted and counted. -/
def counting (organization : Nat) (call : UsageCall) (occurredAt : Int) (row : CounterRow) :
    UsageDraft :=
  ((opened organization call).add (.event (call.event organization occurredAt))).put
    (.counter ⟨organization, call.metric, monthBucket occurredAt⟩) row

theorem counting_counters {row : CounterRow}
    (row_eq : counted call.quantity occurredAt (committed.rows
      (.counter ⟨organization, call.metric, monthBucket occurredAt⟩)) = some row) :
    countersOf (committed.under (counting organization call occurredAt row)) =
      raised organization call occurredAt (countersOf committed) := by
  rw [counting, countersOf_put, countersOf_add, opened_counters, raised, ← row_eq]
  rfl

/-- What a counted call leaves: its month raised, the month of the clock marked where the
total reached the threshold, its key seen, its event logged. -/
structure Metered (organization : Nat) (call : UsageCall) (occurredAt : Int)
    (before after : UsageStore) : Prop where
  counters : countersOf after =
    marked organization call (totalAfter organization call occurredAt before)
      (raised organization call occurredAt (countersOf before))
  keys : ∀ key, (after.rows (.idempotency key)).isSome ↔
    (before.rows (.idempotency key)).isSome ∨ call.key organization = some key
  log : ∃ sent, after.log = before.log ++ sent ∧
    sent.filterMap UsageEntry.event? = [call.event organization occurredAt] ∧
    sent.countP isSoftLimit =
      (softMark organization call (totalAfter organization call occurredAt before)
        (raised organization call occurredAt (countersOf before))).toList.length

/-- The first sight of a call, up to its marks. -/
theorem alone_counting (fitting : Fitting fits committed) {row : CounterRow}
    (row_eq : counted call.quantity occurredAt (committed.rows
      (.counter ⟨organization, call.metric, monthBucket occurredAt⟩)) = some row)
    (holds : fits row.quantityTotal) :
    ∃ after, (maybeEmitSoftLimit organization call row.quantityTotal).alone (usageColumns fits)
        committed (counting organization call occurredAt row) = .ok ((), after) ∧
      countersOf (committed.under after) = marked organization call row.quantityTotal
        (raised organization call occurredAt (countersOf committed)) ∧
      (∀ key, after.rows (.idempotency key) = (opened organization call).rows (.idempotency key)) ∧
      after.entries.filterMap UsageEntry.event? = [call.event organization occurredAt] ∧
        after.entries.countP isSoftLimit = (softMark organization call row.quantityTotal
          (raised organization call occurredAt (countersOf committed))).toList.length := by
  have counters := counting_counters row_eq
  have still : ∀ other, (committed.under (counting organization call occurredAt row)).rows
      (.counter (clockCounter organization call)) = some other → fits other.quantityTotal := by
    intro other found
    have found : raised organization call occurredAt (countersOf committed)
        (clockCounter organization call) = some other := by
      rw [← counters]
      exact found
    unfold raised at found
    by_cases same : clockCounter organization call =
        ⟨organization, call.metric, monthBucket occurredAt⟩
    · rw [same, Function.update_self] at found
      cases row_eq.symm.trans found
      exact holds
    · rw [Function.update_of_ne same] at found
      exact fitting _ _ found
  obtain ⟨after, ran, marks, keys, sent, entries, events, soft⟩ :=
    alone_maybeEmitSoftLimit row.quantityTotal still
  rw [counters] at marks soft
  refine ⟨after, ran, marks, ?_, ?_, ?_⟩
  · intro key
    rw [keys, counting]
    simp
  · rw [entries, counting, Draft.put_entries, Draft.add_entries, opened_entries]
    simp [events, UsageEntry.event?]
  · rw [entries, counting, Draft.put_entries, Draft.add_entries, opened_entries]
    simp [soft, isSoftLimit]

/-- What is left to settle, and what the commit makes of it. -/
theorem metered_of_settled (eventId : Nat) (marking : UsageDraft)
    (quantity : fits call.quantity) (holds : fits total)
    (marks : countersOf (committed.under marking) =
      marked organization call (totalAfter organization call occurredAt committed)
        (raised organization call occurredAt (countersOf committed)))
    (keys : ∀ key, marking.rows (.idempotency key) =
      (opened organization call).rows (.idempotency key))
    (events : marking.entries.filterMap UsageEntry.event? = [call.event organization occurredAt])
    (soft : marking.entries.countP isSoftLimit =
      (softMark organization call (totalAfter organization call occurredAt committed)
        (raised organization call occurredAt (countersOf committed))).toList.length) :
    ∃ after, (settle organization call eventId total).alone (usageColumns fits) committed marking =
        .ok ((), after) ∧ Metered organization call occurredAt committed (committed.under after) := by
  have reserved : ∀ key, call.key organization = some key → ∃ row,
      (committed.under marking).rows (.idempotency key) = some row ∧ fits row.quantity := by
    intro key named
    exact ⟨_, Store.under_rows_of_some ((keys key).trans (opened_self named)), quantity⟩
  obtain ⟨after, ran, counters, kept, seen⟩ := alone_settle eventId holds reserved
  refine ⟨after, ran, counters.trans marks, ?_, marking.entries, ?_, events, soft⟩
  · intro key
    rw [seen]
    by_cases named : call.key organization = some key
    · rw [Store.under_rows_of_some ((keys key).trans (opened_self named))]
      simp [named]
    · rw [Store.under_rows_of_none ((keys key).trans (opened_other named))]
      simp [named]
  · rw [Store.under_log, kept]

/-- The row the increment of the call leaves. -/
theorem counted_row (committed : UsageStore) (organization : Nat) (call : UsageCall)
    (occurredAt : Int) : ∃ row, counted call.quantity occurredAt (committed.rows
        (.counter ⟨organization, call.metric, monthBucket occurredAt⟩)) = some row ∧
      row.quantityTotal = totalAfter organization call occurredAt committed := by
  obtain ⟨row, row_eq⟩ := Option.ne_none_iff_exists'.mp
    (counted_ne_none call.quantity occurredAt (committed.rows
      (.counter ⟨organization, call.metric, monthBucket occurredAt⟩)))
  exact ⟨row, row_eq, counted_total row_eq⟩

theorem opened_counter (entry : UsageEntry) (counter : CounterKey) :
    (committed.under ((opened organization call).add entry)).rows (.counter counter) =
      committed.rows (.counter counter) :=
  congrFun opened_counters counter

section Counted

variable {rest : Nat → Int → UsageScript UsageResult} {replayed : UsageResult → UsageResult}

/-- What a call does first where its key is new: its event and its month. -/
def first (organization : Nat) (call : UsageCall) (occurredAt : Int)
    (rest : Nat → Int → UsageScript UsageResult) : UsageScript UsageResult := do
  let eventId ← insertEvent organization call occurredAt
  let total ← incrementCounter organization call.metric call.quantity occurredAt
  rest eventId total

theorem alone_first (unseen : Fresh committed organization call) (quantity : fits call.quantity)
    {row : CounterRow} (row_eq : counted call.quantity occurredAt (committed.rows
      (.counter ⟨organization, call.metric, monthBucket occurredAt⟩)) = some row)
    (holds : fits row.quantityTotal) :
    (unlessReplayed organization call (first organization call occurredAt rest) replayed).alone
        (usageColumns fits) committed Draft.empty =
      (rest call.readings.eventId row.quantityTotal).alone (usageColumns fits) committed
        (counting organization call occurredAt row) := by
  rw [← opened_counter (.event (call.event organization occurredAt))] at row_eq
  rw [alone_unlessReplayed unseen quantity, first, Script.alone_bind, alone_insertEvent quantity]
  change (_ >>= _ : UsageScript _).alone _ _ ((opened organization call).add (.event
    (call.event organization occurredAt))) = _
  rw [Script.alone_bind, alone_incrementCounter quantity row_eq holds]
  rfl

/-- A quantity that its column cannot hold fails the request. -/
theorem alone_first_refused (quantity : fits call.quantity = false) :
    (unlessReplayed organization call (first organization call occurredAt rest) replayed).alone
        (usageColumns fits) committed Draft.empty = .error (.other .invalidData) := by
  refine alone_unlessReplayed_error quantity fun draft => ?_
  rw [first, Script.alone_bind, alone_insertEvent_error quantity]
  rfl

/-- So does a total that its column cannot hold, where the key is new. -/
theorem alone_first_spilt (unseen : Fresh committed organization call)
    (quantity : fits call.quantity)
    (spills : fits (totalAfter organization call occurredAt committed) = false) :
    (unlessReplayed organization call (first organization call occurredAt rest) replayed).alone
        (usageColumns fits) committed Draft.empty = .error (.other .invalidData) := by
  obtain ⟨row, row_eq, total_eq⟩ := counted_row committed organization call occurredAt
  rw [← total_eq] at spills
  rw [← opened_counter (.event (call.event organization occurredAt))] at row_eq
  rw [alone_unlessReplayed unseen quantity, first, Script.alone_bind, alone_insertEvent quantity]
  change (_ >>= _ : UsageScript _).alone _ _ ((opened organization call).add (.event
    (call.event organization occurredAt))) = _
  rw [Script.alone_bind, alone_incrementCounter_error quantity row_eq spills]
  rfl

end Counted

/-- The answer to a counted call. -/
def answer (organization : Nat) (call : UsageCall) (occurredAt : Int) (store : UsageStore) :
    UsageResult where
  metric := call.metric
  quantity := call.quantity
  total := totalAfter organization call occurredAt store
  deduplicated := false

/-- The rest of `record`, and the call as a whole. -/
def recorded (organization : Nat) (call : UsageCall) (eventId : Nat) (total : Int) :
    UsageScript UsageResult := do
  maybeEmitSoftLimit organization call total
  settle organization call eventId total
  return { metric := call.metric, quantity := call.quantity, total, deduplicated := false }

theorem alone_record_eq (kind : call.readings.kind = some .counter) :
    (record organization call).alone (usageColumns fits) committed Draft.empty =
      (unlessReplayed organization call
        (first organization call (call.occurredAt.getD call.readings.now)
          (recorded organization call)) id).alone (usageColumns fits) committed Draft.empty := by
  rw [record, Script.alone_bind, alone_assertCounterMetric kind]
  rfl

/-- A call whose quantity and total fit is recorded. -/
theorem alone_record (kind : call.readings.kind = some .counter)
    (unseen : Fresh committed organization call) (fitting : Fitting fits committed)
    (quantity : fits call.quantity) (now : call.occurredAt.getD call.readings.now = occurredAt)
    (holds : fits (totalAfter organization call occurredAt committed)) :
    ∃ after, (record organization call).alone (usageColumns fits) committed Draft.empty =
        .ok (answer organization call occurredAt committed, after) ∧
      Metered organization call occurredAt committed (committed.under after) := by
  obtain ⟨row, row_eq, total_eq⟩ := counted_row committed organization call occurredAt
  rw [← total_eq] at holds
  obtain ⟨marking, marks_ran, marks, keys, events, soft⟩ := alone_counting fitting row_eq holds
  rw [total_eq] at marks soft
  obtain ⟨after, settled, metered⟩ := metered_of_settled call.readings.eventId
    marking quantity holds marks keys events soft
  refine ⟨after, ?_, metered⟩
  rw [alone_record_eq kind, now, alone_first unseen quantity row_eq holds, recorded,
    Script.alone_bind, marks_ran]
  change (_ >>= _ : UsageScript _).alone _ _ marking = _
  rw [Script.alone_bind, settled, answer, ← total_eq]
  rfl

/-- A replay is answered as before and leaves everything as it is. -/
theorem alone_record_seen (kind : call.readings.kind = some .counter) {key : IdempotencyKey}
    {row : IdempotencyRow} (quantity : fits call.quantity)
    (named : call.key organization = some key)
    (seen : committed.rows (.idempotency key) = some row) :
    ∃ answer after, (record organization call).alone (usageColumns fits) committed Draft.empty =
      .ok (answer, after) ∧ committed.under after = committed := by
  rw [alone_record_eq kind]
  exact ⟨_, alone_unlessReplayed_seen quantity named seen⟩

/-- The limit of a call lets a total pass, or its breach raises. -/
theorem alone_enforceLimit :
    (enforceLimit call total).alone (usageColumns fits) committed draft = .ok ((), draft) ∧
        (∀ limit, limitValue call = some limit → total ≤ limit) ∨
      (∃ error : DomainError, (enforceLimit call total).alone (usageColumns fits) committed draft =
        .error (.domain error) ∧ error.cls = .usageLimitExceeded) ∧
        ∃ limit, limitValue call = some limit ∧ limit < total := by
  unfold enforceLimit
  cases limitValue call with
  | none => exact .inl ⟨rfl, by simp⟩
  | some limit =>
      dsimp only
      split
      · rename_i above
        exact .inr ⟨⟨_, rfl, rfl⟩, limit, rfl, above⟩
      · rename_i within
        refine .inl ⟨rfl, ?_⟩
        rintro other ⟨⟩
        omega

theorem alone_emitHardLimit :
    ∃ after, (emitHardLimit organization call total).alone (usageColumns fits) committed draft =
        .ok ((), after) ∧ after.rows = draft.rows ∧
      ∃ sent, after.entries = draft.entries ++ sent ∧ sent.filterMap UsageEntry.event? = [] ∧
        sent.countP isSoftLimit = 0 := by
  unfold emitHardLimit
  cases limitValue call with
  | none => exact ⟨draft, rfl, rfl, [], by simp, rfl, rfl⟩
  | some limit =>
      dsimp only
      split
      · exact ⟨_, rfl, rfl, [_], rfl, rfl, rfl⟩
      · exact ⟨draft, rfl, rfl, [], by simp, rfl, rfl⟩

/-- The rest of `consume`, and the call as a whole. -/
def consumed (organization : Nat) (call : UsageCall) (eventId : Nat) (total : Int) :
    UsageScript UsageResult := do
  enforceLimit call total
  maybeEmitSoftLimit organization call total
  emitHardLimit organization call total
  settle organization call eventId total
  return withLimit call
    { metric := call.metric, quantity := call.quantity, total, deduplicated := false }

theorem alone_consume_eq (kind : call.readings.kind = some .counter) :
    (consume organization call).alone (usageColumns fits) committed Draft.empty =
      (unlessReplayed organization call
        (first organization call call.readings.now (consumed organization call))
        (withLimit call)).alone (usageColumns fits) committed Draft.empty := by
  rw [consume, Script.alone_bind, alone_assertCounterMetric kind]
  rfl

/-- A total within the limit is consumed. -/
theorem alone_consume (kind : call.readings.kind = some .counter)
    (unseen : Fresh committed organization call) (fitting : Fitting fits committed)
    (quantity : fits call.quantity)
    (holds : fits (totalAfter organization call call.readings.now committed))
    (within : ∀ limit, limitValue call = some limit →
      totalAfter organization call call.readings.now committed ≤ limit) :
    ∃ after, (consume organization call).alone (usageColumns fits) committed Draft.empty =
        .ok (withLimit call (answer organization call call.readings.now committed), after) ∧
      Metered organization call call.readings.now committed (committed.under after) := by
  obtain ⟨row, row_eq, total_eq⟩ := counted_row committed organization call call.readings.now
  rw [← total_eq] at holds within
  obtain ⟨marking, marks_ran, marks, keys, events, soft⟩ := alone_counting fitting row_eq holds
  rw [total_eq] at marks soft
  obtain ⟨hard, hard_ran, hard_rows, told, hard_entries, hard_events, hard_soft⟩ :=
    @alone_emitHardLimit fits committed marking organization call row.quantityTotal
  have hard_counters : countersOf (committed.under hard) = countersOf (committed.under marking) := by
    funext counter
    simp only [countersOf, Store.under, hard_rows]
  obtain ⟨after, settled, metered⟩ := metered_of_settled call.readings.eventId
    hard quantity holds (hard_counters.trans marks) (by simpa only [hard_rows] using keys)
    (by rw [hard_entries, List.filterMap_append, events, hard_events, List.append_nil])
    (by rw [hard_entries, List.countP_append, soft, hard_soft, Nat.add_zero])
  refine ⟨after, ?_, metered⟩
  rw [alone_consume_eq kind, alone_first unseen quantity row_eq holds, consumed, Script.alone_bind]
  rcases @alone_enforceLimit fits committed
    (counting organization call call.readings.now row) call row.quantityTotal with
    ⟨passes, -⟩ | ⟨-, limit, limited, above⟩
  · rw [passes]
    change (_ >>= _ : UsageScript _).alone _ _ (counting organization call _ row) = _
    rw [Script.alone_bind, marks_ran]
    change (_ >>= _ : UsageScript _).alone _ _ marking = _
    rw [Script.alone_bind, hard_ran]
    change (_ >>= _ : UsageScript _).alone _ _ hard = _
    rw [Script.alone_bind, settled, answer, ← total_eq]
    rfl
  · have := within limit limited
    omega

/-- A total above the limit is refused, and nothing of the call is kept. -/
theorem alone_consume_refused (kind : call.readings.kind = some .counter)
    (unseen : Fresh committed organization call) (quantity : fits call.quantity)
    (holds : fits (totalAfter organization call call.readings.now committed)) {limit : Int}
    (limited : limitValue call = some limit)
    (above : limit < totalAfter organization call call.readings.now committed) :
    ∃ error : DomainError, (consume organization call).alone (usageColumns fits) committed
        Draft.empty = .error (.domain error) ∧ error.cls = .usageLimitExceeded := by
  obtain ⟨row, row_eq, total_eq⟩ := counted_row committed organization call call.readings.now
  rw [← total_eq] at holds above
  rcases @alone_enforceLimit fits committed
    (counting organization call call.readings.now row) call row.quantityTotal with
    ⟨-, passes⟩ | ⟨⟨error, raised, cls⟩, -⟩
  · have := passes limit limited
    omega
  · refine ⟨error, ?_, cls⟩
    rw [alone_consume_eq kind, alone_first unseen quantity row_eq holds, consumed,
      Script.alone_bind, raised]
    rfl

theorem alone_consume_seen (kind : call.readings.kind = some .counter) {key : IdempotencyKey}
    {row : IdempotencyRow} (quantity : fits call.quantity)
    (named : call.key organization = some key)
    (seen : committed.rows (.idempotency key) = some row) :
    ∃ answer after, (consume organization call).alone (usageColumns fits) committed Draft.empty =
      .ok (answer, after) ∧ committed.under after = committed := by
  rw [alone_consume_eq kind]
  exact ⟨_, alone_unlessReplayed_seen quantity named seen⟩

end Statements

section Metered

variable {fits : Int → Bool} {before after : UsageStore} {organization : Nat} {call : UsageCall}
  {occurredAt reached : Int} {counters : Counters}

/-- A total as it stands in the counters. -/
def Counters.total (counters : Counters) (counter : CounterKey) : Int :=
  ((counters counter).map (·.quantityTotal)).getD 0

theorem counterTotal_eq (store : UsageStore) (counter : CounterKey) :
    counterTotal store.rows counter = Counters.total (countersOf store) counter := by
  unfold counterTotal Counters.total countersOf
  cases store.rows (.counter counter) <;> rfl

theorem softMark_some {row : CounterRow} (marks : softMark organization call reached counters = some row) :
    ∃ old, counters (clockCounter organization call) = some old ∧ old.softLimitNotifiedAt = none ∧
      row = { old with softLimitNotifiedAt := some call.readings.transactionStart } := by
  unfold softMark at marks
  split at marks
  · cases marks
  · split at marks
    · cases marks
    · exact softMarked_some marks

/-- Marks leave every total. -/
theorem marked_total (counter : CounterKey) :
    Counters.total (marked organization call reached counters) counter =
      Counters.total counters counter := by
  unfold marked
  cases marks : softMark organization call reached counters with
  | none => rfl
  | some row =>
      obtain ⟨old, found, -, rfl⟩ := softMark_some marks
      by_cases same : counter = clockCounter organization call
      · subst same
        simp [Counters.total, found]
      · simp [Counters.total, same]

theorem raised_total (counter : CounterKey) :
    Counters.total (raised organization call occurredAt counters) counter =
      Counters.total counters counter +
        if counter = ⟨organization, call.metric, monthBucket occurredAt⟩ then call.quantity
        else 0 := by
  unfold raised
  by_cases same : counter = ⟨organization, call.metric, monthBucket occurredAt⟩
  · subst same
    cases found : counters ⟨organization, call.metric, monthBucket occurredAt⟩ with
    | none => simp [Counters.total, counted, found]
    | some row => simp [Counters.total, counted, found]
  · simp [Counters.total, same]

/-- A counted call adds its quantity to the total of its month and to no other. -/
theorem Metered.total (metered : Metered organization call occurredAt before after)
    (counter : CounterKey) : counterTotal after.rows counter = counterTotal before.rows counter +
      if counter = ⟨organization, call.metric, monthBucket occurredAt⟩ then call.quantity else 0 := by
  rw [counterTotal_eq, counterTotal_eq, metered.counters, marked_total, raised_total]

theorem Fitting.total (fitting : Fitting fits before) (zero : fits 0) (counter : CounterKey) :
    fits (counterTotal before.rows counter) := by
  unfold counterTotal
  cases found : before.rows (.counter counter) with
  | none => exact zero
  | some row => exact fitting counter row found

theorem Metered.fitting (metered : Metered organization call occurredAt before after)
    (fitting : Fitting fits before) (zero : fits 0)
    (holds : fits (totalAfter organization call occurredAt before)) : Fitting fits after := by
  intro counter row found
  have total := metered.total counter
  rw [counterTotal_of_some found] at total
  rw [total]
  split
  · rename_i same
    subst same
    exact holds
  · rw [Int.add_zero]
    exact fitting.total zero counter

end Metered

end SynapseSaas.Metering
