import SynapseSaas.Foundation.Completion
import SynapseSaas.Usage.Transactions

/-! A call whose key nobody has used, with nobody in its way: it counts, unless it
enforces a limit it would pass. -/

set_option autoImplicit false

namespace SynapseSaas

open ReadCommitted UsageService

variable {committed : UsageStore} {draft : UsageDraft} {organization : Nat} {call : UsageCall}
  {key : IdempotencyKey} {occurredAt total : Int} {free : UsageKey → Prop}

theorem completes_writeCounter {counter : CounterKey}
    {change : Option CounterRow → Option CounterRow}
    {reaches : Option CounterRow → UsageDraft → Prop}
    (available : free (.counter counter))
    (unchanged : change ((committed.under draft).rows (.counter counter)) = none →
      reaches none draft)
    (written : ∀ row, change ((committed.under draft).rows (.counter counter)) = some row →
      reaches (some row) (draft.put (.counter counter) row)) :
    Completes committed free reaches (writeCounter counter change) draft :=
  @Completes.execute UsageKey UsageKey.Row UsageEntry Failure _ committed free draft
    (.counter counter) change reaches available unchanged written

theorem completes_writeKey {key : IdempotencyKey}
    {change : Option IdempotencyRow → Option IdempotencyRow}
    {reaches : Option IdempotencyRow → UsageDraft → Prop}
    (available : free (.idempotency key))
    (unchanged : change ((committed.under draft).rows (.idempotency key)) = none →
      reaches none draft)
    (written : ∀ row, change ((committed.under draft).rows (.idempotency key)) = some row →
      reaches (some row) (draft.put (.idempotency key) row)) :
    Completes committed free reaches (writeKey key change) draft :=
  @Completes.execute UsageKey UsageKey.Row UsageEntry Failure _ committed free draft
    (.idempotency key) change reaches available unchanged written

/-- A key reserved in the draft, with the events inserted under it. -/
structure Opened (key : IdempotencyKey) (events : List UsageEvent) (draft : UsageDraft) : Prop where
  row : ∃ row : IdempotencyRow, draft.rows (.idempotency key) = some row
  events : carrying key draft.entries = events

theorem Opened.putCounter {events : List UsageEvent} (opened : Opened key events draft)
    (counter : CounterKey) (row : CounterRow) :
    Opened key events (draft.put (.counter counter) row) where
  row := by
    rw [put_counter_key]
    exact opened.row
  events := opened.events

theorem Opened.addOutbox {events : List UsageEvent} (opened : Opened key events draft)
    (event : OutboxEvent) : Opened key events (draft.add (.outbox event)) where
  row := opened.row
  events := by
    rw [Draft.add_entries, carrying_append, carrying_outbox, List.append_nil]
    exact opened.events

/-- What neither a counter nor an outbox event takes away from a draft. -/
structure Lasting (kept : UsageDraft → Prop) : Prop where
  counter : ∀ draft counter row, kept draft → kept (draft.put (.counter counter) row)
  outbox : ∀ draft event, kept draft → kept (draft.add (.outbox event))

theorem Opened.lasting (events : List UsageEvent) : Lasting (Opened key events) where
  counter _ counter row opened := opened.putCounter counter row
  outbox _ event opened := opened.addOutbox event

theorem Lasting.trivial : Lasting fun _ => True where
  counter _ _ _ _ := True.intro
  outbox _ _ _ := True.intro

theorem completes_reserve {name metric : String} {quantity : Int}
    (available : free (.idempotency ⟨organization, name⟩))
    (unseen : committed.rows (.idempotency ⟨organization, name⟩) = none) :
    Completes committed free (fun first draft => first = true ∧ Opened ⟨organization, name⟩ [] draft ∧
        ∀ counter, draft.rows (.counter counter) = none)
      (reserveIdempotency organization name metric quantity) Draft.empty := by
  have nothing : (committed.under Draft.empty).rows (.idempotency ⟨organization, name⟩) = none := by
    rw [Store.under_rows_of_none rfl, unseen]
  have written : Completes committed free (fun row draft => row.isSome = true ∧
        Opened ⟨organization, name⟩ [] draft ∧ ∀ counter, draft.rows (.counter counter) = none)
      (writeKey ⟨organization, name⟩ (keyReserved metric quantity)) Draft.empty := by
    apply completes_writeKey available
    · rw [nothing]
      intro impossible
      cases impossible
    · rw [nothing]
      rintro row ⟨⟩
      refine ⟨rfl, ⟨⟨_, put_key_self ..⟩, rfl⟩, fun counter => ?_⟩
      rw [put_key_counter]
      rfl
  apply Completes.bind written
  intro row draft reached
  exact reached

theorem completes_insertEvent (opened : Opened key [] draft)
    (named : call.key organization = some key)
    (untouched : ∀ counter, draft.rows (.counter counter) = none) :
    Completes committed free (fun eventId draft => eventId = call.readings.eventId ∧
        Opened key [call.event organization occurredAt] draft ∧
        ∀ counter, draft.rows (.counter counter) = none)
      (insertEvent organization call occurredAt) draft := by
  refine ⟨rfl, ⟨opened.row, ?_⟩, untouched⟩
  rw [Draft.add_entries, carrying_append, opened.events]
  exact (carrying_event (call.event organization occurredAt)).trans (if_pos named)

theorem completes_incrementCounter {kept : UsageDraft → Prop} (lasting : Lasting kept)
    (available : ∀ period, free (.counter ⟨organization, call.metric, period⟩))
    (here : kept draft) (untouched : ∀ counter, draft.rows (.counter counter) = none) :
    Completes committed free (fun total draft =>
        total = counterTotal committed.rows ⟨organization, call.metric, monthBucket occurredAt⟩ +
          call.quantity ∧ kept draft)
      (incrementCounter organization call.metric call.quantity occurredAt) draft := by
  -- The draft has not touched the counter, so the statement reads the committed row.
  have same : (committed.under draft).rows
      (.counter ⟨organization, call.metric, monthBucket occurredAt⟩) =
        committed.rows (.counter ⟨organization, call.metric, monthBucket occurredAt⟩) :=
    Store.under_rows_of_none (untouched _)
  have written : Completes committed free (fun written draft => ∃ row : CounterRow,
        written = some row ∧ row.quantityTotal =
          counterTotal committed.rows ⟨organization, call.metric, monthBucket occurredAt⟩ +
            call.quantity ∧ kept draft)
      (writeCounter ⟨organization, call.metric, monthBucket occurredAt⟩
        (counted call.quantity occurredAt)) draft := by
    apply completes_writeCounter (available _)
    · intro nothing
      exact absurd nothing (counted_ne_none _ _ _)
    · intro row changed
      refine ⟨row, rfl, ?_, lasting.counter draft _ row here⟩
      rw [same] at changed
      exact counted_total changed
  apply Completes.bind written
  rintro written draft ⟨row, rfl, total, here⟩
  exact ⟨total, here⟩

theorem completes_maybeEmitSoftLimit {kept : UsageDraft → Prop} (lasting : Lasting kept)
    (available : ∀ period, free (.counter ⟨organization, call.metric, period⟩))
    (here : kept draft) :
    Completes committed free (fun _ draft => kept draft)
      (maybeEmitSoftLimit organization call total) draft := by
  unfold maybeEmitSoftLimit
  split
  · exact here
  · split
    · exact here
    · have marked : Completes committed free (fun _ draft => kept draft)
          (writeCounter ⟨organization, call.metric, monthBucket call.readings.nowLater⟩
            (softMarked call.readings.transactionStart)) draft := by
        apply completes_writeCounter (available _)
        · intro _
          exact here
        · intro row _
          exact lasting.counter draft _ row here
      apply Completes.bind marked
      intro marked draft here
      split
      · exact lasting.outbox draft _ here
      · exact here

theorem completes_emitHardLimit {kept : UsageDraft → Prop} (lasting : Lasting kept)
    (here : kept draft) :
    Completes committed free (fun _ draft => kept draft)
      (emitHardLimit organization call total) draft := by
  unfold emitHardLimit
  split
  · exact here
  · split
    · exact lasting.outbox draft _ here
    · exact here

theorem completes_settle {name : String} {events : List UsageEvent} {eventId : Nat}
    (named : call.idempotencyKey = some name)
    (available : free (.idempotency ⟨organization, name⟩))
    (opened : Opened ⟨organization, name⟩ events draft) :
    Completes committed free (fun _ draft => carrying ⟨organization, name⟩ draft.entries = events)
      (settle organization call eventId total) draft := by
  have written : Completes committed free
      (fun _ draft => carrying ⟨organization, name⟩ draft.entries = events)
      (settleIdempotency organization name eventId total) draft := by
    have marked : Completes committed free
        (fun _ draft => carrying ⟨organization, name⟩ draft.entries = events)
        (writeKey ⟨organization, name⟩ (keySettled eventId total)) draft := by
      apply completes_writeKey available
      · intro _
        exact opened.events
      · intro row _
        exact opened.events
    apply Completes.bind marked
    intro _ draft carried
    exact carried
  simpa only [settle, named] using written

/-- The rows a call may write are free: its key's and its metric's counters. -/
structure Clear (free : UsageKey → Prop) (organization : Nat) (call : UsageCall)
    (key : IdempotencyKey) : Prop where
  key : free (.idempotency key)
  counters : ∀ period, free (.counter ⟨organization, call.metric, period⟩)

/-- What an attempt that counts leaves: its event under the key, and an answer
that says so. -/
def Counts (organization : Nat) (call : UsageCall) (key : IdempotencyKey) (result : UsageResult)
    (draft : UsageDraft) : Prop :=
  result.deduplicated = false ∧
    ∃ occurredAt, carrying key draft.entries = [call.event organization occurredAt]

theorem completes_assertCounterMetric {rest : UsageScript UsageResult}
    {reaches : UsageResult → UsageDraft → Prop} (counts : call.readings.kind = some .counter)
    (completes : Completes committed free reaches rest draft) :
    Completes committed free reaches (do assertCounterMetric call; rest) draft := by
  unfold assertCounterMetric
  rw [counts]
  exact completes

theorem completes_unlessReplayed {fresh : UsageScript UsageResult}
    {replayed : UsageResult → UsageResult} {reaches : UsageResult → UsageDraft → Prop}
    (named : call.key organization = some key) (available : free (.idempotency key))
    (unseen : committed.rows (.idempotency key) = none)
    (begun : ∀ draft, Opened key [] draft → (∀ counter, draft.rows (.counter counter) = none) →
      Completes committed free reaches fresh draft) :
    Completes committed free reaches (unlessReplayed organization call fresh replayed) Draft.empty := by
  obtain ⟨name, here, rfl⟩ := Option.map_eq_some_iff.mp named
  unfold unlessReplayed
  rw [here]
  apply Completes.bind (completes_reserve available unseen)
  rintro first draft ⟨rfl, opened, untouched⟩
  exact begun draft opened untouched

theorem completes_answer {result : UsageResult} {eventId : Nat}
    (named : call.key organization = some key) (available : free (.idempotency key))
    (counted : result.deduplicated = false)
    (opened : Opened key [call.event organization occurredAt] draft) :
    Completes committed free (Counts organization call key)
      (do settle organization call eventId total; return result : UsageScript _) draft := by
  obtain ⟨name, here, rfl⟩ := Option.map_eq_some_iff.mp named
  apply Completes.bind (completes_settle here available opened)
  intro _ draft carried
  exact ⟨counted, occurredAt, carried⟩

theorem completes_record (named : call.key organization = some key)
    (clear : Clear free organization call key) (unseen : committed.rows (.idempotency key) = none)
    (counts : call.readings.kind = some .counter) :
    Completes committed free (Counts organization call key) (record organization call) Draft.empty := by
  apply completes_assertCounterMetric counts
  apply completes_unlessReplayed named clear.key unseen
  intro draft opened untouched
  apply Completes.bind (completes_insertEvent opened named untouched)
  rintro eventId draft ⟨rfl, opened, untouched⟩
  apply Completes.bind (completes_incrementCounter (Opened.lasting _) clear.counters opened untouched)
  rintro total draft ⟨-, opened⟩
  apply Completes.bind (completes_maybeEmitSoftLimit (Opened.lasting _) clear.counters opened)
  intro _ draft opened
  exact completes_answer named clear.key rfl opened

/-- The call stays within the limit it finds. -/
def Affordable (committed : UsageStore) (organization : Nat) (call : UsageCall) : Prop :=
  ∀ limit, limitValue call = some limit →
    counterTotal committed.rows ⟨organization, call.metric, monthBucket call.readings.now⟩ +
      call.quantity ≤ limit

theorem completes_consume (named : call.key organization = some key)
    (clear : Clear free organization call key) (unseen : committed.rows (.idempotency key) = none)
    (counts : call.readings.kind = some .counter)
    (affordable : Affordable committed organization call) :
    Completes committed free (Counts organization call key) (consume organization call)
      Draft.empty := by
  apply completes_assertCounterMetric counts
  apply completes_unlessReplayed named clear.key unseen
  intro draft opened untouched
  apply Completes.bind (completes_insertEvent opened named untouched)
  rintro eventId draft ⟨rfl, opened, untouched⟩
  apply Completes.bind (completes_incrementCounter (Opened.lasting _) clear.counters opened untouched)
  rintro total draft ⟨counted, opened⟩
  -- The total is the one the limit affords, so nothing is raised.
  have enforced : Completes committed free
      (fun _ draft => Opened key [call.event organization call.readings.now] draft)
      (enforceLimit call total) draft := by
    unfold enforceLimit
    split
    · exact opened
    · next limit limited =>
        have within := affordable limit limited
        rw [if_neg (by omega)]
        exact opened
  apply Completes.bind enforced
  intro _ draft opened
  apply Completes.bind (completes_maybeEmitSoftLimit (Opened.lasting _) clear.counters opened)
  intro _ draft opened
  apply Completes.bind (completes_emitHardLimit (Opened.lasting _) opened)
  intro _ draft opened
  exact completes_answer named clear.key rfl opened

/-- A request that attempts one call, with the means to: recording needs none. -/
def UsageRequest.Attempts (request : UsageRequest) (committed : UsageStore) (organization : Nat)
    (call : UsageCall) : Prop :=
  match request with
  | .record here calls => here = organization ∧ calls = [call]
  | .consume here only => here = organization ∧ only = call ∧ Affordable committed organization call
  | .consumeMany here calls =>
      here = organization ∧ calls = [call] ∧ Affordable committed organization call
  | .rollup _ => False

theorem completes_attempt {request : UsageRequest}
    (attempts : request.Attempts committed organization call)
    (named : call.key organization = some key) (clear : Clear free organization call key)
    (unseen : committed.rows (.idempotency key) = none)
    (counts : call.readings.kind = some .counter) :
    Completes committed free (fun answer draft => ∃ result, answer = UsageAnswer.results [result] ∧
      Counts organization call key result draft) request.script Draft.empty := by
  -- A batch of one call answers as that call does.
  have alone {method : Nat → UsageCall → UsageScript UsageResult}
      (completes : Completes committed free (Counts organization call key) (method organization call)
        Draft.empty) :
      Completes committed free (fun answer draft => ∃ result, answer = UsageAnswer.results [result] ∧
          Counts organization call key result draft)
        (do let results ← Script.each (method organization) [call]; return UsageAnswer.results results)
        Draft.empty := by
    have batch : Completes committed free (fun results draft => ∃ result, results = [result] ∧
          Counts organization call key result draft)
        (Script.each (method organization) [call]) Draft.empty := by
      apply Completes.bind completes
      intro result draft counted
      exact ⟨result, rfl, counted⟩
    apply Completes.bind batch
    rintro results draft ⟨result, rfl, counted⟩
    exact ⟨result, rfl, counted⟩
  cases request with
  | record here calls =>
      obtain ⟨rfl, rfl⟩ := attempts
      exact alone (completes_record named clear unseen counts)
  | consumeMany here calls =>
      obtain ⟨rfl, rfl, affordable⟩ := attempts
      exact alone (completes_consume named clear unseen counts affordable)
  | consume here only =>
      obtain ⟨rfl, rfl, affordable⟩ := attempts
      apply Completes.bind (completes_consume named clear unseen counts affordable)
      intro result draft counted
      exact ⟨result, rfl, counted⟩
  | rollup now => cases attempts

end SynapseSaas
