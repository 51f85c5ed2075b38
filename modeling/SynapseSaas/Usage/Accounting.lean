import SynapseSaas.Foundation.Interference
import SynapseSaas.Usage.Service

/-! The books usage transactions keep: what a database satisfies between them,
and what one transaction knows of its own draft while others commit. -/

set_option autoImplicit false

namespace SynapseSaas

open ReadCommitted

/-! What the statements of a call make of a row. -/

namespace UsageService

def counted (quantity occurredAt : Int) : Option CounterRow → Option CounterRow
  | none => some ⟨quantity, none, some occurredAt⟩
  | some row => some { row with
      quantityTotal := row.quantityTotal + quantity
      lastEventAt := some occurredAt }

def softMarked (transactionStart : Int) : Option CounterRow → Option CounterRow
  | none => none
  | some row =>
      if row.softLimitNotifiedAt.isNone then
        some { row with softLimitNotifiedAt := some transactionStart }
      else none

def keyReserved (metric : String) (quantity : Int) : Option IdempotencyRow → Option IdempotencyRow
  | none => some ⟨metric, quantity, none, none⟩
  | some _ => none

def keySettled (eventId : Nat) (total : Int) : Option IdempotencyRow → Option IdempotencyRow
  | none => none
  | some row => some { row with eventId := some eventId, totalAfter := some total }

section Rows

variable {rows : (key : UsageKey) → Option key.Row} {counter : CounterKey}

theorem counted_ne_none (quantity occurredAt : Int) (found : Option CounterRow) :
    counted quantity occurredAt found ≠ none := by
  cases found <;> simp [counted]

/-- An increment counts on from the total there is. -/
theorem counted_total {quantity occurredAt : Int} {row : CounterRow}
    (changed : counted quantity occurredAt (rows (.counter counter)) = some row) :
    row.quantityTotal = counterTotal rows counter + quantity := by
  unfold counterTotal
  cases found : rows (.counter counter) with
  | none =>
      rw [found] at changed
      cases changed
      exact (Int.zero_add _).symm
  | some old =>
      rw [found] at changed
      cases changed
      rfl

/-- The mark leaves the total. -/
theorem softMarked_total {instant : Int} {row : CounterRow}
    (changed : softMarked instant (rows (.counter counter)) = some row) :
    row.quantityTotal = counterTotal rows counter := by
  unfold counterTotal
  cases found : rows (.counter counter) with
  | none =>
      rw [found] at changed
      cases changed
  | some old =>
      simp only [found, softMarked] at changed
      split at changed
      · cases changed
        rfl
      · cases changed

theorem keyReserved_eq_some {metric : String} {quantity : Int} {found : Option IdempotencyRow}
    {row : IdempotencyRow} (changed : keyReserved metric quantity found = some row) :
    found = none ∧ row = ⟨metric, quantity, none, none⟩ := by
  cases found with
  | none =>
      cases changed
      exact ⟨rfl, rfl⟩
  | some old => cases changed

end Rows

end UsageService

/-- A committed idempotency row is settled by the one event that carries its key. -/
def Settled (row : Option IdempotencyRow) (events : List UsageEvent) : Prop :=
  match row with
  | none => events = []
  | some row => ∃ event total, events = [event] ∧
      row = ⟨event.metric, event.quantity, some total, some event.id⟩

/-- What is being accounted for: the database at the start, the caps in force on
some counters, the idempotency keys that are followed, and when rollups run. -/
structure Terms where
  opening : UsageStore
  cap : CounterKey → Option Int
  tracked : IdempotencyKey → Prop
  rollups : Int → Prop

namespace Terms

variable (terms : Terms)

/-- What was appended since the start. -/
def since (store : UsageStore) : List UsageEntry := store.log.drop terms.opening.log.length

def openingTotal (counter : CounterKey) : Int := counterTotal terms.opening.rows counter

structure Valid (store : UsageStore) : Prop where
  grown : terms.opening.log <+: store.log
  counted : ∀ counter, counterTotal store.rows counter =
    terms.openingTotal counter + used counter (terms.since store)
  capped : ∀ counter limit, terms.cap counter = some limit →
    counterTotal store.rows counter ≤ max limit (terms.openingTotal counter)
  settled : ∀ key, terms.tracked key →
    Settled (store.rows (.idempotency key)) (carrying key store.log)

/-- Nothing is taken back: events stay, and so do the rows of followed keys. -/
structure Grows (before after : UsageStore) : Prop where
  log : before.log <+: after.log
  keys : ∀ key row, terms.tracked key → before.rows (.idempotency key) = some row →
    after.rows (.idempotency key) = some row

def rely : Rely UsageKey.Row UsageEntry where
  valid := terms.Valid
  grows := terms.Grows
  refl _ := ⟨List.prefix_rfl, fun _ _ _ here => here⟩
  trans first second :=
    ⟨first.log.trans second.log,
      fun key row followed here => second.keys key row followed (first.keys key row followed here)⟩

/-- One counter behind its events. -/
def owing (counter : CounterKey) (quantity : Int) : CounterKey → Int :=
  fun other => if counter = other then quantity else 0

/-- A reservation that is not settled yet, with the events inserted under it. -/
structure Reservation where
  key : IdempotencyKey
  metric : String
  quantity : Int
  events : List UsageEvent

/-- The books of a draft: the counters it wrote are behind its events by what is
`uncounted`, and the keys it reserved are settled except for the one `reserved`.
What a key said in `base` it still says. -/
structure Books (base : UsageStore) (uncounted : CounterKey → Int)
    (reserved : Option Reservation) (store : UsageStore) (draft : UsageDraft) : Prop where
  counted : ∀ counter, counterTotal (store.under draft).rows counter + uncounted counter =
    counterTotal store.rows counter + used counter draft.entries
  capped : ∀ counter limit, terms.cap counter = some limit →
    counterTotal (store.under draft).rows counter ≤ max limit (terms.openingTotal counter)
  settled : ∀ key, terms.tracked key → reserved.map (·.key) ≠ some key →
    match draft.rows (.idempotency key) with
    | none => carrying key draft.entries = []
    | some row => store.rows (.idempotency key) = none ∧
        Settled (some row) (carrying key draft.entries)
  reserved : ∀ pending, reserved = some pending →
    store.rows (.idempotency pending.key) = none ∧
    draft.rows (.idempotency pending.key) = some ⟨pending.metric, pending.quantity, none, none⟩ ∧
    (terms.tracked pending.key → base.rows (.idempotency pending.key) = none ∧
      carrying pending.key draft.entries = pending.events)
  kept : ∀ key row, terms.tracked key → base.rows (.idempotency key) = some row →
    (store.under draft).rows (.idempotency key) = some row

end Terms

namespace Terms

variable {terms : Terms} {base store after : UsageStore} {draft : UsageDraft}
  {uncounted : CounterKey → Int} {reserved : Option Reservation}

/-- What a transaction has seen a followed key say, it will see it say. -/
theorem known_later {before : UsageStore} (later : terms.rely.Later draft before after)
    {key : IdempotencyKey} {row : IdempotencyRow} (followed : terms.tracked key)
    (known : (before.under draft).rows (.idempotency key) = some row) :
    (after.under draft).rows (.idempotency key) = some row := by
  cases mine : draft.rows (.idempotency key) with
  | some own =>
      rw [Store.under_rows_of_some mine] at known ⊢
      exact known
  | none =>
      rw [Store.under_rows_of_none mine] at known ⊢
      exact later.grows.keys key row followed known

/-- Other transactions cannot touch the books of a draft: they speak of rows it
holds, and of rows that never change. -/
theorem Books.stable : terms.rely.Stable (terms.Books base uncounted reserved) := by
  intro before after draft valid later books
  have row_kept {key : UsageKey} {row : key.Row} (mine : draft.rows key = some row) :
      (after.under draft).rows key = (before.under draft).rows key := by
    rw [Store.under_rows_of_some mine, Store.under_rows_of_some mine]
  constructor
  · intro counter
    have counted := books.counted counter
    -- A row of the draft is locked; any other may have been counted up meanwhile.
    cases mine : draft.rows (.counter counter) with
    | some row =>
        rw [counterTotal_congr (row_kept mine), counted,
          counterTotal_congr (later.held _ row mine)]
    | none =>
        rw [counterTotal_congr (Store.under_rows_of_none mine)] at counted ⊢
        omega
  · intro counter limit cap
    cases mine : draft.rows (.counter counter) with
    | some row =>
        rw [counterTotal_congr (row_kept mine)]
        exact books.capped counter limit cap
    | none =>
        rw [counterTotal_congr (Store.under_rows_of_none mine)]
        exact later.valid.capped counter limit cap
  · intro key followed closed
    have settled := books.settled key followed closed
    cases mine : draft.rows (.idempotency key) with
    | none =>
        rw [mine] at settled
        exact settled
    | some row =>
        rw [mine] at settled
        exact ⟨(later.held _ row mine).trans settled.1, settled.2⟩
  · intro pending here
    obtain ⟨unseen, mine, followed⟩ := books.reserved pending here
    exact ⟨(later.held _ _ mine).trans unseen, mine, followed⟩
  · intro key row followed here
    exact known_later later followed (books.kept key row followed here)

theorem Valid.since_under (valid : terms.Valid store) :
    terms.since (store.under draft) = terms.since store ++ draft.entries := by
  obtain ⟨rest, split⟩ := valid.grown
  simp [since, ← split]

/-- A transaction whose books are closed may commit. -/
theorem Books.commits (books : terms.Books base (fun _ => 0) none store draft)
    (valid : terms.Valid store) :
    terms.Valid (store.under draft) ∧ terms.Grows store (store.under draft) := by
  refine ⟨⟨?_, ?_, books.capped, ?_⟩, ⟨⟨draft.entries, rfl⟩, ?_⟩⟩
  · exact valid.grown.trans ⟨draft.entries, rfl⟩
  · intro counter
    have here := books.counted counter
    have before := valid.counted counter
    rw [valid.since_under, used_append]
    omega
  · intro key followed
    have before := valid.settled key followed
    -- A key the draft has settled had no event before, since its row was unseen.
    have here := books.settled key followed (by simp)
    rw [Store.under_log, carrying_append]
    cases mine : draft.rows (.idempotency key) with
    | none =>
        rw [mine] at here
        rw [Store.under_rows_of_none mine, show carrying key draft.entries = [] from here,
          List.append_nil]
        exact before
    | some row =>
        rw [mine] at here
        rw [here.1] at before
        rw [Store.under_rows_of_some mine, show carrying key store.log = [] from before,
          List.nil_append]
        exact here.2
  · intro key row followed here
    have mine := books.settled key followed (by simp)
    cases written : draft.rows (.idempotency key) with
    | none => rwa [Store.under_rows_of_none written]
    | some own =>
        rw [written] at mine
        exact absurd (here.symm.trans mine.1) (by simp)

theorem Books.empty (valid : terms.Valid store) :
    terms.Books ⟨fun _ => none, []⟩ (fun _ => 0) none store Draft.empty where
  counted counter := by
    rw [counterTotal_congr (Store.under_rows_of_none rfl)]
    simp
  capped counter limit cap := by
    rw [counterTotal_congr (Store.under_rows_of_none rfl)]
    exact valid.capped counter limit cap
  settled _ _ _ := rfl
  reserved _ impossible := by cases impossible
  kept _ _ _ impossible := by cases impossible

/-- Between calls the books may be kept from any store on whose keys still hold. -/
theorem Books.rebase (books : terms.Books base uncounted none store draft) {other : UsageStore}
    (kept : ∀ key row, terms.tracked key → other.rows (.idempotency key) = some row →
      (store.under draft).rows (.idempotency key) = some row) :
    terms.Books other uncounted none store draft :=
  ⟨books.counted, books.capped, books.settled, fun _ impossible => (by cases impossible), kept⟩

/-! What single writes do to the books. -/

theorem Books.putCounter (books : terms.Books base uncounted reserved store draft)
    {counter : CounterKey} {row : CounterRow} {remaining : CounterKey → Int}
    (elsewhere : ∀ other, other ≠ counter → remaining other = uncounted other)
    (here : row.quantityTotal + remaining counter =
      counterTotal (store.under draft).rows counter + uncounted counter)
    (within : ∀ limit, terms.cap counter = some limit →
      row.quantityTotal ≤ max limit (terms.openingTotal counter)) :
    terms.Books base remaining reserved store (draft.put (.counter counter) row) := by
  have apart {other : CounterKey} (distinct : other ≠ counter) :
      (store.under (draft.put (.counter counter) row)).rows (.counter other) =
        (store.under draft).rows (.counter other) := by
    simp only [Store.under, put_counter_other draft row distinct]
  have keys (key : IdempotencyKey) :
      (store.under (draft.put (.counter counter) row)).rows (.idempotency key) =
        (store.under draft).rows (.idempotency key) := by
    simp only [Store.under, put_counter_key]
  have written : counterTotal (store.under (draft.put (.counter counter) row)).rows counter =
      row.quantityTotal :=
    counterTotal_of_some (Store.under_rows_of_some (put_counter_self draft row))
  constructor
  · intro other
    have counted := books.counted other
    -- Only the counter written owes what its new total says.
    by_cases same : other = counter
    · subst same
      rw [written, Draft.put_entries]
      omega
    · rw [counterTotal_congr (apart same), elsewhere other same]
      exact counted
  · intro other limit cap
    by_cases same : other = counter
    · subst same
      rw [written]
      exact within limit cap
    · rw [counterTotal_congr (apart same)]
      exact books.capped other limit cap
  · intro key followed closed
    rw [put_counter_key]
    exact books.settled key followed closed
  · intro pending here
    rw [put_counter_key]
    exact books.reserved pending here
  · intro key row followed known
    rw [keys]
    exact books.kept key row followed known

theorem Books.queried (books : terms.Books base uncounted reserved store draft) (since : Nat) :
    terms.Books base uncounted reserved store (draft.queried since) :=
  ⟨books.counted, books.capped, books.settled, books.reserved, books.kept⟩

theorem Books.addOutbox (books : terms.Books base uncounted reserved store draft)
    (event : OutboxEvent) :
    terms.Books base uncounted reserved store (draft.add (.outbox event)) where
  counted counter := by
    rw [Draft.add_entries, used_append, used_outbox, Int.add_zero]
    exact books.counted counter
  capped := books.capped
  settled key followed closed := by
    simpa using books.settled key followed closed
  reserved pending here := by
    simpa using books.reserved pending here
  kept := books.kept

end Terms

def UsageCall.key (call : UsageCall) (organization : Nat) : Option IdempotencyKey :=
  call.idempotencyKey.map fun key => ⟨organization, key⟩

/-- The reservation a call works under, after the given events. -/
def UsageCall.reservation (call : UsageCall) (organization : Nat) (events : List UsageEvent) :
    Option Terms.Reservation :=
  (call.key organization).map fun key => ⟨key, call.metric, call.quantity, events⟩

/-- The event a call inserts. -/
def UsageCall.event (call : UsageCall) (organization : Nat) (occurredAt : Int) : UsageEvent where
  id := call.readings.eventId
  organizationId := organization
  metric := call.metric
  quantity := call.quantity
  occurredAt := occurredAt
  idempotencyKey := call.idempotencyKey
  properties := call.properties.getD []

@[simp] theorem UsageCall.event_key (call : UsageCall) (organization : Nat) (occurredAt : Int) :
    (call.event organization occurredAt).key = call.key organization := rfl

@[simp] theorem UsageCall.event_counter (call : UsageCall) (organization : Nat) (occurredAt : Int) :
    (call.event organization occurredAt).counter =
      ⟨organization, call.metric, monthBucket occurredAt⟩ := rfl

@[simp] theorem UsageCall.reservation_key (call : UsageCall) (organization : Nat)
    (events : List UsageEvent) :
    (call.reservation organization events).map (·.key) = call.key organization := by
  simp [UsageCall.reservation, Function.comp_def]

theorem UsageCall.reservation_eq_some {call : UsageCall} {organization : Nat}
    {events : List UsageEvent} {pending : Terms.Reservation} :
    call.reservation organization events = some pending ↔
      ∃ key, call.key organization = some key ∧
        pending = ⟨key, call.metric, call.quantity, events⟩ := by
  simp only [UsageCall.reservation, Option.map_eq_some_iff]
  constructor
  · rintro ⟨key, named, rfl⟩
    exact ⟨key, named, rfl⟩
  · rintro ⟨key, named, rfl⟩
    exact ⟨key, named, rfl⟩

namespace Terms

variable {terms : Terms} {base store after : UsageStore} {draft : UsageDraft}
  {uncounted : CounterKey → Int} {organization : Nat} {call : UsageCall} {occurredAt : Int}

/-- An event is inserted under the reservation of its call and not counted yet. -/
theorem Books.addEvent
    (books : terms.Books base (fun _ => 0) (call.reservation organization []) store draft) :
    terms.Books base
      (owing ⟨organization, call.metric, monthBucket occurredAt⟩ call.quantity)
      (call.reservation organization [call.event organization occurredAt]) store
      (draft.add (.event (call.event organization occurredAt))) where
  counted counter := by
    -- The event is logged before its counter is raised, which is what is owed.
    have counted := books.counted counter
    rw [Draft.add_entries, used_append, used_event, UsageCall.event_counter]
    change counterTotal (store.under draft).rows counter + owing _ _ counter = _
    simp only [owing, UsageCall.event]
    omega
  capped := books.capped
  settled key followed closed := by
    rw [UsageCall.reservation_key] at closed
    have before := books.settled key followed (by rwa [UsageCall.reservation_key])
    rw [Draft.add_entries, carrying_append, carrying_event, UsageCall.event_key, if_neg closed,
      List.append_nil]
    exact before
  reserved pending open_ := by
    obtain ⟨key, named, rfl⟩ := UsageCall.reservation_eq_some.mp open_
    obtain ⟨unseen, mine, followed⟩ := books.reserved ⟨key, call.metric, call.quantity, []⟩
      (UsageCall.reservation_eq_some.mpr ⟨key, named, rfl⟩)
    refine ⟨unseen, mine, fun tracked => ⟨(followed tracked).1, ?_⟩⟩
    rw [Draft.add_entries, carrying_append, (followed tracked).2, carrying_event,
      UsageCall.event_key, if_pos named]
    rfl
  kept := books.kept

section Keys

variable {key : IdempotencyKey} (row : IdempotencyRow)

theorem counterTotal_put_key (counter : CounterKey) :
    counterTotal (store.under (draft.put (.idempotency key) row)).rows counter =
      counterTotal (store.under draft).rows counter :=
  counterTotal_congr (by simp only [Store.under, put_key_counter])

theorem under_put_key_other {other : IdempotencyKey} (apart : other ≠ key) :
    (store.under (draft.put (.idempotency key) row)).rows (.idempotency other) =
      (store.under draft).rows (.idempotency other) := by
  simp only [Store.under, put_key_other draft row apart]

end Keys

/-- The first sight of a key: its row is written, and nothing under it yet. -/
theorem Books.reserve {key : IdempotencyKey} (books : terms.Books base uncounted none store draft)
    (unseen : (store.under draft).rows (.idempotency key) = none) (metric : String)
    (quantity : Int) :
    terms.Books base uncounted (some ⟨key, metric, quantity, []⟩) store
      (draft.put (.idempotency key) ⟨metric, quantity, none, none⟩) := by
  have free : draft.rows (.idempotency key) = none := by
    cases mine : draft.rows (.idempotency key) with
    | none => rfl
    | some row => rw [Store.under_rows_of_some mine] at unseen; cases unseen
  -- A key that was seen at the start would still be seen.
  have unknown (followed : terms.tracked key) : base.rows (.idempotency key) = none := by
    cases known : base.rows (.idempotency key) with
    | none => rfl
    | some row =>
        rw [books.kept key row followed known] at unseen
        cases unseen
  constructor
  · intro counter
    rw [counterTotal_put_key]
    exact books.counted counter
  · intro counter limit cap
    rw [counterTotal_put_key]
    exact books.capped counter limit cap
  · intro other followed closed
    rw [put_key_other draft _ (by simpa using Ne.symm closed)]
    exact books.settled other followed (by simp)
  · rintro pending ⟨⟩
    rw [Store.under_rows_of_none free] at unseen
    refine ⟨unseen, put_key_self .., fun followed => ⟨unknown followed, ?_⟩⟩
    have nothing := books.settled key followed (by simp)
    rw [free] at nothing
    exact nothing
  · intro other row followed known
    have apart : other ≠ key := by
      rintro rfl
      rw [unknown followed] at known
      cases known
    rw [under_put_key_other _ apart]
    exact books.kept other row followed known

/-- A reservation is settled by the event inserted under it. -/
theorem Books.settle {key : IdempotencyKey} {event : UsageEvent}
    (books : terms.Books base uncounted (some ⟨key, event.metric, event.quantity, [event]⟩)
      store draft) (total : Int) :
    terms.Books base uncounted none store (draft.put (.idempotency key)
      ⟨event.metric, event.quantity, some total, some event.id⟩) := by
  obtain ⟨unseen, mine, opened⟩ := books.reserved _ rfl
  constructor
  · intro counter
    rw [counterTotal_put_key]
    exact books.counted counter
  · intro counter limit cap
    rw [counterTotal_put_key]
    exact books.capped counter limit cap
  · intro other followed closed
    -- The key carries its one event now; the other keys are as they were.
    by_cases same : other = key
    · subst same
      rw [put_key_self, Draft.put_entries, (opened followed).2]
      exact ⟨unseen, event, total, rfl, rfl⟩
    · rw [put_key_other draft _ same]
      exact books.settled other followed (by simpa using Ne.symm same)
  · intro pending impossible
    cases impossible
  · intro other row followed known
    have apart : other ≠ key := by
      rintro rfl
      rw [(opened followed).1] at known
      cases known
    rw [under_put_key_other _ apart]
    exact books.kept other row followed known

end Terms

end SynapseSaas
