import SynapseSaas.Usage.Accounting

/-! Every usage call, run beside any others, closes its books and answers what
the row of its key says. -/

set_option autoImplicit false

namespace SynapseSaas

open ReadCommitted UsageService

namespace Terms

/-- The row of the call's key says what the call was answered. -/
def Answers (terms : Terms) (organization : Nat) (call : UsageCall) (result : UsageResult)
    (store : UsageStore) : Prop :=
  ∀ key, call.key organization = some key → terms.tracked key →
    ∃ row : IdempotencyRow, store.rows (.idempotency key) = some row ∧
      row.metric = result.metric ∧ row.quantity = result.quantity ∧
      row.totalAfter = some result.total

/-- Caps bind the calls that count on the capped counters. -/
def Binding (terms : Terms) (organization : Nat) (call : UsageCall) : Prop :=
  ∀ period limit, terms.cap ⟨organization, call.metric, period⟩ = some limit →
    limitValue call = some limit

variable {terms : Terms} {base store : UsageStore} {draft : UsageDraft}
  {reserved : Option Reservation} {organization : Nat} {call : UsageCall}

theorem Binding.of_uncapped (uncapped : ∀ counter, terms.cap counter = none)
    (organization : Nat) (call : UsageCall) : terms.Binding organization call := by
  intro period limit capped
  rw [uncapped] at capped
  cases capped

theorem Answers.stable (result : UsageResult) :
    terms.rely.Stable fun store draft =>
      terms.Answers organization call result (store.under draft) := by
  intro before after draft valid later answers key named followed
  obtain ⟨row, here, said⟩ := answers key named followed
  exact ⟨row, known_later later followed here, said⟩

theorem Answers.grows {after : UsageStore} {result : UsageResult}
    (answers : terms.Answers organization call result store) (grows : terms.Grows store after) :
    terms.Answers organization call result after := by
  intro key named followed
  obtain ⟨row, here, said⟩ := answers key named followed
  exact ⟨row, grows.keys key row followed here, said⟩

/-! The statements of a call, each from the books it finds to the books it leaves. -/

section Statements

variable {rely : Rely UsageKey.Row UsageEntry}

theorem safe_writeCounter {counter : CounterKey} {change : Option CounterRow → Option CounterRow}
    {promised : Option CounterRow → UsageStore → UsageDraft → Prop}
    (stable : ∀ result, rely.Stable (promised result))
    (unchanged : ∀ later, rely.Later draft store later →
      change ((later.under draft).rows (.counter counter)) = none → promised none later draft)
    (written : ∀ later row, rely.Later draft store later →
      change ((later.under draft).rows (.counter counter)) = some row →
      promised (some row) later (draft.put (.counter counter) row)) :
    Safe rely promised (writeCounter counter change) store draft :=
  @Safe.execute UsageKey UsageKey.Row UsageEntry Failure _ rely store draft (.counter counter)
    change promised stable unchanged written

theorem safe_writeKey {key : IdempotencyKey} {change : Option IdempotencyRow → Option IdempotencyRow}
    {promised : Option IdempotencyRow → UsageStore → UsageDraft → Prop}
    (stable : ∀ result, rely.Stable (promised result))
    (unchanged : ∀ later, rely.Later draft store later →
      change ((later.under draft).rows (.idempotency key)) = none → promised none later draft)
    (written : ∀ later row, rely.Later draft store later →
      change ((later.under draft).rows (.idempotency key)) = some row →
      promised (some row) later (draft.put (.idempotency key) row)) :
    Safe rely promised (writeKey key change) store draft :=
  @Safe.execute UsageKey UsageKey.Row UsageEntry Failure _ rely store draft (.idempotency key)
    change promised stable unchanged written

end Statements

theorem safe_reserve {key metric : String} {quantity : Int} (valid : terms.Valid store)
    (books : terms.Books base (fun _ => 0) none store draft) :
    Safe terms.rely (fun first store draft =>
        terms.Books base (fun _ => 0)
          (if first then some ⟨⟨organization, key⟩, metric, quantity, []⟩ else none) store draft)
      (reserveIdempotency organization key metric quantity) store draft := by
  have written : Safe terms.rely (fun row store draft =>
        terms.Books base (fun _ => 0)
          (if row.isSome then some ⟨⟨organization, key⟩, metric, quantity, []⟩ else none) store draft)
      (writeKey ⟨organization, key⟩ (keyReserved metric quantity)) store draft := by
    apply safe_writeKey (fun _ => Books.stable)
    · intro later passed _
      exact books.stable _ _ _ valid passed
    · intro later row passed changed
      obtain ⟨unseen, rfl⟩ := keyReserved_eq_some changed
      exact (books.stable _ _ _ valid passed).reserve unseen metric quantity
  apply Safe.bind valid written
  intro row store draft valid books
  exact Safe.pure Books.stable valid books

/-- A followed key that is seen is settled: the books leave none open. -/
theorem Books.seen_settled (books : terms.Books base (fun _ => 0) none store draft)
    (valid : terms.Valid store) {key : IdempotencyKey} (followed : terms.tracked key)
    {row : IdempotencyRow} (seen : (store.under draft).rows (.idempotency key) = some row) :
    ∃ total, row.totalAfter = some total := by
  have mine := books.settled key followed (by simp)
  cases written : draft.rows (.idempotency key) with
  | none =>
      rw [Store.under_rows_of_none written] at seen
      have settled := valid.settled key followed
      rw [seen] at settled
      obtain ⟨event, total, -, rfl⟩ := settled
      exact ⟨total, rfl⟩
  | some own =>
      rw [Store.under_rows_of_some written] at seen
      cases seen
      rw [written] at mine
      obtain ⟨-, event, total, -, rfl⟩ := mine
      exact ⟨total, rfl⟩

/-- The books of a draft between calls, and what the row of the call's key says. -/
def Concluded (terms : Terms) (base : UsageStore) (organization : Nat) (call : UsageCall)
    (result : UsageResult) (store : UsageStore) (draft : UsageDraft) : Prop :=
  terms.Books base (fun _ => 0) none store draft ∧
    terms.Answers organization call result (store.under draft)

theorem Concluded.stable {result : UsageResult} :
    terms.rely.Stable (terms.Concluded base organization call result) := by
  intro before after draft valid later concluded
  exact ⟨concluded.1.stable _ _ _ valid later, Answers.stable result _ _ _ valid later concluded.2⟩

theorem safe_replay {key : String} (named : call.idempotencyKey = some key)
    (valid : terms.Valid store) (books : terms.Books base (fun _ => 0) none store draft) :
    Safe terms.rely (terms.Concluded base organization call)
      (replayIdempotent organization key) store draft := by
  have selected : Safe terms.rely (fun found store draft =>
        terms.Books base (fun _ => 0) none store draft ∧
          ∀ row, found = some row → terms.tracked ⟨organization, key⟩ →
            (store.under draft).rows (.idempotency ⟨organization, key⟩) = some row)
      (selectKey ⟨organization, key⟩) store draft := by
    apply Safe.select
    · intro found before after draft valid later holds
      exact ⟨holds.1.stable _ _ _ valid later,
        fun row here followed => known_later later followed (holds.2 row here followed)⟩
    · intro later passed
      exact ⟨(books.stable _ _ _ valid passed).queried _, fun row found _ => found⟩
  apply Safe.bind valid selected
  rintro found store draft valid ⟨books, said⟩
  cases found with
  | none => trivial
  | some row =>
      apply Safe.pure Concluded.stable valid
      refine ⟨books, ?_⟩
      intro other mine followed
      simp only [UsageCall.key, named, Option.map_some, Option.some.injEq] at mine
      subst mine
      have seen := said row rfl followed
      -- The key was taken by a call that has ended, so its row tells a total.
      obtain ⟨total, settled⟩ := books.seen_settled valid followed seen
      exact ⟨row, seen, rfl, rfl, by simp [settled]⟩

theorem safe_insertEvent {occurredAt : Int} (valid : terms.Valid store)
    (books : terms.Books base (fun _ => 0) (call.reservation organization []) store draft) :
    Safe terms.rely (fun eventId store draft => eventId = call.readings.eventId ∧
        terms.Books base
          (owing ⟨organization, call.metric, monthBucket occurredAt⟩ call.quantity)
          (call.reservation organization [call.event organization occurredAt]) store draft)
      (insertEvent organization call occurredAt) store draft := by
  intro later passed
  exact ⟨rfl, books.addEvent.stable _ _ _ valid passed⟩

/-- The increment counts the event; the books are closed again if the total it
returns is within the cap. -/
theorem safe_incrementCounter {occurredAt : Int} (valid : terms.Valid store)
    (books : terms.Books base
      (owing ⟨organization, call.metric, monthBucket occurredAt⟩ call.quantity) reserved store draft) :
    Safe terms.rely (fun total store draft =>
        (∀ limit, terms.cap ⟨organization, call.metric, monthBucket occurredAt⟩ = some limit →
          total ≤ limit) →
        terms.Books base (fun _ => 0) reserved store draft)
      (incrementCounter organization call.metric call.quantity occurredAt) store draft := by
  have stable (total : Int) : terms.rely.Stable fun store draft =>
      (∀ limit, terms.cap ⟨organization, call.metric, monthBucket occurredAt⟩ = some limit →
        total ≤ limit) → terms.Books base (fun _ => 0) reserved store draft :=
    fun _ _ _ valid later books within => (books within).stable _ _ _ valid later
  -- The counter found under the lock, not the one read before, is raised.
  have written : Safe terms.rely (fun written store draft =>
        ∃ row : CounterRow, written = some row ∧
          ((∀ limit, terms.cap ⟨organization, call.metric, monthBucket occurredAt⟩ = some limit →
            row.quantityTotal ≤ limit) → terms.Books base (fun _ => 0) reserved store draft))
      (writeCounter ⟨organization, call.metric, monthBucket occurredAt⟩
        (counted call.quantity occurredAt)) store draft := by
    apply safe_writeCounter
    · rintro written before after draft valid later ⟨row, here, kept⟩
      exact ⟨row, here, stable _ _ _ _ valid later kept⟩
    · intro later passed nothing
      exact absurd nothing (counted_ne_none _ _ _)
    · intro later row passed changed
      refine ⟨row, rfl, fun within => ?_⟩
      refine Books.putCounter (books.stable _ _ _ valid passed) ?_ ?_ ?_
      · intro other apart
        exact (if_neg (Ne.symm apart)).symm
      · have total := counted_total changed
        simp only [owing, if_true]
        omega
      · intro limit cap
        exact (within limit cap).trans (le_max_left ..)
  apply Safe.bind valid written
  rintro written store draft valid ⟨row, rfl, kept⟩
  exact Safe.pure (stable row.quantityTotal) valid kept

/-- Marking a counter leaves its total. -/
theorem safe_maybeEmitSoftLimit {total : Int} (valid : terms.Valid store)
    (books : terms.Books base (fun _ => 0) reserved store draft) :
    Safe terms.rely (fun _ store draft => terms.Books base (fun _ => 0) reserved store draft)
      (maybeEmitSoftLimit organization call total) store draft := by
  unfold maybeEmitSoftLimit
  split
  · exact Safe.pure Books.stable valid books
  · split
    · exact Safe.pure Books.stable valid books
    · have marked : Safe terms.rely
          (fun _ store draft => terms.Books base (fun _ => 0) reserved store draft)
          (writeCounter ⟨organization, call.metric, monthBucket call.readings.nowLater⟩
            (softMarked call.readings.transactionStart)) store draft := by
        apply safe_writeCounter (fun _ => Books.stable)
        · intro later passed _
          exact books.stable _ _ _ valid passed
        · intro later row passed changed
          have books := books.stable _ _ _ valid passed
          have same := softMarked_total changed
          apply books.putCounter
          · exact fun _ _ => rfl
          · omega
          · intro limit cap
            rw [same]
            exact books.capped _ limit cap
      apply Safe.bind valid marked
      intro marked store draft valid books
      split
      · exact Safe.insert Books.stable valid (books.addOutbox _)
      · exact Safe.pure Books.stable valid books

theorem safe_emitHardLimit {total : Int} (valid : terms.Valid store)
    (books : terms.Books base (fun _ => 0) reserved store draft) :
    Safe terms.rely (fun _ store draft => terms.Books base (fun _ => 0) reserved store draft)
      (emitHardLimit organization call total) store draft := by
  unfold emitHardLimit
  split
  · exact Safe.pure Books.stable valid books
  · split
    · exact Safe.insert Books.stable valid (books.addOutbox _)
    · exact Safe.pure Books.stable valid books

theorem safe_settle {occurredAt total : Int} {result : UsageResult} (valid : terms.Valid store)
    (books : terms.Books base (fun _ => 0)
      (call.reservation organization [call.event organization occurredAt]) store draft)
    (metric : result.metric = call.metric) (quantity : result.quantity = call.quantity)
    (counted : result.total = total) :
    Safe terms.rely (fun _ => terms.Concluded base organization call result)
      (settle organization call call.readings.eventId total) store draft := by
  unfold settle
  cases named : call.idempotencyKey with
  | none =>
      have unnamed : call.key organization = none := by simp [UsageCall.key, named]
      rw [UsageCall.reservation, unnamed, Option.map_none] at books
      have concluded : terms.Concluded base organization call result store draft :=
        ⟨books, fun key impossible => by simp [unnamed] at impossible⟩
      exact fun later passed => concluded.stable _ _ _ valid passed
  | some name =>
      have key_eq : call.key organization = some ⟨organization, name⟩ := by
        simp [UsageCall.key, named]
      rw [UsageCall.reservation, key_eq, Option.map_some] at books
      have written : Safe terms.rely (fun _ => terms.Concluded base organization call result)
          (writeKey ⟨organization, name⟩ (keySettled call.readings.eventId total)) store draft := by
        apply safe_writeKey (fun _ => Concluded.stable)
        · intro later passed nothing
          have mine := (books.reserved _ rfl).2.1
          rw [Store.under_rows_of_some mine] at nothing
          cases nothing
        · intro later row passed changed
          have mine := (books.reserved _ rfl).2.1
          rw [Store.under_rows_of_some mine] at changed
          cases changed
          let event := call.event organization occurredAt
          have settled := @Books.settle _ _ _ _ _ _ event (books.stable _ _ _ valid passed) total
          refine ⟨settled, ?_⟩
          intro key here followed
          rw [key_eq] at here
          cases here
          exact ⟨_, Store.under_rows_of_some (put_key_self ..), metric.symm, quantity.symm,
            congrArg some counted.symm⟩
      apply Safe.bind valid written
      intro _ store draft valid concluded
      exact Safe.pure Concluded.stable valid concluded

theorem safe_answer {occurredAt total : Int} {result : UsageResult} (valid : terms.Valid store)
    (books : terms.Books base (fun _ => 0)
      (call.reservation organization [call.event organization occurredAt]) store draft)
    (metric : result.metric = call.metric) (quantity : result.quantity = call.quantity)
    (counted : result.total = total) :
    Safe terms.rely (terms.Concluded base organization call)
      (do settle organization call call.readings.eventId total; return result : UsageScript _)
      store draft := by
  apply Safe.bind valid (safe_settle valid books metric quantity counted)
  intro _ store draft valid concluded
  exact Safe.pure Concluded.stable valid concluded

/-! Whole calls and batches. -/

/-- A metric that is no counter fails the call before it writes anything. -/
theorem safe_assertCounterMetric {rest : UsageScript UsageResult}
    {promised : UsageResult → UsageStore → UsageDraft → Prop}
    (safe : Safe terms.rely promised rest store draft) :
    Safe terms.rely promised (do assertCounterMetric call; rest) store draft := by
  unfold assertCounterMetric
  cases call.readings.kind with
  | none => trivial
  | some kind =>
      cases kind with
      | gauge => trivial
      | counter => exact safe

theorem safe_unlessReplayed {fresh : UsageScript UsageResult} {replayed : UsageResult → UsageResult}
    (faithful : ∀ result, (replayed result).metric = result.metric ∧
      (replayed result).quantity = result.quantity ∧ (replayed result).total = result.total)
    (begun : ∀ store draft, terms.Valid store →
      terms.Books base (fun _ => 0) (call.reservation organization []) store draft →
      Safe terms.rely (terms.Concluded base organization call) fresh store draft)
    (valid : terms.Valid store) (books : terms.Books base (fun _ => 0) none store draft) :
    Safe terms.rely (terms.Concluded base organization call)
      (unlessReplayed organization call fresh replayed) store draft := by
  unfold unlessReplayed
  cases named : call.idempotencyKey with
  | none =>
      apply begun store draft valid
      rwa [UsageCall.reservation, UsageCall.key, named]
  | some key =>
      apply Safe.bind valid (safe_reserve valid books)
      intro first store draft valid books
      -- Whoever inserts the key first does the work; the others repeat its answer.
      cases first with
      | true =>
          apply begun store draft valid
          rwa [UsageCall.reservation, UsageCall.key, named]
      | false =>
          apply Safe.bind valid (safe_replay named valid books)
          rintro result store draft valid ⟨books, answers⟩
          apply Safe.pure Concluded.stable valid
          refine ⟨books, fun key named followed => ?_⟩
          obtain ⟨row, here, metric, quantity, total⟩ := answers key named followed
          obtain ⟨same_metric, same_quantity, same_total⟩ := faithful result
          exact ⟨row, here, by rw [metric, same_metric], by rw [quantity, same_quantity],
            by rw [total, same_total]⟩

theorem safe_record
    (uncapped : ∀ period, terms.cap ⟨organization, call.metric, period⟩ = none)
    (valid : terms.Valid store) (books : terms.Books base (fun _ => 0) none store draft) :
    Safe terms.rely (terms.Concluded base organization call) (record organization call)
      store draft := by
  apply safe_assertCounterMetric
  refine safe_unlessReplayed (fun _ => ⟨rfl, rfl, rfl⟩) ?_ valid books
  intro store draft valid books
  apply Safe.bind valid (safe_insertEvent valid books)
  rintro eventId store draft valid ⟨rfl, books⟩
  apply Safe.bind valid (safe_incrementCounter valid books)
  intro total store draft valid books
  have books := books fun limit cap => by rw [uncapped] at cap; cases cap
  apply Safe.bind valid (safe_maybeEmitSoftLimit valid books)
  intro _ store draft valid books
  exact safe_answer valid books rfl rfl rfl

theorem safe_consume (binding : terms.Binding organization call)
    (valid : terms.Valid store) (books : terms.Books base (fun _ => 0) none store draft) :
    Safe terms.rely (terms.Concluded base organization call) (consume organization call)
      store draft := by
  have faithful (result : UsageResult) : (withLimit call result).metric = result.metric ∧
      (withLimit call result).quantity = result.quantity ∧
      (withLimit call result).total = result.total := ⟨rfl, rfl, rfl⟩
  apply safe_assertCounterMetric
  refine safe_unlessReplayed faithful ?_ valid books
  intro store draft valid books
  apply Safe.bind valid (safe_insertEvent valid books)
  rintro eventId store draft valid ⟨rfl, books⟩
  apply Safe.bind valid (safe_incrementCounter valid books)
  intro total store draft valid books
  -- a total past the cap raises here, and the transaction can only roll back
  have enforced : Safe terms.rely
      (fun _ store draft => terms.Books base (fun _ => 0)
        (call.reservation organization [call.event organization call.readings.now]) store draft)
      (enforceLimit call total) store draft := by
    unfold enforceLimit
    split
    · next unlimited =>
        refine Safe.pure Books.stable valid (books fun limit cap => ?_)
        rw [binding _ limit cap] at unlimited
        cases unlimited
    · next limit limited =>
        split
        · trivial
        · next within =>
            refine Safe.pure Books.stable valid (books fun cap_limit cap => ?_)
            rw [binding _ cap_limit cap] at limited
            cases limited
            omega
  apply Safe.bind valid enforced
  intro _ store draft valid books
  apply Safe.bind valid (safe_maybeEmitSoftLimit valid books)
  intro _ store draft valid books
  apply Safe.bind valid (safe_emitHardLimit valid books)
  intro _ store draft valid books
  exact safe_answer valid books rfl rfl rfl

/-- The books of a draft between two calls of its transaction. -/
def Balanced (terms : Terms) : UsageStore → UsageDraft → Prop :=
  terms.Books ⟨fun _ => none, []⟩ (fun _ => 0) none

theorem safe_batch {method : Nat → UsageCall → UsageScript UsageResult} {calls : List UsageCall}
    (one : ∀ call ∈ calls, ∀ base store draft, terms.Valid store →
      terms.Books base (fun _ => 0) none store draft →
      Safe terms.rely (terms.Concluded base organization call) (method organization call) store draft)
    (valid : terms.Valid store) (balanced : terms.Balanced store draft) :
    Safe terms.rely (fun results store draft => terms.Balanced store draft ∧
        List.Forall₂ (fun call result => terms.Answers organization call result (store.under draft))
          calls results)
      (Script.each (method organization) calls) store draft := by
  have stable (call : UsageCall) (result : UsageResult) : terms.rely.Stable fun store draft =>
      terms.Answers organization call result (store.under draft) := Answers.stable result
  have answered : Safe terms.rely _ (Script.each (method organization) calls) store draft :=
    Safe.each Books.stable stable calls (fun call member store draft valid balanced => ?_)
      valid balanced
  · exact answered.weaken fun results store draft valid done => ⟨done.1, done.2.1⟩
  · have here := one call member (store.under draft) store draft valid
      (balanced.rebase fun key row _ known => known)
    refine here.weaken fun result after done valid concluded => ?_
    refine ⟨concluded.1.rebase (fun key row _ impossible => by cases impossible), concluded.2, ?_⟩
    intro earlier result answers key named followed
    obtain ⟨row, known, said⟩ := answers key named followed
    exact ⟨row, concluded.1.kept key row followed known, said⟩

end Terms

end SynapseSaas
