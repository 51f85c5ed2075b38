import SynapseSaas.Usage.Overflow

/-! The soft-limit event over calls that follow one another. The total that is compared
belongs to the month of the event, the mark that keeps the event from being sent again to
the month of the clock. -/

set_option autoImplicit false

namespace SynapseSaas.Metering

open ReadCommitted UsageService

/-- A metered call of one organization. -/
inductive MeterCall where
  | record (call : UsageCall)
  | consume (call : UsageCall)

namespace MeterCall

def call : MeterCall → UsageCall
  | .record call | .consume call => call

def occurredAt : MeterCall → Int
  | .record call => call.occurredAt.getD call.readings.now
  | .consume call => call.readings.now

def script (organization : Nat) : MeterCall → UsageScript UsageResult
  | .record call => UsageService.record organization call
  | .consume call => UsageService.consume organization call

def total (organization : Nat) (metered : MeterCall) (store : UsageStore) : Int :=
  totalAfter organization metered.call metered.occurredAt store

/-- Its key is new and, where a limit is enforced, its total is within. -/
def Counts (organization : Nat) (store : UsageStore) (metered : MeterCall) : Prop :=
  Fresh store organization metered.call ∧
  match metered with
  | .record _ => True
  | .consume call => ∀ limit, limitValue call = some limit → metered.total organization store ≤ limit

end MeterCall

/-- A metric with a soft limit, for one organization. -/
structure SoftLimit where
  organization : Nat
  metric : String
  limit : Int
  threshold : Int

namespace SoftLimit

/-- The counters and the months the event was sent for, in that order. -/
structure Ledger where
  store : UsageStore
  told : List Int

variable (soft : SoftLimit)

def counter (period : Int) : CounterKey := ⟨soft.organization, soft.metric, period⟩

/-- One call that runs alone. Its events are those of its own month. -/
def step (ledger : Ledger) (metered : MeterCall) : Ledger where
  store := (metered.script soft.organization).after (usageColumns bigInteger) ledger.store
  told :=
    let store := (metered.script soft.organization).after (usageColumns bigInteger) ledger.store
    ledger.told ++ List.replicate ((store.log.drop ledger.store.log.length).countP isSoftLimit)
      (monthBucket metered.occurredAt)

/-- The calls the limit is about. -/
structure Concerns (metered : MeterCall) : Prop where
  metric : metered.call.metric = soft.metric
  kind : metered.call.readings.kind = some .counter
  quantity : 1 ≤ metered.call.quantity
  threshold : softThreshold metered.call = some (soft.limit, soft.threshold)

def Reached (store : UsageStore) (period : Int) : Prop :=
  ∃ row, store.rows (.counter (soft.counter period)) = some row ∧ soft.threshold ≤ row.quantityTotal

def Notified (store : UsageStore) (period : Int) : Prop :=
  ∃ row, store.rows (.counter (soft.counter period)) = some row ∧ row.softLimitNotifiedAt.isSome

/-- A call that leaves its month at the threshold does so in that month, or finds that
month there already and nothing to mark in the month of the clock. -/
def Timely (ledger : Ledger) (metered : MeterCall) : Prop :=
  metered.Counts soft.organization ledger.store →
  soft.threshold ≤ metered.total soft.organization ledger.store →
    monthBucket metered.call.readings.nowLater = monthBucket metered.occurredAt ∨
    soft.Reached ledger.store (monthBucket metered.occurredAt) ∧
      (ledger.store.rows (.counter (soft.counter (monthBucket metered.call.readings.nowLater))) =
          none ∨
        soft.Notified ledger.store (monthBucket metered.call.readings.nowLater))

/-- The event was sent once for each month that reached the threshold since, and for no other. -/
def ToldOnce (start : UsageStore) (ledger : Ledger) : Prop :=
  ∀ period, ledger.told.count period ≤ 1 ∧
    (period ∈ ledger.told ↔ soft.Reached ledger.store period ∧ ¬ soft.Reached start period)

structure Invariant (start : UsageStore) (ledger : Ledger) : Prop where
  fitting : Fitting bigInteger ledger.store
  marks : ∀ period, soft.Notified ledger.store period ↔ soft.Reached ledger.store period
  still : ∀ period, soft.Reached start period → soft.Reached ledger.store period
  told : soft.ToldOnce start ledger

end SoftLimit

section Outcomes

variable {fits : Int → Bool} {store : UsageStore}

/-- A call leaves everything as it is, or it is counted. -/
theorem metered_or_same (organization : Nat) (metered : MeterCall)
    (kind : metered.call.readings.kind = some .counter) (fitting : Fitting fits store) :
    (metered.script organization).after (usageColumns fits) store = store ∨
    metered.Counts organization store ∧ fits (metered.total organization store) ∧
      Metered organization metered.call metered.occurredAt store
        ((metered.script organization).after (usageColumns fits) store) := by
  cases quantity : fits metered.call.quantity with
  | false =>
      cases metered with
      | record call =>
          exact .inl (Script.after_of_error ((alone_record_eq kind).trans (alone_first_refused quantity)))
      | consume call =>
          exact .inl (Script.after_of_error ((alone_consume_eq kind).trans (alone_first_refused quantity)))
  | true =>
      by_cases unseen : Fresh store organization metered.call
      · cases holds : fits (metered.total organization store) with
        | false =>
            cases metered with
            | record call =>
                exact .inl (Script.after_of_error ((alone_record_eq kind).trans
                  (alone_first_spilt unseen quantity holds)))
            | consume call =>
                exact .inl (Script.after_of_error ((alone_consume_eq kind).trans
                  (alone_first_spilt unseen quantity holds)))
        | true =>
            cases metered with
            | record call =>
                obtain ⟨after, ran, counts⟩ := alone_record kind unseen fitting quantity rfl holds
                have same : (MeterCall.script organization (.record call)).after
                    (usageColumns fits) store = store.under after := Script.after_of_ok ran
                refine .inr ⟨⟨unseen, trivial⟩, rfl, ?_⟩
                rw [same]
                exact counts
            | consume call =>
                by_cases within : ∀ limit, limitValue call = some limit →
                    totalAfter organization call call.readings.now store ≤ limit
                · obtain ⟨after, ran, counts⟩ :=
                    alone_consume kind unseen fitting quantity holds within
                  have same : (MeterCall.script organization (.consume call)).after
                      (usageColumns fits) store = store.under after := Script.after_of_ok ran
                  refine .inr ⟨⟨unseen, within⟩, rfl, ?_⟩
                  rw [same]
                  exact counts
                · push Not at within
                  obtain ⟨limit, limited, above⟩ := within
                  obtain ⟨error, ran, -⟩ :=
                    alone_consume_refused kind unseen quantity holds limited above
                  exact .inl (Script.after_of_error ran)
      · simp only [Fresh, not_forall] at unseen
        obtain ⟨key, named, seen⟩ := unseen
        obtain ⟨row, seen⟩ := Option.ne_none_iff_exists'.mp seen
        cases metered with
        | record call =>
            obtain ⟨answer, after, ran, same⟩ := alone_record_seen kind quantity named seen
            exact .inl ((Script.after_of_ok ran).trans same)
        | consume call =>
            obtain ⟨answer, after, ran, same⟩ := alone_consume_seen kind quantity named seen
            exact .inl ((Script.after_of_ok ran).trans same)

end Outcomes

namespace SoftLimit

variable {soft : SoftLimit} {start : UsageStore} {ledger : Ledger} {metered : MeterCall}

/-- What a step does to the month of its event: it counts up and keeps the mark, or it
reaches the threshold, marks and tells. -/
inductive Moves (soft : SoftLimit) (ledger after : Ledger) (period : Int) (row : CounterRow) : Prop
  | quietly (told : after.told = ledger.told)
      (marks : row.softLimitNotifiedAt.isSome ↔ soft.Notified ledger.store period)
      (reached : soft.threshold ≤ row.quantityTotal ↔ soft.Reached ledger.store period)
  | telling (told : after.told = ledger.told ++ [period])
      (unreached : ¬ soft.Reached ledger.store period)
      (marks : row.softLimitNotifiedAt.isSome) (reached : soft.threshold ≤ row.quantityTotal)

/-- The month of the event after its increment. -/
theorem raised_row (ledger : Ledger) (concerns : soft.Concerns metered) :
    ∃ row, raised soft.organization metered.call metered.occurredAt (countersOf ledger.store)
        (soft.counter (monthBucket metered.occurredAt)) = some row ∧
      row.quantityTotal = metered.total soft.organization ledger.store ∧
      (row.softLimitNotifiedAt.isSome ↔
        soft.Notified ledger.store (monthBucket metered.occurredAt)) ∧
      (soft.Reached ledger.store (monthBucket metered.occurredAt) →
        soft.threshold ≤ row.quantityTotal) := by
  obtain ⟨row, row_eq, total_eq⟩ := counted_row ledger.store soft.organization metered.call
    metered.occurredAt
  have positive := concerns.quantity
  have own : (⟨soft.organization, metered.call.metric, monthBucket metered.occurredAt⟩ : CounterKey) =
      soft.counter (monthBucket metered.occurredAt) := by
    rw [counter, concerns.metric]
  rw [own] at row_eq
  refine ⟨row, ?_, total_eq, ?_, ?_⟩
  · rw [raised, own, Function.update_self]
    exact row_eq
  · unfold Notified
    cases found : ledger.store.rows (.counter (soft.counter (monthBucket metered.occurredAt))) with
    | none =>
        rw [found] at row_eq
        cases row_eq
        simp
    | some old =>
        rw [found] at row_eq
        cases row_eq
        simp
  · rintro ⟨old, found, reached⟩
    rw [found] at row_eq
    cases row_eq
    change soft.threshold ≤ old.quantityTotal + metered.call.quantity
    omega

theorem raised_other (concerns : soft.Concerns metered) {period : Int}
    (apart : period ≠ monthBucket metered.occurredAt) :
    raised soft.organization metered.call metered.occurredAt (countersOf ledger.store)
      (soft.counter period) = ledger.store.rows (.counter (soft.counter period)) := by
  have distinct : soft.counter period ≠
      ⟨soft.organization, metered.call.metric, monthBucket metered.occurredAt⟩ := by
    rw [counter, concerns.metric]
    simpa using apart
  rw [raised, Function.update_of_ne distinct]
  rfl

/-- The row the call marks, if it marks one. -/
def mark (soft : SoftLimit) (ledger : Ledger) (metered : MeterCall) : Option CounterRow :=
  softMark soft.organization metered.call (metered.total soft.organization ledger.store)
    (raised soft.organization metered.call metered.occurredAt (countersOf ledger.store))

/-- What a call that is counted does to the ledger. -/
structure Counted (soft : SoftLimit) (ledger : Ledger) (metered : MeterCall) : Prop where
  fitting : Fitting bigInteger (soft.step ledger metered).store
  told : (soft.step ledger metered).told = ledger.told ++
    List.replicate (soft.mark ledger metered).toList.length (monthBucket metered.occurredAt)
  rows : ∀ counter, (soft.step ledger metered).store.rows (.counter counter) =
    marked soft.organization metered.call (metered.total soft.organization ledger.store)
      (raised soft.organization metered.call metered.occurredAt (countersOf ledger.store)) counter

theorem step_counted (concerns : soft.Concerns metered) (fitting : Fitting bigInteger ledger.store) :
    soft.step ledger metered = ledger ∨
      metered.Counts soft.organization ledger.store ∧ soft.Counted ledger metered := by
  rcases metered_or_same soft.organization metered concerns.kind
    fitting with same | ⟨counts, holds, metering⟩
  · refine .inl ?_
    simp [step, same]
  · obtain ⟨sent, log, -, sends⟩ := metering.log
    have drops : (ledger.store.log ++ sent).drop ledger.store.log.length = sent :=
      List.drop_left' rfl
    refine .inr ⟨counts, metering.fitting fitting (by decide) holds, ?_, congrFun metering.counters⟩
    rw [step]
    simp only [log, drops, sends]
    rfl

/-- What a step leaves: the other months as they were, and the month of the event moved. -/
structure Leaves (soft : SoftLimit) (ledger : Ledger) (metered : MeterCall) : Prop where
  fitting : Fitting bigInteger (soft.step ledger metered).store
  others : ∀ period, period ≠ monthBucket metered.occurredAt →
    (soft.step ledger metered).store.rows (.counter (soft.counter period)) =
      ledger.store.rows (.counter (soft.counter period))
  own : ∃ row, (soft.step ledger metered).store.rows
      (.counter (soft.counter (monthBucket metered.occurredAt))) = some row ∧
    Moves soft ledger (soft.step ledger metered) (monthBucket metered.occurredAt) row

section Leaves

variable {row : CounterRow}

theorem Counted.quietly (counted : soft.Counted ledger metered) (concerns : soft.Concerns metered)
    (unmarked : soft.mark ledger metered = none)
    (raises : raised soft.organization metered.call metered.occurredAt (countersOf ledger.store)
      (soft.counter (monthBucket metered.occurredAt)) = some row)
    (marks : row.softLimitNotifiedAt.isSome ↔
      soft.Notified ledger.store (monthBucket metered.occurredAt))
    (reached : soft.threshold ≤ row.quantityTotal ↔
      soft.Reached ledger.store (monthBucket metered.occurredAt)) :
    soft.Leaves ledger metered := by
  obtain ⟨fitting, told, rows⟩ := counted
  rw [unmarked] at told
  rw [mark] at unmarked
  refine ⟨fitting, fun period apart => ?_, row, ?_,
    .quietly (told.trans (List.append_nil _)) marks reached⟩
  · rw [rows, marked, unmarked]
    exact raised_other concerns apart
  · rw [rows, marked, unmarked]
    exact raises

theorem Counted.telling (counted : soft.Counted ledger metered) (concerns : soft.Concerns metered)
    (current : monthBucket metered.call.readings.nowLater = monthBucket metered.occurredAt)
    (marks : soft.mark ledger metered = some row) (flag : row.softLimitNotifiedAt.isSome)
    (unreached : ¬ soft.Reached ledger.store (monthBucket metered.occurredAt))
    (reached : soft.threshold ≤ row.quantityTotal) : soft.Leaves ledger metered := by
  obtain ⟨fitting, told, rows⟩ := counted
  have clock : clockCounter soft.organization metered.call =
      soft.counter (monthBucket metered.occurredAt) := by
    rw [clockCounter, counter, concerns.metric, current]
  rw [marks] at told
  rw [mark] at marks
  refine ⟨fitting, fun period apart => ?_, row, ?_, .telling told unreached flag reached⟩
  · have distinct : soft.counter period ≠ soft.counter (monthBucket metered.occurredAt) := by
      simpa [counter] using apart
    rw [rows, marked, marks, clock]
    exact (Function.update_of_ne distinct ..).trans (raised_other concerns apart)
  · rw [rows, marked, marks, clock]
    exact Function.update_self ..

end Leaves

/-- At the threshold, the counter of the clock's month decides on the mark. -/
theorem mark_of_reached (concerns : soft.Concerns metered)
    (reaches : soft.threshold ≤ metered.total soft.organization ledger.store) :
    soft.mark ledger metered = softMarked metered.call.readings.transactionStart
      (raised soft.organization metered.call metered.occurredAt (countersOf ledger.store)
        (soft.counter (monthBucket metered.call.readings.nowLater))) := by
  rw [mark, softMark, concerns.threshold]
  dsimp only
  rw [if_neg (not_lt.mpr reaches), clockCounter, concerns.metric]
  rfl

/-- A step that is timely changes nothing, or the month of its event alone. -/
theorem step_cases (concerns : soft.Concerns metered) (invariant : soft.Invariant start ledger)
    (timely : soft.Timely ledger metered) :
    soft.step ledger metered = ledger ∨ soft.Leaves ledger metered := by
  rcases step_counted concerns invariant.fitting with same | ⟨counts, counted⟩
  · exact .inl same
  refine .inr ?_
  obtain ⟨row, raises, total_eq, marks, still⟩ := raised_row ledger concerns
  by_cases reaches : soft.threshold ≤ metered.total soft.organization ledger.store
  · have marking := mark_of_reached concerns reaches
    by_cases current : monthBucket metered.call.readings.nowLater = monthBucket metered.occurredAt
    · rw [current, raises, softMarked] at marking
      by_cases notified : soft.Notified ledger.store (monthBucket metered.occurredAt)
      · -- The mark of this month is there already.
        obtain ⟨instant, flag⟩ := Option.isSome_iff_exists.mp (marks.mpr notified)
        refine counted.quietly concerns ?_ raises marks
          (iff_of_true (total_eq ▸ reaches) ((invariant.marks _).mp notified))
        rw [marking, flag]
        rfl
      · have flag : row.softLimitNotifiedAt = none := by
          rw [← marks, Bool.not_eq_true, Option.isSome_eq_false_iff,
            Option.isNone_iff_eq_none] at notified
          exact notified
        rw [flag] at marking
        exact counted.telling concerns current marking rfl
          (fun reached => notified ((invariant.marks _).mpr reached)) (total_eq ▸ reaches)
    · -- The clock's month is another: it has nothing to mark.
      obtain ⟨already, spent⟩ := (timely counts reaches).resolve_left current
      refine counted.quietly concerns ?_ raises marks (iff_of_true (total_eq ▸ reaches) already)
      rw [marking, raised_other concerns current]
      rcases spent with absent | ⟨other, found, flagged⟩
      · rw [absent]
        rfl
      · obtain ⟨instant, flag⟩ := Option.isSome_iff_exists.mp flagged
        rw [found, softMarked, flag]
        rfl
  · refine counted.quietly concerns ?_ raises marks (iff_of_false (total_eq ▸ reaches)
      fun reached => reaches (total_eq ▸ still reached))
    rw [mark, softMark, concerns.threshold]
    simp [not_le.mp reaches]

/-- A timely call keeps marks and events with the months they belong to. -/
theorem step_invariant (concerns : soft.Concerns metered) (invariant : soft.Invariant start ledger)
    (timely : soft.Timely ledger metered) : soft.Invariant start (soft.step ledger metered) := by
  rcases step_cases concerns invariant timely with same | ⟨fitting, others, row, here, moves⟩
  · rwa [same]
  have notified_other {period : Int} (apart : period ≠ monthBucket metered.occurredAt) :
      soft.Notified (soft.step ledger metered).store period ↔ soft.Notified ledger.store period := by
    unfold Notified
    rw [others period apart]
  have reached_other {period : Int} (apart : period ≠ monthBucket metered.occurredAt) :
      soft.Reached (soft.step ledger metered).store period ↔ soft.Reached ledger.store period := by
    unfold Reached
    rw [others period apart]
  have notified_here : soft.Notified (soft.step ledger metered).store
      (monthBucket metered.occurredAt) ↔ row.softLimitNotifiedAt.isSome := by
    simp [Notified, here]
  have reached_here : soft.Reached (soft.step ledger metered).store
      (monthBucket metered.occurredAt) ↔ soft.threshold ≤ row.quantityTotal := by
    simp [Reached, here]
  cases moves with
  | quietly told marks reached =>
      have same_reached (period : Int) : soft.Reached (soft.step ledger metered).store period ↔
          soft.Reached ledger.store period := by
        by_cases apart : period = monthBucket metered.occurredAt
        · subst apart
          exact reached_here.trans reached
        · exact reached_other apart
      refine ⟨fitting, fun period => ?_, fun period before => ?_, fun period => ?_⟩
      · rw [same_reached, ← invariant.marks]
        by_cases apart : period = monthBucket metered.occurredAt
        · subst apart
          exact notified_here.trans marks
        · exact notified_other apart
      · exact (same_reached period).mpr (invariant.still period before)
      · rw [told, same_reached]
        exact invariant.told period
  | telling told unreached marks reached =>
      have absent : monthBucket metered.occurredAt ∉ ledger.told := by
        rw [(invariant.told _).2]
        exact fun reached => unreached reached.1
      refine ⟨fitting, fun period => ?_, fun period before => ?_, fun period => ?_⟩
      · by_cases apart : period = monthBucket metered.occurredAt
        · subst apart
          exact iff_of_true (notified_here.mpr marks) (reached_here.mpr reached)
        · rw [notified_other apart, reached_other apart]
          exact invariant.marks period
      · by_cases apart : period = monthBucket metered.occurredAt
        · subst apart
          exact reached_here.mpr reached
        · exact (reached_other apart).mpr (invariant.still period before)
      · rw [told]
        by_cases apart : period = monthBucket metered.occurredAt
        · subst apart
          refine ⟨?_, iff_of_true (by simp)
            ⟨reached_here.mpr reached, fun before => unreached (invariant.still _ before)⟩⟩
          rw [List.count_append, List.count_eq_zero.mpr absent]
          simp
        · rw [reached_other apart, List.count_append, List.mem_append, List.mem_singleton]
          simpa [apart, Ne.symm apart] using invariant.told period

/-- Where every call that leaves its month at the threshold is made in that month, each month
that reaches it is told of once, by the call that reached it, and no other month is. -/
theorem soft_limit_told_once (soft : SoftLimit) (start : UsageStore)
    (fitting : Fitting bigInteger start)
    (marks : ∀ period, soft.Notified start period ↔ soft.Reached start period)
    (calls : List MeterCall) (concerns : ∀ metered ∈ calls, soft.Concerns metered)
    (timely : Runs.Guarded soft.step soft.Timely ⟨start, []⟩ calls) :
    Runs.Always soft.step (soft.ToldOnce start) ⟨start, []⟩ calls := by
  have initial : soft.Invariant start ⟨start, []⟩ :=
    ⟨fitting, marks, fun _ reached => reached, fun period => by simp⟩
  exact (Runs.always_of_guarded_among soft.step
    (fun _ _ concerns invariant timely => step_invariant concerns invariant timely) initial
    concerns timely).mono soft.step fun _ invariant => invariant.told

/-! Renders of an organization that may have ten a month and is warned at eight. -/

def renders : SoftLimit := ⟨8, "renders", 10, 8⟩

/-- The first of February. -/
def february : Int := 31 * day

def rendering (quantity : Int) (occurredAt : Option Int) (clock : Int) : UsageCall where
  metric := "renders"
  quantity := quantity
  occurredAt := occurredAt
  readings :=
    { kind := some .counter, now := clock
      entitlements := ⟨8, none, none, [], [("renders", ⟨some 10, some 80, none⟩)]⟩
      nowLater := clock
      entitlementsLater := ⟨8, none, none, [], [("renders", ⟨some 10, some 80, none⟩)]⟩
      transactionStart := clock, softThreshold := fun value ratio => value * ratio / 100
      eventId := 80, aggregateIds := (81, 82) }

theorem rendering_concerns {metered : MeterCall} {quantity clock : Int} {occurredAt : Option Int}
    (rendered : metered.call = rendering quantity occurredAt clock) (positive : 1 ≤ quantity) :
    renders.Concerns metered := by
  constructor
  · rw [rendered]
    rfl
  · rw [rendered]
    rfl
  · rw [rendered]
    exact positive
  · rw [rendered]
    rfl

theorem no_renders (period : Int) : ¬ renders.Reached noUsage period := by
  rintro ⟨row, here, -⟩
  exact nomatch here

/-- January is over the threshold by an event recorded in February, and no one is told. -/
theorem soft_limit_untold :
    renders.Concerns (.record (rendering 9 (some 0) february)) ∧ Fitting bigInteger noUsage ∧
    (∀ period, renders.Notified noUsage period ↔ renders.Reached noUsage period) ∧
    ¬ Runs.Always renders.step (renders.ToldOnce noUsage) ⟨noUsage, []⟩
      [.record (rendering 9 (some 0) february)] := by
  refine ⟨rendering_concerns rfl (by decide), noUsage_fitting _, fun period => ?_, ?_⟩
  · exact iff_of_false (fun notified => nomatch notified.choose_spec.1) (no_renders period)
  · rintro ⟨-, told⟩
    have untold : (renders.step ⟨noUsage, []⟩ (.record (rendering 9 (some 0) february))).told = [] := by
      decide +kernel
    have reached : renders.Reached
        (renders.step ⟨noUsage, []⟩ (.record (rendering 9 (some 0) february))).store 0 :=
      ⟨⟨9, none, some 0⟩, by decide +kernel, by decide⟩
    have member := (told 0).2.mpr ⟨reached, no_renders 0⟩
    rw [untold] at member
    exact nomatch member

/-- Two calls in January: the second one tells. -/
theorem soft_limit_told_once_january :
    Runs.Always renders.step (renders.ToldOnce noUsage) ⟨noUsage, []⟩
      [.record (rendering 5 none 0), .consume (rendering 4 none 1)] ∧
    (Runs.run renders.step ⟨noUsage, []⟩
      [.record (rendering 5 none 0), .consume (rendering 4 none 1)]).told = [0] := by
  refine ⟨soft_limit_told_once renders noUsage (noUsage_fitting _) (fun period => ?_) _ ?_
    ⟨fun _ _ => .inl (by decide), fun _ _ => .inl (by decide), trivial⟩, by decide +kernel⟩
  · exact iff_of_false (fun notified => nomatch notified.choose_spec.1) (no_renders period)
  · intro metered member
    simp only [List.mem_cons, List.not_mem_nil, or_false] at member
    obtain rfl | rfl := member
    · exact rendering_concerns rfl (by decide)
    · exact rendering_concerns rfl (by decide)

end SoftLimit

end SynapseSaas.Metering
