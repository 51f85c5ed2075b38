import SynapseSaas.Usage.GaugeCapacity
import SynapseSaas.Usage.Overflow

/-! The pre-flight check and the operation it announces, with nothing in between. The four
places that compare with a limit agree on the comparison; the columns of a counter are
narrower than the quantities a request may name. -/

set_option autoImplicit false

namespace SynapseSaas.Metering

open ReadCommitted UsageService

/-- The period a metric is counted in. -/
def periodOf (readings : Readings) : MetricKind → Int
  | .counter => monthBucket readings.now
  | .gauge => gaugePeriod

/-- Both find the same metric and entitlements, in one month. -/
structure Alike (before after : Readings) : Prop where
  kind : after.kind = before.kind
  entitlements : after.entitlements = before.entitlements
  entitlementsLater : after.entitlementsLater = before.entitlements
  month : monthBucket after.now = monthBucket before.now

/-- Refused with 402. -/
def Refused {Answer : Type} (result : Except Failure Answer) : Prop :=
  ∃ error : DomainError, result = .error (.domain error) ∧ error.cls.status = 402

/-- What the check reports of an operation is what becomes of it. -/
structure Announces (organization : Nat) (metric : String) (before : Readings) (quantity : Int)
    (operation : UsageScript UsageResult) (store : UsageStore) (report : UsageCheck) : Prop where
  refused : report.withinLimit ↔
    ¬ Refused (operation.alone (usageColumns bigInteger) store Draft.empty)
  entitled : quantity = 1 → report.withinLimit = before.entitlements.withinLimit metric report.used
  remaining : ∀ answer after,
    operation.alone (usageColumns bigInteger) store Draft.empty = .ok (answer, after) →
      answer.remaining = report.remaining.map (· - quantity) ∧
      ∀ next, Alike before next → ∃ again draft,
        (check organization metric next quantity).alone (usageColumns bigInteger)
          (store.under after) Draft.empty = .ok (again, draft) ∧
        again.remaining = report.remaining.map (· - quantity)

def Agrees (organization : Nat) (metric : String) (before : Readings) (quantity : Int)
    (operation : UsageScript UsageResult) (store : UsageStore) : Prop :=
  ∃ report draft, (check organization metric before quantity).alone (usageColumns bigInteger)
      store Draft.empty = .ok (report, draft) ∧
    Announces organization metric before quantity operation store report

section Statements

variable {fits : Int → Bool} {committed : UsageStore} {draft : UsageDraft} {organization : Nat}
  {metric : String} {readings before : Readings} {quantity : Int}

theorem alone_currentTotal {kind : MetricKind} (found : readings.kind = some kind) :
    (currentTotal organization metric readings).alone (usageColumns fits) committed draft =
      .ok (counterTotal (committed.under draft).rows
        ⟨organization, metric, periodOf readings kind⟩, draft.queried committed.log.length) := by
  unfold currentTotal periodFor
  rw [found]
  cases kind <;> rfl

theorem alone_check {kind : MetricKind} (found : readings.kind = some kind) :
    (check organization metric readings quantity).alone (usageColumns fits) committed Draft.empty =
      .ok (checkAgainst readings metric (counterTotal committed.rows
        ⟨organization, metric, periodOf readings kind⟩) quantity,
        Draft.empty.queried committed.log.length) := by
  rw [check, Script.alone_bind, alone_currentTotal found]
  rfl

theorem checkAgainst_withinLimit (used : Int) :
    (checkAgainst readings metric used quantity).withinLimit =
      (readings.entitlements.limitOf metric).all (used + quantity ≤ ·) := rfl

theorem checkAgainst_remaining (used : Int) :
    (checkAgainst readings metric used quantity).remaining =
      (readings.entitlements.limitOf metric).map (· - used) := rfl

/-- A quantity of one is within the limit where the level is below it. -/
theorem checkAgainst_entitled (used : Int) (one : quantity = 1) :
    (checkAgainst readings metric used quantity).withinLimit =
      readings.entitlements.withinLimit metric used := by
  rw [checkAgainst_withinLimit, withinLimit_iff, one]
  cases readings.entitlements.limitOf metric with
  | none => rfl
  | some value => exact decide_eq_decide.mpr Int.add_one_le_iff

/-- The check made again once the level is higher by the quantity. -/
theorem checked_again {kind : MetricKind} (found : before.kind = some kind) {after : UsageDraft}
    (total : counterTotal (committed.under after).rows ⟨organization, metric, periodOf before kind⟩ =
      counterTotal committed.rows ⟨organization, metric, periodOf before kind⟩ + quantity)
    {next : Readings} (alike : Alike before next) : ∃ again draft,
      (check organization metric next quantity).alone (usageColumns fits) (committed.under after)
        Draft.empty = .ok (again, draft) ∧
      again.remaining = (checkAgainst before metric (counterTotal committed.rows
        ⟨organization, metric, periodOf before kind⟩) quantity).remaining.map (· - quantity) := by
  have period : periodOf next kind = periodOf before kind := by
    cases kind with
    | counter => exact alike.month
    | gauge => rfl
  refine ⟨_, _, alone_check (alike.kind.trans found), ?_⟩
  rw [period, checkAgainst_remaining, checkAgainst_remaining, alike.entitlements, total,
    Option.map_map]
  congr 1
  funext value
  exact Int.sub_sub value _ _ ▸ rfl

theorem not_refused_of_ok {Answer : Type} {result : Except Failure Answer} {answer : Answer}
    (ended : result = .ok answer) : ¬ Refused result := by
  rintro ⟨error, failed, -⟩
  cases ended.symm.trans failed

theorem not_refused_of_other {Answer : Type} {result : Except Failure Answer} {error : OtherError}
    (ended : result = .error (.other error)) : ¬ Refused result := by
  rintro ⟨domain, failed, -⟩
  cases ended.symm.trans failed

section Failures

variable {operation : UsageScript UsageResult} {used : Int}

/-- An operation that fails leaves nothing to compare with but its being refused. -/
theorem announces_of_error {failure : Failure}
    (failed : operation.alone (usageColumns bigInteger) committed Draft.empty = .error failure)
    (refused : (checkAgainst before metric used quantity).withinLimit ↔
      ¬ Refused (operation.alone (usageColumns bigInteger) committed Draft.empty)) :
    Announces organization metric before quantity operation committed
      (checkAgainst before metric used quantity) where
  refused := refused
  entitled := checkAgainst_entitled used
  remaining _ _ ended := by cases failed.symm.trans ended

/-- A refusal is announced by a check that finds no room. -/
theorem announces_of_refused (beyond : ¬ (checkAgainst before metric used quantity).withinLimit)
    (refused : Refused (operation.alone (usageColumns bigInteger) committed Draft.empty)) :
    Announces organization metric before quantity operation committed
      (checkAgainst before metric used quantity) := by
  obtain ⟨error, failed, -⟩ := id refused
  exact announces_of_error failed (iff_of_false beyond fun accepted => accepted refused)

/-- A failure of the columns is announced by a check that finds room. -/
theorem announces_of_other {error : OtherError}
    (within : (checkAgainst before metric used quantity).withinLimit)
    (failed : operation.alone (usageColumns bigInteger) committed Draft.empty =
      .error (.other error)) :
    Announces organization metric before quantity operation committed
      (checkAgainst before metric used quantity) :=
  announces_of_error failed (iff_of_true within (not_refused_of_other failed))

end Failures

end Statements

section Consume

variable {store : UsageStore} {organization : Nat} {call : UsageCall} {before : Readings}

theorem bigInteger_iff {value : Int} (lower : -2 ^ 63 ≤ value) :
    bigInteger value = true ↔ value ≤ 2 ^ 63 - 1 := by
  rw [bigInteger, decide_eq_true_eq]
  exact and_iff_right lower

/-- A quantity or a total out of range fails the call otherwise than by a refusal. -/
theorem consume_spilt (kind : call.readings.kind = some .counter)
    (fitting : Fitting bigInteger store) (unseen : Fresh store organization call)
    (positive : 1 ≤ call.quantity)
    (spills : ¬ (call.quantity ≤ 2 ^ 63 - 1 ∧
      totalAfter organization call call.readings.now store ≤ 2 ^ 63 - 1)) :
    (consume organization call).alone (usageColumns bigInteger) store Draft.empty =
      .error (.other .invalidData) := by
  rw [consume_overflows_iff fitting kind positive]
  exact fun bounds => spills ⟨bounds.1, bounds.2 unseen⟩

theorem all_le_eq_true {limit : Option Int} {total : Int} :
    limit.all (total ≤ ·) = true ↔ ∀ value, limit = some value → total ≤ value := by
  cases limit <;> simp

/-- The check announces a `consume` exactly where the limit has room for it or its columns do. -/
theorem consume_agrees_iff (fitting : Fitting bigInteger store)
    (kind : before.kind = some .counter) (alike : Alike before call.readings)
    (unseen : Fresh store organization call) (positive : 1 ≤ call.quantity) :
    Agrees organization call.metric before call.quantity (consume organization call) store ↔
      (∀ limit, before.entitlements.limitOf call.metric = some limit →
        totalAfter organization call before.now store ≤ limit) ∨
      call.quantity ≤ 2 ^ 63 - 1 ∧ totalAfter organization call before.now store ≤ 2 ^ 63 - 1 := by
  have counts : call.readings.kind = some .counter := alike.kind.trans kind
  have limited : limitValue call = before.entitlements.limitOf call.metric := by
    rw [limitValue, alike.entitlements]
    rfl
  have same : totalAfter organization call call.readings.now store =
      totalAfter organization call before.now store := by
    rw [totalAfter, totalAfter, alike.month]
  have lower := (bigInteger_total fitting ⟨organization, call.metric, monthBucket before.now⟩).1
  have within_iff : (checkAgainst before call.metric (counterTotal store.rows
      ⟨organization, call.metric, periodOf before .counter⟩) call.quantity).withinLimit ↔
      ∀ limit, before.entitlements.limitOf call.metric = some limit →
        totalAfter organization call before.now store ≤ limit := all_le_eq_true
  by_cases bounds : call.quantity ≤ 2 ^ 63 - 1 ∧
      totalAfter organization call before.now store ≤ 2 ^ 63 - 1
  · refine iff_of_true ⟨_, _, alone_check kind, ?_⟩ (.inr bounds)
    have quantity : bigInteger call.quantity = true := (bigInteger_iff (by omega)).mpr bounds.1
    have holds : bigInteger (totalAfter organization call call.readings.now store) = true := by
      rw [same]
      refine (bigInteger_iff ?_).mpr bounds.2
      unfold totalAfter
      omega
    by_cases within : ∀ limit, before.entitlements.limitOf call.metric = some limit →
        totalAfter organization call before.now store ≤ limit
    · obtain ⟨after, ran, metered⟩ := alone_consume counts unseen fitting quantity holds
        (by rwa [limited, same])
      refine ⟨iff_of_true (within_iff.mpr within) (not_refused_of_ok ran),
        checkAgainst_entitled _, ?_⟩
      intro told kept ended
      cases ran.symm.trans ended
      constructor
      · change (limitValue call).map _ = _
        rw [limited, checkAgainst_remaining, Option.map_map]
        congr 1
        funext value
        simp only [answer, totalAfter, alike.month, periodOf, Function.comp_apply]
        omega
      · intro next still
        refine checked_again kind ?_ still
        have own : (⟨organization, call.metric, periodOf before .counter⟩ : CounterKey) =
            ⟨organization, call.metric, monthBucket call.readings.now⟩ := by
          rw [alike.month]
          rfl
        rw [metered.total, if_pos own]
    · have beyond := within
      push Not at beyond
      obtain ⟨limit, limits, above⟩ := beyond
      obtain ⟨error, ran, cls⟩ := alone_consume_refused counts unseen quantity holds
        (limited.trans limits) (by rwa [same])
      have refused : Refused ((consume organization call).alone (usageColumns bigInteger) store
          Draft.empty) := ⟨error, ran, by rw [cls]; rfl⟩
      exact announces_of_refused (fun reported => within (within_iff.mp reported)) refused
  · have ran := consume_spilt counts fitting unseen positive (by rwa [same])
    constructor
    · rintro ⟨report, draft, checked, announced⟩
      cases checked.symm.trans (alone_check kind)
      exact .inl (within_iff.mp (announced.refused.mpr (not_refused_of_other ran)))
    · rintro (within | fits)
      · exact ⟨_, _, alone_check kind, announces_of_other (within_iff.mpr within) ran⟩
      · exact absurd fits bounds

end Consume

section Gauge

variable {store : UsageStore} {draft : UsageDraft} {organization : Nat} {metric : String}
  {move : GaugeMove} {readings before : Readings}

/-- A write of a gauge leaves the level it writes, or finds the column too narrow. -/
theorem alone_writeLevel {change : Option CounterRow → Option CounterRow} {counter : CounterKey}
    {row : CounterRow} (unwritten : draft.rows (.counter counter) = none)
    (written : change (store.rows (.counter counter)) = some row) :
    (writeCounter counter change).alone (usageColumns bigInteger) store draft =
        .error (.other .invalidData) ∨
    ∃ after, (writeCounter counter change).alone (usageColumns bigInteger) store draft =
        .ok (some row, after) ∧
      counterTotal (store.under after).rows counter = row.quantityTotal := by
  have found : (store.under draft).rows (.counter counter) = store.rows (.counter counter) :=
    Store.under_rows_of_none unwritten
  rw [← found] at written
  rw [writeCounter]
  cases proposed : (change none).bind ((usageColumns bigInteger).row (.counter counter)) with
  | some failure =>
      rw [Script.alone_execute_refused proposed]
      obtain ⟨fresh, _, refused⟩ := Option.bind_eq_some_iff.mp proposed
      simp only [usageColumns] at refused
      split at refused
      · cases refused
      · cases refused
        exact .inl rfl
  | none =>
      cases holds : bigInteger row.quantityTotal with
      | false =>
          have refused : (usageColumns bigInteger).row (.counter counter) row =
              some (.other .invalidData) := by
            simp [usageColumns, holds]
          exact .inl (Script.alone_execute_error proposed written refused)
      | true =>
          rw [Script.alone_execute_some proposed written (by simp [usageColumns, holds])]
          refine .inr ⟨_, rfl, ?_⟩
          exact counterTotal_of_some (Store.under_rows_of_some (put_counter_self ..))

theorem alone_moveGauge {used : Int}
    (unwritten : draft.rows (.counter ⟨organization, move.metric, gaugePeriod⟩) = none)
    (level : counterTotal store.rows ⟨organization, move.metric, gaugePeriod⟩ = used) :
    (∃ error, (moveGauge organization move).alone (usageColumns bigInteger) store draft =
      .error (.other error)) ∨
    ∃ after, (moveGauge organization move).alone (usageColumns bigInteger) store draft =
        .ok (gaugeResult move.metric move.readings (max (used + move.delta) 0), after) ∧
      counterTotal (store.under after).rows ⟨organization, move.metric, gaugePeriod⟩ =
        max (used + move.delta) 0 := by
  obtain ⟨row, written⟩ := Option.ne_none_iff_exists'.mp
    (@levelMoved_ne_none move.delta move.readings.transactionStart
      (store.rows (.counter ⟨organization, move.metric, gaugePeriod⟩)))
  have total : row.quantityTotal = max (used + move.delta) 0 := by
    rw [levelMoved_total written, level]
  rw [moveGauge, Script.alone_bind]
  rcases alone_writeLevel unwritten written with narrow | ⟨after, ended, level⟩
  · rw [narrow]
    exact .inl ⟨_, rfl⟩
  · rw [ended, ← total]
    exact .inr ⟨after, rfl, level⟩

/-- A gauge that is set is at the level it is set to, and below zero at zero. -/
theorem alone_setGauge (kind : readings.kind = some .gauge) {value : Int} :
    (∃ error, (setGauge organization metric readings value).alone (usageColumns bigInteger) store
      Draft.empty = .error (.other error)) ∨
    ∃ after, (setGauge organization metric readings value).alone (usageColumns bigInteger) store
        Draft.empty = .ok (gaugeResult metric readings (max value 0), after) ∧
      counterTotal (store.under after).rows ⟨organization, metric, gaugePeriod⟩ = max value 0 := by
  have asserted (draft : UsageDraft) : (assertGaugeMetric metric readings).alone
      (usageColumns bigInteger) store draft = .ok ((), draft) := by
    rw [assertGaugeMetric, kind]
    rfl
  obtain ⟨row, written⟩ := Option.ne_none_iff_exists'.mp
    (@levelSet_ne_none (max value 0) readings.transactionStart
      (store.rows (.counter ⟨organization, metric, gaugePeriod⟩)))
  rw [setGauge, Script.alone_bind, asserted]
  change (∃ error, Script.alone _ _ (_ >>= _) Draft.empty = _) ∨
    ∃ after, Script.alone _ _ (_ >>= _) Draft.empty = _ ∧ _
  rw [Script.alone_bind]
  rcases alone_writeLevel (rfl : Draft.empty.rows _ = none) written with narrow | ⟨after, ended, level⟩
  · rw [narrow]
    exact .inl ⟨_, rfl⟩
  · rw [ended]
    exact .inr ⟨after, rfl, level.trans (levelSet_total written)⟩

/-- An upward move that the capacity check refuses, makes, or leaves to a column too narrow. -/
theorem alone_adjustGauge (kind : move.readings.kind = some .gauge) (enforce : move.enforce = true)
    (positive : 0 < move.delta) {used : Int}
    (level : counterTotal store.rows ⟨organization, move.metric, gaugePeriod⟩ = used) :
    if overCapacity (move.readings.entitlements.limitOf move.metric) used move.delta then
      Refused ((adjustGauge organization move).alone (usageColumns bigInteger) store Draft.empty)
    else
      (∃ error, (adjustGauge organization move).alone (usageColumns bigInteger) store Draft.empty =
        .error (.other error)) ∨
      ∃ after, (adjustGauge organization move).alone (usageColumns bigInteger) store Draft.empty =
          .ok (gaugeResult move.metric move.readings (max (used + move.delta) 0), after) ∧
        counterTotal (store.under after).rows ⟨organization, move.metric, gaugePeriod⟩ =
          max (used + move.delta) 0 := by
  have asserted (draft : UsageDraft) : (assertGaugeMetric move.metric move.readings).alone
      (usageColumns bigInteger) store draft = .ok ((), draft) := by
    rw [assertGaugeMetric, kind]
    rfl
  have total : counterTotal (store.under Draft.empty).rows
      ⟨organization, move.metric, periodOf move.readings .gauge⟩ = used := level
  have start : (adjustGauge organization move).alone (usageColumns bigInteger) store Draft.empty =
      (do
        ensureGaugeCapacity move.metric move.readings used move.delta
        moveGauge organization move : UsageScript UsageResult).alone (usageColumns bigInteger) store
            (Draft.empty.queried store.log.length) := by
    rw [adjustGauge, Script.alone_bind, asserted]
    change (Script.alone _ _ _ Draft.empty) = _
    rw [if_pos ⟨enforce, positive⟩, Script.alone_bind, alone_currentTotal kind, total]
    rfl
  rw [start, Script.alone_bind, ensureGaugeCapacity, Script.alone_bind, asserted]
  cases limit : move.readings.entitlements.limitOf move.metric with
  | none => exact alone_moveGauge rfl level
  | some value =>
      cases exceeded : overCapacity (some value) used move.delta with
      | true =>
          rw [if_pos rfl]
          refine ⟨⟨.usageLimitExceeded, move.metric ++ " limit reached (" ++ toString value ++ ")",
            [("metric", .str move.metric), ("limit", .int value), ("used", .int used),
              ("upgrade_url", .str "/dashboard/billing")]⟩, ?_, rfl⟩
          dsimp only [bind, Except.bind]
          rw [if_pos exceeded]
          rfl
      | false =>
          rw [if_neg Bool.false_ne_true]
          dsimp only [bind, Except.bind]
          rw [if_neg (by simp [exceeded])]
          exact @alone_moveGauge store (Draft.empty.queried store.log.length) _ _ _ rfl level

/-- The check announces every upward move of a gauge. -/
theorem adjustGauge_agrees (kind : before.kind = some .gauge) (alike : Alike before move.readings)
    (enforce : move.enforce = true) (positive : 1 ≤ move.delta)
    (level : 0 ≤ counterTotal store.rows ⟨organization, move.metric, gaugePeriod⟩) :
    Agrees organization move.metric before move.delta (adjustGauge organization move) store := by
  have outcome := alone_adjustGauge (alike.kind.trans kind) enforce positive
    (rfl : counterTotal store.rows ⟨organization, move.metric, gaugePeriod⟩ = _)
  have within_iff : (checkAgainst before move.metric (counterTotal store.rows
      ⟨organization, move.metric, periodOf before .gauge⟩) move.delta).withinLimit = true ↔
      ¬ overCapacity (move.readings.entitlements.limitOf move.metric) (counterTotal store.rows
        ⟨organization, move.metric, gaugePeriod⟩) move.delta = true := by
    rw [checkAgainst_withinLimit, alike.entitlements]
    cases before.entitlements.limitOf move.metric with
    | none => exact iff_of_true rfl Bool.false_ne_true
    | some value =>
        simp only [overCapacity, Option.all_some, Option.any_some, decide_eq_true_eq, not_lt]
        rfl
  refine ⟨_, _, alone_check kind, ?_⟩
  split at outcome
  · rename_i exceeded
    exact announces_of_refused (fun within => within_iff.mp within exceeded) outcome
  · rename_i room
    rcases outcome with ⟨error, failed⟩ | ⟨after, ran, total⟩
    · exact announces_of_other (within_iff.mpr room) failed
    · refine ⟨iff_of_true (within_iff.mpr room) (not_refused_of_ok ran),
        checkAgainst_entitled _, ?_⟩
      rw [max_eq_left (by omega)] at ran total
      intro told kept ended
      cases ran.symm.trans ended
      constructor
      · change (move.readings.entitlementsLater.limitOf move.metric).map _ = _
        rw [alike.entitlementsLater, checkAgainst_remaining, Option.map_map]
        congr 1
        funext value
        simp only [periodOf, Function.comp_apply]
        omega
      · intro next still
        exact checked_again kind total still

end Gauge

/-- The check, the refusal, `within_limit` and what remains agree for every quantity: for a
gauge always, for a counter exactly where the limit has room or the columns have. -/
theorem check_agrees_iff (store : UsageStore) (fitting : Fitting bigInteger store)
    (organization : Nat) (before : Readings) :
    (∀ call : UsageCall, before.kind = some .counter → Alike before call.readings →
      Fresh store organization call → 1 ≤ call.quantity →
      (Agrees organization call.metric before call.quantity (consume organization call) store ↔
        (∀ limit, before.entitlements.limitOf call.metric = some limit →
          totalAfter organization call before.now store ≤ limit) ∨
        call.quantity ≤ 2 ^ 63 - 1 ∧ totalAfter organization call before.now store ≤ 2 ^ 63 - 1)) ∧
    ∀ move : GaugeMove, before.kind = some .gauge → Alike before move.readings →
      move.enforce = true → 1 ≤ move.delta →
      0 ≤ counterTotal store.rows ⟨organization, move.metric, gaugePeriod⟩ →
      Agrees organization move.metric before move.delta (adjustGauge organization move) store :=
  ⟨fun _ kind alike unseen positive => consume_agrees_iff fitting kind alike unseen positive,
    fun _ kind alike enforce positive level =>
      adjustGauge_agrees kind alike enforce positive level⟩

/-! Searches of an organization that may make ten a month. -/

def searchReadings (clock : Int) : Readings where
  kind := some .counter
  now := clock
  entitlements := ⟨3, none, none, [], [("searches", ⟨some 10, some 50, none⟩)]⟩
  nowLater := clock
  entitlementsLater := ⟨3, none, none, [], [("searches", ⟨some 10, some 50, none⟩)]⟩
  transactionStart := clock
  softThreshold value ratio := value * ratio / 100
  eventId := 30
  aggregateIds := (31, 32)

def searching (quantity : Int) : UsageCall :=
  { metric := "searches", quantity, readings := searchReadings 1 }

theorem searching_alike (quantity : Int) :
    Alike (searchReadings 0) (searching quantity).readings :=
  ⟨rfl, rfl, rfl, show monthBucket 1 = monthBucket 0 by decide⟩

theorem searching_fresh (quantity : Int) : Fresh noUsage 3 (searching quantity) :=
  fun _ named => nomatch named

/-- A quantity that no column holds: the check says no, and the call is not refused for it. -/
theorem check_disagrees :
    (searchReadings 0).kind = some .counter ∧
    Alike (searchReadings 0) (searching (2 ^ 63)).readings ∧
    Fresh noUsage 3 (searching (2 ^ 63)) ∧ Fitting bigInteger noUsage ∧
    ¬ Agrees 3 "searches" (searchReadings 0) (2 ^ 63) (consume 3 (searching (2 ^ 63))) noUsage := by
  refine ⟨rfl, searching_alike _, searching_fresh _, noUsage_fitting _, ?_⟩
  rintro ⟨report, draft, checked, announced⟩
  cases checked.symm.trans (alone_check rfl)
  have ran : (consume 3 (searching (2 ^ 63))).alone (usageColumns bigInteger) noUsage Draft.empty =
      .error (.other .invalidData) :=
    (alone_consume_eq rfl).trans (alone_first_refused (by decide))
  have accepted := announced.refused.mpr (not_refused_of_other ran)
  exact absurd accepted (by decide)

/-- The last search of the month, and one too many. -/
theorem check_agrees_iff_tenth :
    Agrees 3 "searches" (searchReadings 0) 10 (consume 3 (searching 10)) noUsage ∧
    Agrees 3 "searches" (searchReadings 0) 11 (consume 3 (searching 11)) noUsage ∧
    Agrees 5 "projects" (adding 4).readings 4 (adjustGauge 5 (adding 4)) noUsage := by
  refine ⟨?_, ?_, ?_⟩
  · exact ((check_agrees_iff noUsage (noUsage_fitting _) 3 (searchReadings 0)).1 (searching 10) rfl
      (searching_alike _) (searching_fresh _) (by decide)).mpr (.inr (by decide))
  · exact ((check_agrees_iff noUsage (noUsage_fitting _) 3 (searchReadings 0)).1 (searching 11) rfl
      (searching_alike _) (searching_fresh _) (by decide)).mpr (.inr (by decide))
  · exact (check_agrees_iff noUsage (noUsage_fitting _) 5 (adding 4).readings).2 (adding 4) rfl
      ⟨rfl, rfl, rfl, rfl⟩ rfl (by decide) (by decide)

end SynapseSaas.Metering
