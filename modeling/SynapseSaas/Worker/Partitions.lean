import SynapseSaas.Core.Time
import SynapseSaas.Foundation.Delimited
import SynapseSaas.Foundation.Runs

/-! The monthly partitions of `usage_events`, made ahead by a job, and the default partition
that takes what no month takes. The clock is a Unix clock and the session is in UTC. -/

set_option autoImplicit false

namespace SynapseSaas.Partitions

structure Partition where
  name : List Char
  low : Int
  high : Int
  deriving DecidableEq, Repr

def Partition.Holds (partition : Partition) (occurredAt : Int) : Prop :=
  partition.low ≤ occurredAt ∧ occurredAt < partition.high

instance (partition : Partition) (occurredAt : Int) : Decidable (partition.Holds occurredAt) :=
  inferInstanceAs (Decidable (_ ∧ _))

structure UsageEvents where
  partitions : List Partition
  routed : List (Int × List Char) := []     -- an event and the partition that took it
  default : List Int := []                  -- the events of `usage_events_default`
  deriving DecidableEq, Repr

inductive PartitionError where
  | overlaps | defaultHoldsRows
  deriving DecidableEq, Repr

/-- `to_char(p, 'MM')`. -/
def twoDigits (number : Nat) : List Char := [Nat.digitChar (number / 10), Nat.digitChar (number % 10)]

/-- `usage_events_y%sm%s`; the years of the clock have four digits or more. -/
def partitionName (month : Int) : List Char :=
  "usage_events_y".toList ++ ((toString (month / 12).toNat).toList ++
    'm' :: twoDigits ((month % 12).toNat + 1))

/-- From the first of a month to the first of the next. -/
def monthly (month : Int) : Partition where
  name := partitionName month
  low := midnight (Calendar.firstDay month)
  high := midnight (Calendar.firstDay (month + 1))

def monthAt (instant : Int) : Int := Calendar.monthOf (dateOf instant)

/-- CREATE TABLE IF NOT EXISTS ... PARTITION OF usage_events FOR VALUES FROM ... TO ... -/
def createPartition (table : UsageEvents) (partition : Partition) :
    Except PartitionError UsageEvents :=
  if ∃ old ∈ table.partitions, old.name = partition.name then .ok table
  else if ∃ old ∈ table.partitions, old.low < partition.high ∧ partition.low < old.high then
    .error .overlaps
  else if ∃ occurredAt ∈ table.default, partition.Holds occurredAt then .error .defaultHoldsRows
  else .ok { table with partitions := table.partitions ++ [partition] }

/-- The DO block: so many months, from one on; an error undoes all of them. -/
def createMonths (table : UsageEvents) (months : List Int) : Except PartitionError UsageEvents :=
  months.foldlM (fun table month => createPartition table (monthly month)) table

def partitionMonthsAhead : Nat := 3

/-- The months from one on, so many. -/
def monthsFrom (month : Int) (count : Nat) : List Int :=
  (List.range count).map fun i => month + (i : Int)

/-- The months a run is to provide for. -/
def window (now : Nat) : List Int := monthsFrom (monthAt now) (partitionMonthsAhead + 1)

def ensurePartitions (now : Nat) (table : UsageEvents) :
    Except PartitionError (UsageEvents × Nat) := do
  let table ← createMonths table (window now)
  return (table, partitionMonthsAhead + 1)

/-- INSERT INTO usage_events. -/
def insertEvent (table : UsageEvents) (occurredAt : Int) : UsageEvents :=
  match table.partitions.find? fun partition => partition.Holds occurredAt with
  | some partition => { table with routed := table.routed ++ [(occurredAt, partition.name)] }
  | none => { table with default := table.default ++ [occurredAt] }

/-- The months the migration provides for. -/
def bootstrapped (installed : Nat) : List Int := monthsFrom (monthAt installed) 2

/-- The table as the migrations leave it. -/
def migrated (installed : Nat) : UsageEvents := ⟨(bootstrapped installed).map monthly, [], []⟩

inductive Happening where
  | ensure (now : Nat)
  | record (occurredAt : Int)
  deriving DecidableEq, Repr

def step (table : UsageEvents) : Happening → UsageEvents
  | .ensure now =>
      match ensurePartitions now table with
      | .ok (after, _) => after
      | .error _ => table
  | .record occurredAt => insertEvent table occurredAt

/-- A run succeeds, and its months have their own partitions then. -/
def Succeeds (table : UsageEvents) : Happening → Prop
  | .ensure now => ∃ after count, ensurePartitions now table = .ok (after, count) ∧
      ∀ month ∈ window now, monthly month ∈ after.partitions
  | .record _ => True

/-- Whatever a run provides for had been provided for, by the migration or an earlier run, when
an event of that month was recorded before it. -/
def RecordedInTime (installed : Nat) (history : List Happening) : Prop :=
  ∀ (early late : Nat) (occurredAt : Int) (now : Nat), early < late → history[early]? = some (Happening.record occurredAt) →
    history[late]? = some (Happening.ensure now) → monthAt occurredAt ∈ window now →
      monthAt occurredAt ∈ bootstrapped installed ∨
        ∃ before < early, ∃ earlier, history[before]? = some (Happening.ensure earlier) ∧
          monthAt occurredAt ∈ window earlier

/-! Months and their partitions. -/

theorem holds_iff (month occurredAt : Int) :
    (monthly month).Holds occurredAt ↔ monthAt occurredAt = month := by
  rw [monthAt, Calendar.monthOf_eq_iff, Partition.Holds, monthly, midnight_le_iff,
    ← not_le, midnight_le_iff, not_le]

theorem monthAt_nonneg (now : Nat) : 0 ≤ monthAt now := by
  have epoch : (12 * 1970 : Int) ≤ monthAt now := by
    rw [monthAt, Calendar.le_monthOf_iff]
    simp only [dateOf, day, second]
    have start : Calendar.firstDay (12 * 1970) = 0 := by decide
    omega
  omega

theorem mem_monthsFrom {month other : Int} {count : Nat} :
    other ∈ monthsFrom month count ↔ ∃ i < count, other = month + (i : Int) := by
  simp [monthsFrom, eq_comm]

theorem monthsFrom_nonneg {month other : Int} {count : Nat} (start : 0 ≤ month)
    (here : other ∈ monthsFrom month count) : 0 ≤ other := by
  obtain ⟨i, -, rfl⟩ := mem_monthsFrom.mp here
  omega

theorem partitionName_injective {first second : Int} (left : 0 ≤ first) (right : 0 ≤ second)
    (same : partitionName first = partitionName second) : first = second := by
  have stops (rest : List Char) :
      Delimited.Stops (fun symbol : Char => symbol.isDigit = true) ('m' :: rest) := by
    simp [Delimited.Stops]
  obtain ⟨years, rest⟩ := Delimited.number_unique (stops _) (stops _) (List.append_cancel_left same)
  have digits : ∀ i j : Fin 12, twoDigits (i.val + 1) = twoDigits (j.val + 1) → i = j := by decide
  have places := digits ⟨(first % 12).toNat, by omega⟩ ⟨(second % 12).toNat, by omega⟩
    (List.cons_eq_cons.mp rest).2
  have places := congrArg Fin.val places
  simp only at places
  omega

theorem monthly_apart {month other : Int} (different : month ≠ other) :
    ¬((monthly month).low < (monthly other).high ∧ (monthly other).low < (monthly month).high) := by
  rintro ⟨begins, ends⟩
  simp only [monthly, midnight, day, second] at begins ends
  have below : Calendar.firstDay month < Calendar.firstDay (other + 1) := by omega
  have above : Calendar.firstDay other < Calendar.firstDay (month + 1) := by omega
  have left := Calendar.firstDay_strictMono.lt_iff_lt.mp below
  have right := Calendar.firstDay_strictMono.lt_iff_lt.mp above
  omega

theorem monthly_injective {month other : Int} (same : monthly month = monthly other) :
    month = other := by
  have low := congrArg Partition.low same
  simp only [monthly, midnight, day, second] at low
  exact Calendar.firstDay_strictMono.injective (by omega)

/-- What every table satisfies: its partitions are months, and the default partition has no
event of theirs. -/
structure Valid (table : UsageEvents) : Prop where
  months : ∀ partition ∈ table.partitions, ∃ month, 0 ≤ month ∧ partition = monthly month
  apart : ∀ occurredAt ∈ table.default, monthly (monthAt occurredAt) ∉ table.partitions

section Create

variable {table : UsageEvents} {month : Int}

theorem Valid.named (valid : Valid table) (nonneg : 0 ≤ month) :
    (∃ old ∈ table.partitions, old.name = (monthly month).name) ↔
      monthly month ∈ table.partitions := by
  constructor
  · rintro ⟨old, here, same⟩
    obtain ⟨other, other_nonneg, rfl⟩ := valid.months old here
    rwa [← partitionName_injective other_nonneg nonneg same]
  · exact fun here => ⟨_, here, rfl⟩

/-- A month can be created unless the default partition holds one of its events. -/
theorem createPartition_monthly (valid : Valid table) (nonneg : 0 ≤ month) :
    createPartition table (monthly month) =
      if monthly month ∈ table.partitions then .ok table
      else if ∃ occurredAt ∈ table.default, monthAt occurredAt = month then .error .defaultHoldsRows
      else .ok { table with partitions := table.partitions ++ [monthly month] } := by
  have disjoint (absent : monthly month ∉ table.partitions) :
      ¬∃ old ∈ table.partitions,
        old.low < (monthly month).high ∧ (monthly month).low < old.high := by
    rintro ⟨old, here, overlap⟩
    obtain ⟨other, -, rfl⟩ := valid.months old here
    refine monthly_apart (fun same => absent ?_) overlap
    rwa [← same]
  simp only [createPartition, valid.named nonneg, holds_iff]
  split
  · rfl
  · next absent => rw [if_neg (disjoint absent)]

/-- One month of the block: it succeeds exactly where no event of it is in the default
partition, and then it has its partition. -/
theorem createPartition_spec (valid : Valid table) (nonneg : 0 ≤ month) :
    (∃ after, createPartition table (monthly month) = .ok after) ↔
      ∀ occurredAt ∈ table.default, monthAt occurredAt ≠ month := by
  rw [createPartition_monthly valid nonneg]
  constructor
  · rintro ⟨after, created⟩ occurredAt here rfl
    rw [if_neg (valid.apart occurredAt here), if_pos ⟨occurredAt, here, rfl⟩] at created
    cases created
  · intro clear
    split
    · exact ⟨_, rfl⟩
    · rw [if_neg (by simpa using clear)]
      exact ⟨_, rfl⟩

theorem createPartition_ok (valid : Valid table) (nonneg : 0 ≤ month) {after : UsageEvents}
    (created : createPartition table (monthly month) = .ok after) :
    Valid after ∧ after.default = table.default ∧
      ∀ partition, partition ∈ after.partitions ↔
        partition ∈ table.partitions ∨ partition = monthly month := by
  have clear := (createPartition_spec valid nonneg).mp ⟨after, created⟩
  have absent : ¬∃ occurredAt ∈ table.default, monthAt occurredAt = month := by simpa using clear
  rw [createPartition_monthly valid nonneg] at created
  by_cases here : monthly month ∈ table.partitions
  · rw [if_pos here] at created
    cases created
    refine ⟨valid, rfl, fun partition => ⟨.inl, ?_⟩⟩
    rintro (old | rfl)
    · exact old
    · exact here
  · rw [if_neg here, if_neg absent] at created
    cases created
    refine ⟨⟨?_, ?_⟩, rfl, by simp⟩
    · intro partition here
      obtain old | new := List.mem_append.mp here
      · exact valid.months partition old
      · exact ⟨month, nonneg, List.mem_singleton.mp new⟩
    · intro occurredAt here new
      obtain old | new := List.mem_append.mp new
      · exact valid.apart occurredAt here old
      · -- The new month would be that of an event in the default partition.
        exact clear occurredAt here (monthly_injective (List.mem_singleton.mp new))

end Create

/-- The block: it succeeds exactly where no event of its months is in the default partition,
and then each of them has its partition. -/
theorem createMonths_spec {table : UsageEvents} (valid : Valid table) {months : List Int}
    (nonneg : ∀ month ∈ months, 0 ≤ month) :
    ((∃ after, createMonths table months = .ok after) ↔
      ∀ occurredAt ∈ table.default, monthAt occurredAt ∉ months) ∧
    ∀ after, createMonths table months = .ok after → Valid after ∧ after.default = table.default ∧
      ∀ partition, partition ∈ after.partitions ↔
        partition ∈ table.partitions ∨ ∃ month ∈ months, partition = monthly month := by
  induction months generalizing table with
  | nil =>
      refine ⟨iff_of_true ⟨table, rfl⟩ (by simp), fun after created => ?_⟩
      cases created
      exact ⟨valid, rfl, by simp⟩
  | cons month rest ih =>
      obtain ⟨here, later⟩ := List.forall_mem_cons.mp nonneg
      have clear := createPartition_spec valid here
      cases created : createPartition table (monthly month) with
      | error error =>
          have failed : createMonths table (month :: rest) = .error error := by
            rw [createMonths, List.foldlM_cons, created]
            rfl
          rw [created] at clear
          refine ⟨iff_of_false (by simp [failed]) fun none => ?_, by simp [failed]⟩
          obtain ⟨after, impossible⟩ := clear.mpr fun occurredAt member same =>
            none occurredAt member (by simp [same])
          cases impossible
      | ok next =>
          obtain ⟨next_valid, same, partitions⟩ := createPartition_ok valid here created
          have goes : createMonths table (month :: rest) = createMonths next rest := by
            rw [createMonths, List.foldlM_cons, created]
            rfl
          obtain ⟨succeeds, result⟩ := ih next_valid later
          rw [goes]
          constructor
          · rw [succeeds, same]
            have clear := clear.mp ⟨next, created⟩
            constructor
            · intro rest_clear occurredAt member among
              obtain rfl | among := List.mem_cons.mp among
              · exact clear occurredAt member rfl
              · exact rest_clear occurredAt member among
            · exact fun all occurredAt member among =>
                all occurredAt member (List.mem_cons_of_mem _ among)
          · intro after ended
            obtain ⟨after_valid, kept, all⟩ := result after ended
            refine ⟨after_valid, kept.trans same, fun partition => ?_⟩
            rw [all, partitions]
            simp only [List.mem_cons, exists_eq_or_imp, or_assoc]

theorem window_nonneg (now : Nat) : ∀ month ∈ window now, 0 ≤ month :=
  fun _ here => monthsFrom_nonneg (monthAt_nonneg now) here

/-- A run succeeds exactly where the default partition has no event of its months. -/
theorem succeeds_ensure_iff {table : UsageEvents} (valid : Valid table) (now : Nat) :
    Succeeds table (.ensure now) ↔
      ∀ occurredAt ∈ table.default, monthAt occurredAt ∉ window now := by
  obtain ⟨succeeds, result⟩ := createMonths_spec valid (window_nonneg now)
  rw [← succeeds]
  constructor
  · rintro ⟨after, count, ended, -⟩
    cases created : createMonths table (window now) with
    | ok next => exact ⟨next, rfl⟩
    | error error =>
        rw [ensurePartitions, created] at ended
        cases ended
  · rintro ⟨after, created⟩
    refine ⟨after, partitionMonthsAhead + 1, by rw [ensurePartitions, created]; rfl, ?_⟩
    exact fun month here => ((result after created).2.2 _).mpr (.inr ⟨month, here, rfl⟩)

/-! What one step does to the partitions and the default partition. -/

section Step

variable {table : UsageEvents}

theorem step_ensure (valid : Valid table) (now : Nat) :
    Valid (step table (.ensure now)) ∧ (step table (.ensure now)).default = table.default ∧
      (∀ partition ∈ table.partitions, partition ∈ (step table (.ensure now)).partitions) ∧
      ∀ partition ∈ (step table (.ensure now)).partitions,
        partition ∈ table.partitions ∨ ∃ month ∈ window now, partition = monthly month := by
  obtain ⟨-, result⟩ := createMonths_spec valid (window_nonneg now)
  cases created : createMonths table (window now) with
  | error error =>
      have same : step table (.ensure now) = table := by
        simp only [step, ensurePartitions, created]
        rfl
      rw [same]
      exact ⟨valid, rfl, fun _ => id, fun _ => .inl⟩
  | ok after =>
      have next : step table (.ensure now) = after := by
        simp only [step, ensurePartitions, created]
        rfl
      obtain ⟨after_valid, kept, all⟩ := result after created
      rw [next]
      exact ⟨after_valid, kept, fun partition old => (all partition).mpr (.inl old),
        fun partition => (all partition).mp⟩

theorem step_record (valid : Valid table) (occurredAt : Int) :
    Valid (step table (.record occurredAt)) ∧
      (step table (.record occurredAt)).partitions = table.partitions ∧
      (step table (.record occurredAt)).default =
        if monthly (monthAt occurredAt) ∈ table.partitions then table.default
        else table.default ++ [occurredAt] := by
  have taken : (∃ partition ∈ table.partitions, partition.Holds occurredAt) ↔
      monthly (monthAt occurredAt) ∈ table.partitions := by
    constructor
    · rintro ⟨partition, here, holds⟩
      obtain ⟨month, -, rfl⟩ := valid.months partition here
      rwa [(holds_iff month occurredAt).mp holds]
    · exact fun here => ⟨_, here, (holds_iff _ _).mpr rfl⟩
  simp only [step, insertEvent]
  cases found : table.partitions.find? fun partition => partition.Holds occurredAt with
  | some partition =>
      have here := List.mem_of_find?_eq_some found
      have holds : partition.Holds occurredAt := by simpa using List.find?_some found
      rw [if_pos (taken.mp ⟨partition, here, holds⟩)]
      exact ⟨⟨valid.months, valid.apart⟩, rfl, rfl⟩
  | none =>
      have absent : monthly (monthAt occurredAt) ∉ table.partitions := by
        rw [← taken]
        simpa using found
      rw [if_neg absent]
      refine ⟨⟨valid.months, fun other here => ?_⟩, rfl, rfl⟩
      obtain old | new := List.mem_append.mp here
      · exact valid.apart other old
      · rwa [List.mem_singleton.mp new]

theorem step_valid (action : Happening) (valid : Valid table) : Valid (step table action) := by
  cases action with
  | ensure now => exact (step_ensure valid now).1
  | record occurredAt => exact (step_record valid occurredAt).1

end Step

theorem migrated_valid (installed : Nat) : Valid (migrated installed) where
  months partition here := by
    obtain ⟨month, among, rfl⟩ := List.mem_map.mp here
    exact ⟨month, monthsFrom_nonneg (monthAt_nonneg installed) among, rfl⟩
  apart _ here := absurd here (List.not_mem_nil)

/-! Along a history. -/

section History

variable {installed : Nat} {history : List Happening}

/-- The table after the first so many happenings. -/
def tableAt (installed : Nat) (history : List Happening) (count : Nat) : UsageEvents :=
  Runs.reached step (migrated installed) history count

theorem tableAt_succ {count : Nat} {action : Happening} (here : history[count]? = some action) :
    tableAt installed history (count + 1) = step (tableAt installed history count) action :=
  Runs.reached_succ step here

theorem tableAt_over {count : Nat} (none_left : history[count]? = none) :
    tableAt installed history (count + 1) = tableAt installed history count :=
  Runs.reached_over step none_left

theorem tableAt_valid (installed : Nat) (history : List Happening) (count : Nat) :
    Valid (tableAt installed history count) :=
  Runs.run_invariant step (fun _ action valid => step_valid action valid)
    (migrated_valid installed) _

/-- Partitions and the events of the default partition stay. -/
theorem tableAt_kept {early late : Nat} (before : early ≤ late) :
    (∀ partition ∈ (tableAt installed history early).partitions,
      partition ∈ (tableAt installed history late).partitions) ∧
    ∀ occurredAt ∈ (tableAt installed history early).default,
      occurredAt ∈ (tableAt installed history late).default := by
  induction late, before using Nat.le_induction with
  | base => exact ⟨fun _ => id, fun _ => id⟩
  | succ late _ ih =>
      obtain ⟨partitions, events⟩ := ih
      cases found : history[late]? with
      | none =>
          rw [tableAt_over found]
          exact ⟨partitions, events⟩
      | some action =>
          rw [tableAt_succ found]
          have valid := tableAt_valid installed history late
          cases action with
          | ensure now =>
              obtain ⟨-, same, kept, -⟩ := step_ensure valid now
              rw [same]
              exact ⟨fun partition here => kept partition (partitions partition here), events⟩
          | record occurredAt =>
              obtain ⟨-, same, appended⟩ := step_record valid occurredAt
              rw [same, appended]
              refine ⟨partitions, fun other here => ?_⟩
              split
              · exact events other here
              · exact List.mem_append_left _ (events other here)

/-- An event of the default partition was recorded when its month had no partition. -/
theorem default_recorded {count : Nat} {occurredAt : Int}
    (here : occurredAt ∈ (tableAt installed history count).default) :
    ∃ early < count, history[early]? = some (.record occurredAt) ∧
      monthly (monthAt occurredAt) ∉ (tableAt installed history early).partitions := by
  induction count with
  | zero => cases here
  | succ count ih =>
      have earlier (old : occurredAt ∈ (tableAt installed history count).default) :
          ∃ early < count + 1, history[early]? = some (.record occurredAt) ∧
            monthly (monthAt occurredAt) ∉ (tableAt installed history early).partitions := by
        obtain ⟨early, before, found⟩ := ih old
        exact ⟨early, Nat.lt_succ_of_lt before, found⟩
      cases found : history[count]? with
      | none =>
          rw [tableAt_over found] at here
          exact earlier here
      | some action =>
          rw [tableAt_succ found] at here
          have valid := tableAt_valid installed history count
          cases action with
          | ensure now =>
              rw [(step_ensure valid now).2.1] at here
              exact earlier here
          | record other =>
              rw [(step_record valid other).2.2] at here
              split at here
              · exact earlier here
              · next absent =>
                obtain old | new := List.mem_append.mp here
                · exact earlier old
                · rw [List.mem_singleton.mp new]
                  exact ⟨count, Nat.lt_succ_self count, found, absent⟩

/-- A partition was made by the migration or by a run that provides for its month. -/
theorem partition_provided {count : Nat} {month : Int}
    (here : monthly month ∈ (tableAt installed history count).partitions) :
    month ∈ bootstrapped installed ∨ ∃ before < count, ∃ earlier,
      history[before]? = some (.ensure earlier) ∧ month ∈ window earlier := by
  induction count with
  | zero =>
      obtain ⟨other, among, same⟩ := List.mem_map.mp here
      rw [← monthly_injective same]
      exact .inl among
  | succ count ih =>
      have earlier (old : monthly month ∈ (tableAt installed history count).partitions) :
          month ∈ bootstrapped installed ∨ ∃ before < count + 1, ∃ earlier,
            history[before]? = some (.ensure earlier) ∧ month ∈ window earlier := by
        obtain first | ⟨before, less, provided⟩ := ih old
        · exact .inl first
        · exact .inr ⟨before, Nat.lt_succ_of_lt less, provided⟩
      cases found : history[count]? with
      | none =>
          rw [tableAt_over found] at here
          exact earlier here
      | some action =>
          rw [tableAt_succ found] at here
          have valid := tableAt_valid installed history count
          cases action with
          | ensure now =>
              obtain old | ⟨other, among, same⟩ := (step_ensure valid now).2.2.2 _ here
              · exact earlier old
              · rw [monthly_injective same]
                exact .inr ⟨count, Nat.lt_succ_self count, now, found, among⟩
          | record other =>
              rw [(step_record valid other).2.1] at here
              exact earlier here

/-- What a successful run provides for is there from then on. -/
theorem provided_of_succeeds {before late : Nat} {now : Nat} {month : Int}
    (run : history[before]? = some (.ensure now))
    (succeeds : Succeeds (tableAt installed history before) (.ensure now))
    (among : month ∈ window now) (later : before < late) :
    monthly month ∈ (tableAt installed history late).partitions := by
  obtain ⟨after, count, ended, provided⟩ := succeeds
  refine (tableAt_kept later).1 _ ?_
  rw [tableAt_succ run, step, ended]
  exact provided month among

end History

/-- Every run of a history succeeds and provides for its months exactly where no event was
recorded before its month was provided for and a later run still had to provide for it. -/
theorem lapses_survived_iff (installed : Nat) (history : List Happening) :
    Runs.Guarded step Succeeds (migrated installed) history ↔
      RecordedInTime installed history := by
  rw [Runs.guarded_iff_reached]
  constructor
  · intro succeeds early late occurredAt now less recorded run among
    by_contra late_provided
    -- The event went to the default partition, where the later run finds it.
    have absent : monthly (monthAt occurredAt) ∉ (tableAt installed history early).partitions :=
      fun here => late_provided (partition_provided here)
    have stored : occurredAt ∈ (tableAt installed history (early + 1)).default := by
      rw [tableAt_succ recorded, (step_record (tableAt_valid ..) occurredAt).2.2, if_neg absent]
      exact List.mem_append_right _ List.mem_cons_self
    have clear := (succeeds_ensure_iff (tableAt_valid installed history late) now).mp
      (succeeds late _ run)
    exact clear occurredAt ((tableAt_kept less).2 _ stored) among
  · intro inTime late action run
    induction late using Nat.strongRecOn generalizing action with
    | ind late ih =>
        cases action with
        | record occurredAt => trivial
        | ensure now =>
            refine (succeeds_ensure_iff (tableAt_valid installed history late) now).mpr ?_
            intro occurredAt stored among
            obtain ⟨early, less, recorded, absent⟩ := default_recorded stored
            obtain first | ⟨before, sooner, earlier, run', provided⟩ :=
              inTime early late occurredAt now less recorded run among
            · exact absent ((tableAt_kept (Nat.zero_le early)).1 _ (List.mem_map_of_mem first))
            · have succeeded := ih before (sooner.trans less) _ run'
              exact absent (provided_of_succeeds run' succeeded provided sooner)

/-- Installed in January 2026, when the job runs once, an event of June is recorded in June
before the job runs again: that run fails, and so does the one a day later. -/
theorem lapse_not_survived :
    let afterwards := Runs.run step (migrated 1767225600000000)
      [.ensure 1767225600000000, .record 1780272000000000]
    ensurePartitions 1780272000000000 afterwards = .error .defaultHoldsRows ∧
      ensurePartitions 1780358400000000 (step afterwards (.ensure 1780272000000000)) =
        .error .defaultHoldsRows ∧
      ¬Runs.Guarded step Succeeds (migrated 1767225600000000)
        [.ensure 1767225600000000, .record 1780272000000000, .ensure 1780272000000000,
          .ensure 1780358400000000] := by
  intro afterwards
  have fails : ensurePartitions 1780272000000000 afterwards = .error .defaultHoldsRows := by decide
  have again : ensurePartitions 1780358400000000 (step afterwards (.ensure 1780272000000000)) =
      .error .defaultHoldsRows := by decide
  refine ⟨fails, again, ?_⟩
  rintro ⟨-, -, ⟨after, count, succeeded, -⟩, -⟩
  have answer : ensurePartitions 1780272000000000 afterwards = .ok (after, count) := succeeded
  rw [fails] at answer
  cases answer

end SynapseSaas.Partitions
