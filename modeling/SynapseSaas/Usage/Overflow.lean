import SynapseSaas.Usage.Alone

/-! Totals and the range of their columns. The quantity of an event is bounded from below
only, and so is what a month adds up to. -/

set_option autoImplicit false

namespace SynapseSaas.Metering

open ReadCommitted UsageService

/-- What a `BigInteger` column holds. -/
def bigInteger (value : Int) : Bool := -2 ^ 63 ≤ value ∧ value ≤ 2 ^ 63 - 1

/-- `record` for an organization. -/
structure RecordRequest where
  organization : Nat
  call : UsageCall

namespace RecordRequest

def key (request : RecordRequest) : Option IdempotencyKey := request.call.key request.organization

def occurredAt (request : RecordRequest) : Int :=
  request.call.occurredAt.getD request.call.readings.now

def counter (request : RecordRequest) : CounterKey :=
  ⟨request.organization, request.call.metric, monthBucket request.occurredAt⟩

/-- What the schema asks of a request on a counter. -/
structure Admitted (request : RecordRequest) : Prop where
  quantity : 1 ≤ request.call.quantity
  kind : request.call.readings.kind = some .counter

end RecordRequest

def recordStep (store : UsageStore) (request : RecordRequest) : UsageStore :=
  (record request.organization request.call).after (usageColumns bigInteger) store

/-- The request is answered. -/
def IsCounted (store : UsageStore) (request : RecordRequest) : Prop :=
  ((record request.organization request.call).alone (usageColumns bigInteger) store
    Draft.empty).isOk

instance : (store : UsageStore) → (request : RecordRequest) → Decidable (IsCounted store request) :=
  fun _ _ => inferInstanceAs (Decidable (_ = true))

/-- The keys a store has seen. -/
def knownTo (store : UsageStore) (key : IdempotencyKey) : Bool :=
  (store.rows (.idempotency key)).isSome

/-- What a request adds to a counter, unless its key is known. -/
def adds (counter : CounterKey) (known : IdempotencyKey → Bool) (request : RecordRequest) : Int :=
  if request.key.any known then 0
  else if counter = request.counter then request.call.quantity else 0

def knows (known : IdempotencyKey → Bool) (request : RecordRequest) (key : IdempotencyKey) : Bool :=
  known key || request.key = some key

/-- What the requests add to a counter: their quantities, each key once. -/
def demand (counter : CounterKey) (known : IdempotencyKey → Bool) : List RecordRequest → Int
  | [] => 0
  | request :: rest => adds counter known request + demand counter (knows known request) rest

theorem adds_nonneg (counter : CounterKey) (known : IdempotencyKey → Bool) {request : RecordRequest}
    (admitted : request.Admitted) : 0 ≤ adds counter known request := by
  have positive := admitted.quantity
  unfold adds
  split_ifs <;> omega

theorem demand_nonneg (counter : CounterKey) (known : IdempotencyKey → Bool)
    {requests : List RecordRequest} (admitted : ∀ request ∈ requests, request.Admitted) :
    0 ≤ demand counter known requests := by
  induction requests generalizing known with
  | nil => exact le_rfl
  | cons request rest ih =>
      obtain ⟨here, admitted⟩ := List.forall_mem_cons.mp admitted
      have first := adds_nonneg counter known here
      have later := ih (knows known request) admitted
      rw [demand]
      omega

theorem bigInteger_total {store : UsageStore} (fitting : Fitting bigInteger store)
    (counter : CounterKey) :
    -2 ^ 63 ≤ counterTotal store.rows counter ∧ counterTotal store.rows counter ≤ 2 ^ 63 - 1 := by
  have holds := fitting.total (by decide) counter
  simpa only [bigInteger, decide_eq_true_eq] using holds

section Step

variable {store : UsageStore} {request : RecordRequest}

theorem not_isCounted_of_error {failure : Failure}
    (failed : (record request.organization request.call).alone (usageColumns bigInteger) store
      Draft.empty = .error failure) : ¬ IsCounted store request := by
  rw [IsCounted, failed]
  exact Bool.false_ne_true

/-- What an answered request has done. -/
structure Advanced (store after : UsageStore) (request : RecordRequest) : Prop where
  fitting : Fitting bigInteger after
  totals : ∀ counter, counterTotal after.rows counter =
    counterTotal store.rows counter + adds counter (knownTo store) request
  known : knownTo after = knows (knownTo store) request

theorem recordStep_seen (admitted : request.Admitted) (fitting : Fitting bigInteger store)
    (quantity : bigInteger request.call.quantity) (replayed : request.key.any (knownTo store)) :
    IsCounted store request ∧ Advanced store (recordStep store request) request := by
  obtain ⟨key, named, known⟩ := (Option.any_eq_true _ _).mp replayed
  obtain ⟨row, seen⟩ := Option.isSome_iff_exists.mp known
  obtain ⟨answer, after, ran, same⟩ := alone_record_seen admitted.kind quantity named seen
  have same : recordStep store request = store := by
    rw [recordStep, Script.after_of_ok ran]
    exact same
  refine ⟨by rw [IsCounted, ran]; rfl, by rwa [same], fun counter => ?_, ?_⟩
  · rw [same, adds, if_pos replayed, Int.add_zero]
  · funext other
    rw [same, knows, named]
    by_cases here : some key = some other
    · cases here
      simp [known]
    · simp [here]

theorem fresh_of_unknown (unknown : ¬ request.key.any (knownTo store)) :
    Fresh store request.organization request.call := by
  intro key named
  by_contra seen
  exact unknown ((Option.any_eq_true _ _).mpr ⟨key, named, Option.isSome_iff_ne_none.mpr seen⟩)

theorem recordStep_fresh (admitted : request.Admitted) (fitting : Fitting bigInteger store)
    (quantity : bigInteger request.call.quantity) (unknown : ¬ request.key.any (knownTo store))
    (holds : bigInteger (counterTotal store.rows request.counter + request.call.quantity)) :
    IsCounted store request ∧ Advanced store (recordStep store request) request := by
  obtain ⟨after, ran, metered⟩ :=
    alone_record admitted.kind (fresh_of_unknown unknown) fitting quantity rfl holds
  have metered : Metered request.organization request.call request.occurredAt store
      (recordStep store request) := by
    rw [recordStep, Script.after_of_ok ran]
    exact metered
  refine ⟨by rw [IsCounted, ran]; rfl, metered.fitting fitting (by decide) holds,
    fun counter => ?_, ?_⟩
  · rw [metered.total, adds, if_neg unknown]
    rfl
  · funext key
    rw [Bool.eq_iff_iff, knows, Bool.or_eq_true, decide_eq_true_eq]
    exact metered.keys key

/-- A request is answered exactly where its quantity and the totals after it fit. -/
theorem isCounted_iff (admitted : request.Admitted) (fitting : Fitting bigInteger store) :
    (IsCounted store request ↔ request.call.quantity ≤ 2 ^ 63 - 1 ∧
      ∀ counter, counterTotal store.rows counter + adds counter (knownTo store) request ≤
        2 ^ 63 - 1) ∧
    (IsCounted store request → Advanced store (recordStep store request) request) := by
  have positive := admitted.quantity
  cases quantity : bigInteger request.call.quantity with
  | false =>
      have large : ¬ request.call.quantity ≤ 2 ^ 63 - 1 := by
        simp only [bigInteger, decide_eq_false_iff_not] at quantity
        omega
      have refused : ¬ IsCounted store request :=
        not_isCounted_of_error ((alone_record_eq admitted.kind).trans (alone_first_refused quantity))
      exact ⟨iff_of_false refused fun bounds => large bounds.1, fun counted => absurd counted refused⟩
  | true =>
      have small : request.call.quantity ≤ 2 ^ 63 - 1 := by
        simp only [bigInteger, decide_eq_true_eq] at quantity
        exact quantity.2
      by_cases replayed : request.key.any (knownTo store)
      · obtain ⟨counted, advanced⟩ := recordStep_seen admitted fitting quantity replayed
        refine ⟨iff_of_true counted ⟨small, fun counter => ?_⟩, fun _ => advanced⟩
        rw [adds, if_pos replayed, Int.add_zero]
        exact (bigInteger_total fitting counter).2
      · cases holds : bigInteger
            (counterTotal store.rows request.counter + request.call.quantity) with
        | true =>
            obtain ⟨counted, advanced⟩ := recordStep_fresh admitted fitting quantity replayed holds
            refine ⟨iff_of_true counted ⟨small, fun counter => ?_⟩, fun _ => advanced⟩
            rw [← advanced.totals]
            exact (bigInteger_total advanced.fitting counter).2
        | false =>
            have refused : ¬ IsCounted store request :=
              not_isCounted_of_error ((alone_record_eq admitted.kind).trans
                (alone_first_spilt (fresh_of_unknown replayed) quantity holds))
            refine ⟨iff_of_false refused fun bounds => ?_, fun counted => absurd counted refused⟩
            have bound := bounds.2 request.counter
            have lower := bigInteger_total fitting request.counter
            rw [adds, if_neg replayed, if_pos rfl] at bound
            simp only [bigInteger, decide_eq_false_iff_not] at holds
            omega

end Step

/-- The quantities and the totals they add up to stay in the range of their columns. -/
def Fits (start : UsageStore) (requests : List RecordRequest) : Prop :=
  (∀ request ∈ requests, request.call.quantity ≤ 2 ^ 63 - 1) ∧
  ∀ counter, counterTotal start.rows counter + demand counter (knownTo start) requests ≤ 2 ^ 63 - 1

theorem guarded_iff_fits {start : UsageStore} (fitting : Fitting bigInteger start)
    {requests : List RecordRequest} (admitted : ∀ request ∈ requests, request.Admitted) :
    Runs.Guarded recordStep IsCounted start requests ↔ Fits start requests := by
  induction requests generalizing start with
  | nil =>
      have totals (counter : CounterKey) := (bigInteger_total fitting counter).2
      simpa [Runs.Guarded, Fits, demand] using totals
  | cons request rest ih =>
      obtain ⟨here, admitted⟩ := List.forall_mem_cons.mp admitted
      obtain ⟨answered, advances⟩ := isCounted_iff here fitting
      constructor
      · rintro ⟨counted, later⟩
        have advanced := advances counted
        obtain ⟨small, totals⟩ := (ih advanced.fitting admitted).mp later
        refine ⟨List.forall_mem_cons.mpr ⟨(answered.mp counted).1, small⟩, fun counter => ?_⟩
        have total := totals counter
        rw [advanced.totals, advanced.known] at total
        rw [demand]
        omega
      · rintro ⟨small, totals⟩
        obtain ⟨small, smaller⟩ := List.forall_mem_cons.mp small
        have counted : IsCounted start request := by
          refine answered.mpr ⟨small, fun counter => ?_⟩
          have total := totals counter
          have later := demand_nonneg counter (knows (knownTo start) request) admitted
          rw [demand] at total
          omega
        have advanced := advances counted
        refine ⟨counted, (ih advanced.fitting admitted).mpr ⟨smaller, fun counter => ?_⟩⟩
        have total := totals counter
        rw [demand] at total
        rw [advanced.totals, advanced.known]
        omega

/-- What is committed once they are all counted. -/
theorem totals_of_fits {start : UsageStore} (fitting : Fitting bigInteger start)
    {requests : List RecordRequest} (admitted : ∀ request ∈ requests, request.Admitted)
    (fits : Fits start requests) :
    Fitting bigInteger (Runs.run recordStep start requests) ∧
    (∀ counter, counterTotal (Runs.run recordStep start requests).rows counter =
      counterTotal start.rows counter + demand counter (knownTo start) requests) ∧
    knownTo (Runs.run recordStep start requests) = requests.foldl knows (knownTo start) := by
  induction requests generalizing start with
  | nil => exact ⟨fitting, fun counter => (Int.add_zero _).symm, rfl⟩
  | cons request rest ih =>
      obtain ⟨counted, later⟩ := (guarded_iff_fits fitting admitted).mpr fits
      obtain ⟨here, admitted⟩ := List.forall_mem_cons.mp admitted
      have advanced := (isCounted_iff here fitting).2 counted
      obtain ⟨fitting, totals, known⟩ := ih advanced.fitting admitted
        ((guarded_iff_fits advanced.fitting admitted).mp later)
      refine ⟨fitting, fun counter => ?_, ?_⟩
      · rw [Runs.run_cons, totals, advanced.totals, advanced.known, demand]
        omega
      · rw [Runs.run_cons, known, advanced.known]
        rfl

/-- `consume` fails by its columns where its quantity or its total does not fit. -/
theorem consume_overflows_iff {store : UsageStore} (fitting : Fitting bigInteger store)
    {organization : Nat} {call : UsageCall} (kind : call.readings.kind = some .counter)
    (positive : 1 ≤ call.quantity) :
    (consume organization call).alone (usageColumns bigInteger) store Draft.empty =
        .error (.other .invalidData) ↔
      ¬ (call.quantity ≤ 2 ^ 63 - 1 ∧ (Fresh store organization call →
        totalAfter organization call call.readings.now store ≤ 2 ^ 63 - 1)) := by
  cases quantity : bigInteger call.quantity with
  | false =>
      have large : ¬ call.quantity ≤ 2 ^ 63 - 1 := by
        simp only [bigInteger, decide_eq_false_iff_not] at quantity
        omega
      exact iff_of_true ((alone_consume_eq kind).trans (alone_first_refused quantity))
        fun bounds => large bounds.1
  | true =>
      have small : call.quantity ≤ 2 ^ 63 - 1 := by
        simp only [bigInteger, decide_eq_true_eq] at quantity
        exact quantity.2
      by_cases unseen : Fresh store organization call
      · have lower := bigInteger_total fitting
          ⟨organization, call.metric, monthBucket call.readings.now⟩
        cases holds : bigInteger (totalAfter organization call call.readings.now store) with
        | false =>
            refine iff_of_true ((alone_consume_eq kind).trans
              (alone_first_spilt unseen quantity holds)) fun bounds => ?_
            have bound := bounds.2 unseen
            simp only [bigInteger, decide_eq_false_iff_not] at holds
            unfold totalAfter at holds bound
            omega
        | true =>
            have bound : totalAfter organization call call.readings.now store ≤ 2 ^ 63 - 1 := by
              simp only [bigInteger, decide_eq_true_eq] at holds
              exact holds.2
            refine iff_of_false ?_ fun refused => refused ⟨small, fun _ => bound⟩
            by_cases within : ∀ limit, limitValue call = some limit →
                totalAfter organization call call.readings.now store ≤ limit
            · obtain ⟨after, ran, -⟩ := alone_consume kind unseen fitting quantity holds within
              rw [ran]
              exact nofun
            · push Not at within
              obtain ⟨limit, limited, above⟩ := within
              obtain ⟨error, ran, -⟩ :=
                alone_consume_refused kind unseen quantity holds limited above
              rw [ran]
              exact nofun
      · refine iff_of_false ?_ fun refused => refused ⟨small, fun fresh => absurd fresh unseen⟩
        simp only [Fresh, not_forall] at unseen
        obtain ⟨key, named, seen⟩ := unseen
        obtain ⟨row, seen⟩ := Option.ne_none_iff_exists'.mp seen
        obtain ⟨answer, after, ran, -⟩ := alone_consume_seen kind quantity named seen
        rw [ran]
        exact nofun

/-- Every request of a run is counted exactly as long as no quantity, and no total of the
quantities under new keys, leaves the range of its column; and what the run has counted
fails a later `consume` exactly where the two together leave it. -/
theorem metering_never_overflows_iff (start : UsageStore) (fitting : Fitting bigInteger start)
    (requests : List RecordRequest) (admitted : ∀ request ∈ requests, request.Admitted) :
    (Runs.Guarded recordStep IsCounted start requests ↔ Fits start requests) ∧
    (Fits start requests → ∀ (organization : Nat) (call : UsageCall),
      call.readings.kind = some .counter → 1 ≤ call.quantity →
      ((consume organization call).alone (usageColumns bigInteger)
          (Runs.run recordStep start requests) Draft.empty ≠ .error (.other .invalidData) ↔
        call.quantity ≤ 2 ^ 63 - 1 ∧
        ((∀ key, call.key organization = some key →
            requests.foldl knows (knownTo start) key = false) →
          counterTotal start.rows ⟨organization, call.metric, monthBucket call.readings.now⟩ +
            demand ⟨organization, call.metric, monthBucket call.readings.now⟩ (knownTo start)
              requests + call.quantity ≤ 2 ^ 63 - 1))) := by
  refine ⟨guarded_iff_fits fitting admitted, fun fits organization call kind positive => ?_⟩
  obtain ⟨still, totals, known⟩ := totals_of_fits fitting admitted fits
  have fresh : Fresh (Runs.run recordStep start requests) organization call ↔
      ∀ key, call.key organization = some key →
        requests.foldl knows (knownTo start) key = false := by
    rw [← known]
    refine forall_congr' fun key => imp_congr_right fun _ => ?_
    rw [knownTo, Option.isSome_eq_false_iff, Option.isNone_iff_eq_none]
  rw [Ne, consume_overflows_iff still kind positive, not_not, fresh, totalAfter, totals]

/-! A first month of exports: the largest quantity leaves no room for one more. -/

def noUsage : UsageStore := ⟨fun _ => none, []⟩

def exporting (quantity : Int) (key : Option String) : RecordRequest where
  organization := 6
  call :=
    { metric := "exports", quantity, idempotencyKey := key
      readings :=
        { kind := some .counter, now := 0, entitlements := ⟨6, none, none, [], []⟩, nowLater := 0
          entitlementsLater := ⟨6, none, none, [], []⟩, transactionStart := 0
          softThreshold := fun value _ => value, eventId := 60, aggregateIds := (61, 62) } }

theorem exporting_admitted {quantity : Int} (positive : 1 ≤ quantity) (key : Option String) :
    (exporting quantity key).Admitted := ⟨positive, rfl⟩

theorem noUsage_fitting (fits : Int → Bool) : Fitting fits noUsage := fun _ _ here => nomatch here

/-- A request that was answered fails the next one. -/
theorem recording_overflows :
    (∀ request ∈ [exporting (2 ^ 63 - 1) none, exporting 1 none], request.Admitted) ∧
    Fitting bigInteger noUsage ∧ IsCounted noUsage (exporting (2 ^ 63 - 1) none) ∧
    ¬ Runs.Guarded recordStep IsCounted noUsage
      [exporting (2 ^ 63 - 1) none, exporting 1 none] := by
  refine ⟨?_, noUsage_fitting _, by decide +kernel, by decide +kernel⟩
  simp [exporting_admitted]

/-- A replay among three requests. -/
theorem metering_never_overflows_iff_replayed :
    (Runs.Guarded recordStep IsCounted noUsage
        [exporting 5 (some "a"), exporting 7 none, exporting 5 (some "a")] ↔
      Fits noUsage [exporting 5 (some "a"), exporting 7 none, exporting 5 (some "a")]) ∧
    Runs.Guarded recordStep IsCounted noUsage
      [exporting 5 (some "a"), exporting 7 none, exporting 5 (some "a")] ∧
    demand (exporting 7 none).counter (knownTo noUsage)
      [exporting 5 (some "a"), exporting 7 none, exporting 5 (some "a")] = 12 := by
  refine ⟨(metering_never_overflows_iff noUsage (noUsage_fitting _) _ ?_).1, by decide +kernel,
    by decide +kernel⟩
  simp [exporting_admitted]

end SynapseSaas.Metering
