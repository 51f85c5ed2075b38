import SynapseSaas.Usage.Transactions

/-! Usage limits under concurrency: the check stands after the increment, and a
breach takes the increment with it. -/

set_option autoImplicit false

namespace SynapseSaas

open ReadCommitted UsageService

/-- Requests that enforce the limit. -/
def UsageRequest.Consumes : UsageRequest → Prop
  | .consume .. | .consumeMany .. => True
  | .record .. | .rollup _ => False

/-- Every call of a request that spends the counter's metric finds one limit. -/
def UsageRequest.LimitedTo (request : UsageRequest) (counter : CounterKey) (limit : Int) : Prop :=
  ∀ call ∈ request.calls, call.1 = counter.organizationId → call.2.metric = counter.metric →
    limitValue call.2 = some limit

/-- Every counter of every database is within the cap it already has. -/
theorem Terms.Valid.start (terms : Terms)
    (settled : ∀ key, terms.tracked key →
      Settled (terms.opening.rows (.idempotency key)) (carrying key terms.opening.log)) :
    terms.Valid terms.opening where
  grown := List.prefix_rfl
  counted counter := by simp [Terms.since, Terms.openingTotal]
  capped counter limit _ := le_max_right ..
  settled := settled

theorem Terms.contract_free {terms : Terms} (still : ∀ now, ¬terms.rollups now) (request : UsageRequest)
    (answer : UsageAnswer) (store : UsageStore) (draft : UsageDraft)
    (admitted : terms.contract.admissible request) :
    terms.contract.mayCommit request answer store draft := by
  cases request with
  | rollup now => exact absurd admitted.1 (still now)
  | record organization calls => trivial
  | consume organization call => trivial
  | consumeMany organization calls => trivial

/-- One counter under one limit. -/
def Terms.limiting (start : UsageStore) (counter : CounterKey) (limit : Int) : Terms where
  opening := start
  cap other := if other = counter then some limit else none
  tracked _ := False
  rollups _ := False

theorem Terms.limiting_admits {start : UsageStore} {counter : CounterKey} {limit : Int}
    {request : UsageRequest} (consumes : request.Consumes)
    (limited : request.LimitedTo counter limit) :
    (Terms.limiting start counter limit).Admits request := by
  have binds (organization : Nat) (call : UsageCall)
      (member : (organization, call) ∈ request.calls) :
      (Terms.limiting start counter limit).Binding organization call := by
    intro period cap capped
    simp only [Terms.limiting, Option.ite_none_right_eq_some, Option.some.injEq] at capped
    obtain ⟨rfl, rfl⟩ := capped
    exact limited _ member rfl rfl
  cases request with
  | record organization calls => cases consumes
  | rollup now => cases consumes
  | consume organization call => exact binds organization call (by simp [UsageRequest.calls])
  | consumeMany organization calls =>
      intro call member
      exact binds organization call (by simpa [UsageRequest.calls] using member)

/-- Whatever consuming transactions are interleaved, and wherever they commit or
roll back, a month's committed total stays within the limit (or where it was, if
that was more already) and grows by exactly the events committed with it. -/
theorem consumption_keeps_limit (start : UsageStore) (counter : CounterKey) (limit : Int)
    (actions : List (Action UsageRequest))
    (consuming : ∀ action ∈ actions, action.Starts fun request =>
      request.Consumes ∧ request.LimitedTo counter limit) :
    Runs.Always usageStep (fun system =>
      start.log <+: system.committed.log ∧
      counterTotal system.committed.rows counter ≤
        max limit (counterTotal start.rows counter) ∧
      counterTotal system.committed.rows counter = counterTotal start.rows counter +
        used counter (system.committed.log.drop start.log.length))
      (System.idle start) actions := by
  have valid : (Terms.limiting start counter limit).Valid start :=
    Terms.Valid.start _ fun _ impossible => impossible.elim
  have started : ∀ action ∈ actions,
      action.Starts (Terms.limiting start counter limit).contract.admissible := by
    intro action member
    exact (consuming action member).imp fun request kind => Terms.limiting_admits kind.1 kind.2
  -- No counter is corrected here, so every commit is permitted.
  have sound := Contract.Sound.always Terms.serves (.idle valid) started
    (Terms.contract_free (fun _ impossible => impossible))
  refine sound.mono _ fun system sound => ?_
  exact ⟨sound.valid.grown, sound.valid.capped counter limit (if_pos rfl),
    sound.valid.counted counter⟩

/-! Two consumers of six under a limit of ten: the second waits for the first,
then breaches. -/

def emptyUsage : UsageStore := ⟨fun _ => none, []⟩

def sampleReadings (eventId : Nat) : Readings where
  kind := some .counter
  now := 0
  entitlements := ⟨1, some "free", some .active, [], [("api_calls", ⟨some 10, none, none⟩)]⟩
  nowLater := 0
  entitlementsLater := ⟨1, some "free", some .active, [], [("api_calls", ⟨some 10, none, none⟩)]⟩
  transactionStart := 0
  softThreshold value ratio := value * ratio / 100
  eventId := eventId
  aggregateIds := (eventId, eventId)

def sampleCall (eventId : Nat) (quantity : Int) (key : Option String) : UsageCall :=
  { metric := "api_calls", quantity, idempotencyKey := key, readings := sampleReadings eventId }

def sampleCounter : CounterKey := ⟨1, "api_calls", 0⟩

def contendingRun : List (Action UsageRequest) :=
  [.start 1 (.consume 1 (sampleCall 1 6 none)), .start 2 (.consume 1 (sampleCall 2 6 none)),
    .advance 1, .advance 2, .advance 1, .advance 2, .commit 1, .advance 2, .commit 2, .rollback 2]

theorem consumption_keeps_limit_contended :
    Runs.Always usageStep (fun system =>
      emptyUsage.log <+: system.committed.log ∧
      counterTotal system.committed.rows sampleCounter ≤
        max 10 (counterTotal emptyUsage.rows sampleCounter) ∧
      counterTotal system.committed.rows sampleCounter =
        counterTotal emptyUsage.rows sampleCounter +
          used sampleCounter (system.committed.log.drop emptyUsage.log.length))
      (System.idle emptyUsage) contendingRun ∧
    counterTotal (Runs.run usageStep (System.idle emptyUsage) contendingRun).committed.rows
      sampleCounter = 6 := by
  refine ⟨consumption_keeps_limit emptyUsage sampleCounter 10 contendingRun ?_, by decide⟩
  simp [contendingRun, Action.Starts, UsageRequest.Consumes, UsageRequest.LimitedTo,
    UsageRequest.calls, limitValue, EffectiveEntitlements.limit, sampleCall, sampleReadings]

end SynapseSaas
