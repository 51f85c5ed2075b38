import SynapseSaas.Usage.Attempts
import SynapseSaas.Usage.LimitEnforcement

/-! One idempotency key counts once: the reservation, the event, the increment and
the settlement of a call are one transaction. -/

set_option autoImplicit false

namespace SynapseSaas

open ReadCommitted UsageService

/-- Requests that meter usage, with or without a limit. -/
def UsageRequest.Meters : UsageRequest → Prop
  | .record .. | .consume .. | .consumeMany .. => True
  | .rollup _ => False

/-- The rows a call may write, unless its key is seen. -/
def callRows (organization : Nat) (call : UsageCall) (key : IdempotencyKey) : UsageKey → Prop
  | .idempotency other => other = key
  | .counter counter => counter.organizationId = organization ∧ counter.metric = call.metric

/-- What holds of an idempotency key in a database that has met any number of
metering transactions since the start. -/
structure CountedOnce (start : UsageStore) (key : IdempotencyKey) (system : UsageSystem) :
    Prop where
  once : (carrying key system.committed.log).length ≤ 1
  /-- Counters moved by the committed events and nothing else. -/
  counters : ∀ counter, counterTotal system.committed.rows counter =
    counterTotal start.rows counter + used counter (system.committed.log.drop start.log.length)
  /-- The row of the key is there iff an event carries it, and tells of that event. -/
  row : Settled (system.committed.rows (.idempotency key)) (carrying key system.committed.log)
  /-- Every answer for the key, deduplicated or not, is what its row says. -/
  answers : ∀ item ∈ system.history, List.Forall₂ (fun call result =>
    call.2.key call.1 = some key → ∃ row : IdempotencyRow,
      system.committed.rows (.idempotency key) = some row ∧ row.metric = result.metric ∧
        row.quantity = result.quantity ∧ row.totalAfter = some result.total)
    item.1.calls item.2.each
  /-- While no event carries the key, the next attempt in nobody's way counts. -/
  free : carrying key system.committed.log = [] →
    ∀ id request organization call, system.sessions id = none →
      call.key organization = some key → call.readings.kind = some .counter →
      request.Attempts system.committed organization call →
      (∀ row, callRows organization call key row → system.Unheld row) →
      ∃ count result occurredAt,
        (Runs.run usageStep system (.start id request ::
          (List.replicate count (.advance id) ++ [.commit id]))).history =
            system.history ++ [(request, .results [result])] ∧
        result.deduplicated = false ∧
        carrying key (Runs.run usageStep system (.start id request ::
          (List.replicate count (.advance id) ++ [.commit id]))).committed.log =
            [call.event organization occurredAt]

/-- One key followed, no counter capped. -/
def Terms.following (start : UsageStore) (key : IdempotencyKey) : Terms where
  opening := start
  cap _ := none
  tracked other := other = key
  rollups _ := False

theorem Terms.following_admits {start : UsageStore} {key : IdempotencyKey}
    {request : UsageRequest} (meters : request.Meters) :
    (Terms.following start key).Admits request := by
  have binds : ∀ organization call, (Terms.following start key).Binding organization call :=
    Terms.Binding.of_uncapped fun _ => rfl
  cases request with
  | record organization calls => exact fun _ _ _ => rfl
  | consume organization call => exact binds organization call
  | consumeMany organization calls => exact fun call _ => binds organization call
  | rollup now => cases meters

theorem Settled.length_le_one {row : Option IdempotencyRow} {events : List UsageEvent}
    (settled : Settled row events) : events.length ≤ 1 := by
  cases row with
  | none =>
      rw [show events = [] from settled]
      exact Nat.zero_le 1
  | some row =>
      obtain ⟨event, total, rfl, -⟩ := settled
      exact le_rfl

/-- A key no committed event carries has no row: nothing of a failed attempt is left. -/
theorem Settled.unseen {row : Option IdempotencyRow} {events : List UsageEvent}
    (settled : Settled row events) (nothing : events = []) : row = none := by
  cases row with
  | none => rfl
  | some row =>
      obtain ⟨event, total, here, -⟩ := settled
      rw [here] at nothing
      cases nothing

theorem CountedOnce.of_sound {start : UsageStore} {key : IdempotencyKey} {system : UsageSystem}
    (sound : (Terms.following start key).contract.Sound system) (held : system.LocksHeld) :
    CountedOnce start key system := by
  have settled := sound.valid.settled key rfl
  constructor
  · exact settled.length_le_one
  · exact sound.valid.counted
  · exact settled
  · intro item member
    refine (sound.told item member).imp fun {call result} answers named => ?_
    exact answers key named rfl
  · intro nothing id request organization call vacant named counter attempts unheld
    have clear : Clear (callRows organization call key) organization call key :=
      ⟨rfl, fun period => ⟨rfl, rfl⟩⟩
    have completes := completes_attempt attempts named clear (settled.unseen nothing) counter
    obtain ⟨count, answer, final, ⟨result, rfl, counted, occurredAt, carried⟩, committed, told⟩ :=
      completes.commits vacant fun row here => held.unlocked (unheld row here)
    refine ⟨count, result, occurredAt, told, counted, ?_⟩
    change carrying key (Runs.run (step UsageRequest.script) system _).committed.log = _
    rw [committed, Store.under_log, carrying_append, nothing, carried]
    rfl

/-- In every interleaving of metering transactions, each committing, breaching or
rolled back at any point, a key that starts unused or settled counts once. -/
theorem key_counts_once (start : UsageStore) (key : IdempotencyKey)
    (settled : Settled (start.rows (.idempotency key)) (carrying key start.log))
    (actions : List (Action UsageRequest))
    (metering : ∀ action ∈ actions, action.Starts UsageRequest.Meters) :
    Runs.Always usageStep (CountedOnce start key) (System.idle start) actions := by
  have valid : (Terms.following start key).Valid start :=
    Terms.Valid.start _ fun other followed => by
      cases followed
      exact settled
  have started : ∀ action ∈ actions,
      action.Starts (Terms.following start key).contract.admissible := by
    intro action member
    exact (metering action member).imp fun request kind => Terms.following_admits kind
  have sound := Contract.Sound.always Terms.serves (.idle valid) started
    (Terms.contract_free (fun _ impossible => impossible))
  -- The locks tell which session is about to use the key.
  have held : Runs.Always usageStep System.LocksHeld (System.idle start) actions :=
    Runs.always_of_invariant _ (fun _ action held => held.step action)
      (fun _ _ impossible => by cases impossible) actions
  exact (sound.and _ held).mono _ fun system both => CountedOnce.of_sound both.1 both.2

/-! Three requests under one key: the first breaches and is rolled back, the other
two race, and the loser waits and is answered what the winner stored. -/

def retriedRun : List (Action UsageRequest) :=
  [.start 1 (.consume 1 (sampleCall 1 12 (some "k"))), .advance 1, .advance 1, .advance 1,
    .rollback 1,
    .start 2 (.consume 1 (sampleCall 2 6 (some "k"))), .start 3 (.consume 1 (sampleCall 3 6 (some "k"))),
    .advance 2, .advance 3, .advance 2, .advance 2, .advance 2, .commit 2,
    .advance 3, .advance 3, .commit 3]

theorem key_counts_once_retried :
    Runs.Always usageStep (CountedOnce emptyUsage ⟨1, "k"⟩) (System.idle emptyUsage) retriedRun ∧
    (Runs.run usageStep (System.idle emptyUsage) retriedRun).history.map (·.2) =
      [.results [⟨"api_calls", 6, 6, some 10, some 4, some true, false⟩],
        .results [⟨"api_calls", 6, 6, some 10, some 4, some true, true⟩]] := by
  refine ⟨key_counts_once emptyUsage ⟨1, "k"⟩ rfl retriedRun ?_, by decide⟩
  simp [retriedRun, Action.Starts, UsageRequest.Meters]

end SynapseSaas
