import SynapseSaas.Worker.Deliveries

/-! The attempts at one delivery: ticks that claim it while it is pending and due, and
the retries a tenant asks for. -/

set_option autoImplicit false

namespace SynapseSaas.Deliveries

/-- How an attempt ends without an exception but HTTP errors. -/
inductive Answer where
  | inactive
  | response (statusCode : Int) (text : String)
  | httpError (message : String)
  deriving DecidableEq, Repr

def Answer.outcome : Answer → Outcome
  | .inactive => .inactive
  | .response statusCode text =>
      if 200 ≤ statusCode ∧ statusCode < 300 then .delivered statusCode text
      else .refused (some statusCode) (excerpt text)
  | .httpError message => .refused none message

/-- The attempt has made a POST. -/
def Answer.posts : Answer → Nat
  | .inactive => 0
  | .response _ _ => 1
  | .httpError _ => 1

/-- `retry_delivery` on a delivery of the organization. -/
def Delivery.retried (delivery : Delivery) (now : Int) : Delivery :=
  { delivery with status := .pending, attempts := 0, nextAttemptAt := now }

def Delivery.due (delivery : Delivery) (now : Int) : Prop :=
  delivery.status = .pending ∧ delivery.nextAttemptAt ≤ now

instance (delivery : Delivery) (now : Int) : Decidable (delivery.due now) :=
  inferInstanceAs (Decidable (_ ∧ _))

inductive DeliveryAction where
  | attempt (now : Int) (answer : Answer)
  | retry (now : Int)
  deriving DecidableEq

def DeliveryAction.isRetry : DeliveryAction → Bool
  | .attempt _ _ => false
  | .retry _ => true

/-- The row of a delivery, and the POSTs made for it since it was last retried. -/
structure Watched where
  row : Delivery
  posts : Nat := 0
  deriving DecidableEq

/-- A tick claims nothing but a pending row that is due. -/
def Watched.step (state : Watched) : DeliveryAction → Watched
  | .attempt now answer =>
      if state.row.due now then
        { row := state.row.recorded now answer.outcome, posts := state.posts + answer.posts }
      else state
  | .retry now => { row := state.row.retried now, posts := 0 }

/-- The bound on the attempts, and what it means to have reached it. -/
structure WithinBound (state : Watched) : Prop where
  attempts : state.row.attempts ≤ state.row.limit
  exhausted : state.row.status = .exhausted ↔ state.row.attempts = state.row.limit
  posts : state.posts ≤ state.row.limit

/-- A row that is not pending is left alone until it is retried. -/
def OnlyRetried (start : Watched) (actions : List DeliveryAction) : Prop :=
  ∀ before after, actions = before ++ after → (∀ action ∈ after, action.isRetry = false) →
    (Runs.run Watched.step start before).row.status ≠ .pending →
      Runs.run Watched.step start (before ++ after) = Runs.run Watched.step start before

/-- A refused attempt that leaves the row pending finds its wait in the table. -/
def WaitsListed (state : Watched) : DeliveryAction → Prop
  | .retry _ => True
  | .attempt now answer =>
      state.row.due now → (state.step (.attempt now answer)).row.status = .pending →
        1 ≤ (state.step (.attempt now answer)).row.attempts ∧
        ∃ seconds,
          deliveryBackoffSeconds[(state.step (.attempt now answer)).row.attempts - 1]? =
            some seconds ∧
          (state.step (.attempt now answer)).row.nextAttemptAt = now + seconds * second

/-- The attempts are the failures since the last retry, and every one made a POST. -/
def Steady (state : Watched) : Prop :=
  match state.row.status with
  | .pending | .failed => state.row.attempts < state.row.limit ∧ state.posts = state.row.attempts
  | .delivered => state.row.attempts < state.row.limit ∧ state.posts = state.row.attempts + 1
  | .exhausted => state.row.attempts = state.row.limit ∧ state.posts = state.row.attempts

section

variable {state start : Watched} {row : Delivery}

theorem limit_le (row : Delivery) : row.limit ≤ deliveryBackoffSeconds.length + 1 :=
  Nat.min_le_right _ _

theorem limit_pos (positive : 1 ≤ row.maxAttempts) : 1 ≤ row.limit :=
  Nat.le_min.mpr ⟨positive, by decide⟩

theorem Steady.withinBound (steady : Steady state) : WithinBound state := by
  unfold Steady at steady
  split at steady
  · next pending =>
      obtain ⟨below, posts⟩ := steady
      exact ⟨below.le, iff_of_false (by simp [pending]) below.ne, posts ▸ below.le⟩
  · next failed =>
      obtain ⟨below, posts⟩ := steady
      exact ⟨below.le, iff_of_false (by simp [failed]) below.ne, posts ▸ below.le⟩
  · next delivered =>
      obtain ⟨below, posts⟩ := steady
      exact ⟨below.le, iff_of_false (by simp [delivered]) below.ne, posts ▸ below⟩
  · next exhausted =>
      obtain ⟨reached, posts⟩ := steady
      exact ⟨reached.le, iff_of_true exhausted reached, posts ▸ reached.le⟩

/-- A failed attempt below the limit leaves the row pending, one at the limit ends it. -/
theorem markFailure_cases (now : Int) (code : Option Int) (error : String) :
    (row.markFailure now code error).attempts = row.attempts + 1 ∧
    (row.markFailure now code error).limit = row.limit ∧
    ((row.limit ≤ row.attempts + 1 ∧ (row.markFailure now code error).status = .exhausted) ∨
      (row.attempts + 1 < row.limit ∧ (row.markFailure now code error).status = row.status ∧
        (row.markFailure now code error).nextAttemptAt =
          now + Delivery.backoff (row.attempts + 1))) := by
  unfold Delivery.markFailure
  dsimp only
  split
  · next reached => exact ⟨rfl, rfl, .inl ⟨reached, rfl⟩⟩
  · next below => exact ⟨rfl, rfl, .inr ⟨Nat.lt_of_not_le below, rfl, rfl⟩⟩

/-- A failed POST of a pending row. -/
theorem Steady.failure (steady : Steady state) (pending : state.row.status = .pending) (now : Int)
    (code : Option Int) (error : String) :
    Steady ⟨state.row.markFailure now code error, state.posts + 1⟩ := by
  obtain ⟨attempts, limit, ended | goes_on⟩ := @markFailure_cases state.row now code error
  · obtain ⟨reached, status⟩ := ended
    rw [Steady, pending] at steady
    obtain ⟨below, posts⟩ := steady
    simp only [Steady, status, attempts, limit, posts, and_true]
    exact Nat.le_antisymm below reached
  · obtain ⟨below, status, -⟩ := goes_on
    rw [Steady, pending] at steady
    rw [pending] at status
    simp only [Steady, status, attempts, limit, steady.2, and_true]
    exact below

theorem Steady.attempt (steady : Steady state) (pending : state.row.status = .pending) (now : Int)
    (answer : Answer) :
    Steady ⟨state.row.recorded now answer.outcome, state.posts + answer.posts⟩ := by
  cases answer with
  | inactive =>
      rw [Steady, pending] at steady
      exact steady
  | httpError message => exact steady.failure pending now none message
  | response statusCode text =>
      rw [Answer.outcome]
      split
      · rw [Steady, pending] at steady
        exact ⟨steady.1, congrArg (· + 1) steady.2⟩
      · exact steady.failure pending now (some statusCode) (excerpt text)

theorem recorded_maxAttempts (now : Int) (outcome : Outcome) :
    (row.recorded now outcome).maxAttempts = row.maxAttempts := by
  cases outcome with
  | refused statusCode error =>
      simp only [Delivery.recorded, Delivery.markFailure]
      split <;> rfl
  | _ => rfl

/-- What every step keeps of a delivery that may be attempted at all. -/
def Sound (state : Watched) : Prop := 1 ≤ state.row.maxAttempts ∧ Steady state

theorem Sound.step (sound : Sound state) (action : DeliveryAction) : Sound (state.step action) := by
  obtain ⟨positive, steady⟩ := sound
  cases action with
  | attempt now answer =>
      rw [Watched.step]
      split
      · next due =>
          refine ⟨?_, steady.attempt due.1 now answer⟩
          rw [recorded_maxAttempts]
          exact positive
      · exact ⟨positive, steady⟩
  | retry now => exact ⟨positive, limit_pos positive, rfl⟩

/-- The wait after a failure is an entry of the table. -/
theorem backoff_listed (below : row.attempts + 1 < row.limit) :
    ∃ seconds, deliveryBackoffSeconds[row.attempts]? = some seconds ∧
      Delivery.backoff (row.attempts + 1) = seconds * second := by
  have bound := limit_le row
  have inside : row.attempts < deliveryBackoffSeconds.length := by omega
  have clamped : min (row.attempts + 1 - 1) (deliveryBackoffSeconds.length - 1) = row.attempts := by
    omega
  refine ⟨deliveryBackoffSeconds[row.attempts], List.getElem?_eq_getElem inside, ?_⟩
  rw [Delivery.backoff, clamped, List.getD_eq_getElem?_getD, List.getElem?_eq_getElem inside,
    Option.getD_some]

theorem waits_of_failure {now : Int} {code : Option Int} {error : String}
    (pending : (row.markFailure now code error).status = .pending) :
    1 ≤ (row.markFailure now code error).attempts ∧
      ∃ seconds, deliveryBackoffSeconds[(row.markFailure now code error).attempts - 1]? =
          some seconds ∧
        (row.markFailure now code error).nextAttemptAt = now + seconds * second := by
  obtain ⟨attempts, -, ⟨-, ended⟩ | ⟨below, -, next⟩⟩ := @markFailure_cases row now code error
  · rw [ended] at pending
    cases pending
  · obtain ⟨seconds, listed, wait⟩ := backoff_listed below
    rw [attempts, next, wait]
    exact ⟨Nat.le_add_left _ _, seconds, listed, rfl⟩

theorem waitsListed (state : Watched) (action : DeliveryAction) : WaitsListed state action := by
  cases action with
  | retry now => trivial
  | attempt now answer =>
      intro due pending
      rw [Watched.step, if_pos due] at pending ⊢
      cases answer with
      | inactive => cases pending
      | httpError message => exact waits_of_failure pending
      | response statusCode text =>
          rw [Answer.outcome] at pending ⊢
          split at pending
          · cases pending
          · next other =>
              rw [if_neg other]
              exact waits_of_failure pending

theorem step_settled (settled : state.row.status ≠ .pending) {action : DeliveryAction}
    (other : action.isRetry = false) : state.step action = state := by
  cases action with
  | attempt now answer => exact if_neg fun due => settled due.1
  | retry now => cases other

theorem run_settled (settled : state.row.status ≠ .pending) {actions : List DeliveryAction}
    (others : ∀ action ∈ actions, action.isRetry = false) :
    Runs.run Watched.step state actions = state := by
  induction actions with
  | nil => rfl
  | cons action rest ih =>
      obtain ⟨here, later⟩ := List.forall_mem_cons.mp others
      rw [Runs.run_cons, step_settled settled here]
      exact ih later

theorem onlyRetried (start : Watched) (actions : List DeliveryAction) :
    OnlyRetried start actions := by
  intro before after _ others settled
  rw [Runs.run_append]
  exact run_settled settled others

end

section

variable {world : World} {endpoints : List Endpoint} {queue : Queue} {made made' : List Made}

theorem deliver_answer {delivery : Delivery}
    (quiet : (deliver world endpoints delivery).isRaised = false) :
    ∃ answer : Answer, deliver world endpoints delivery = answer.outcome := by
  unfold deliver at quiet ⊢
  split
  · exact ⟨.inactive, rfl⟩
  · next endpoint found =>
      simp only [found] at quiet
      split
      · exact ⟨.inactive, rfl⟩
      · next active =>
          simp only [if_neg active] at quiet
          split
          · next failed =>
              rw [failed] at quiet
              cases quiet
          · next secret opened =>
              simp only [opened] at quiet
              split
              · next statusCode text answered => exact ⟨.response statusCode text, rfl⟩
              · next message failed => exact ⟨.httpError message, rfl⟩
              · next message raised =>
                  rw [raised] at quiet
                  cases quiet

/-- What the loop leaves of a row: the row as it was, or one attempt at it recorded. -/
theorem attemptAll_rows {ids : List Nat} {rows rows' : List Delivery}
    (distinct : (rows.map (·.id)).Nodup) (once : ids.Nodup)
    (done : attemptAll world endpoints ids rows made = (some rows', made')) :
    ∀ row' ∈ rows', row' ∈ rows ∨ ∃ row ∈ rows, row.id ∈ ids ∧
      (deliver world endpoints row).isRaised = false ∧
        row' = row.recorded world.now (deliver world endpoints row) := by
  induction ids generalizing rows made with
  | nil =>
      cases done
      exact fun row' here => .inl here
  | cons id rest ih =>
      obtain ⟨elsewhere, once⟩ := List.nodup_cons.mp once
      rw [attemptAll] at done
      split at done
      · intro row' here
        obtain kept | ⟨row, before, claimed, attempted⟩ := ih distinct once done row' here
        · exact .inl kept
        · exact .inr ⟨row, before, List.mem_cons_of_mem _ claimed, attempted⟩
      · next first found =>
          have first_here := List.mem_of_find?_eq_some found
          have first_id : first.id = id := by simpa using List.find?_some found
          dsimp only at done
          split at done
          · cases done
          · next silent =>
              intro row' here
              -- A row after the first attempt is that attempt's, or another one as it was.
              have written (row : Delivery)
                  (now : row ∈ write ⟨id, world.now, deliver world endpoints first⟩ rows) :
                  row = first.recorded world.now (deliver world endpoints first) ∨
                    row ∈ rows ∧ row.id ≠ id := by
                obtain ⟨old, before, rfl⟩ := List.mem_map.mp now
                by_cases own : old.id = id
                · have same := List.inj_on_of_nodup_map distinct before first_here
                    (own.trans first_id.symm)
                  rw [if_pos own, same]
                  exact .inl rfl
                · rw [if_neg own]
                  exact .inr ⟨before, own⟩
              obtain kept | ⟨row, before, claimed, attempted⟩ :=
                ih (by rwa [map_id_write]) once done row' here
              · rcases written row' kept with rfl | ⟨before, -⟩
                · exact .inr ⟨first, first_here, first_id ▸ List.mem_cons_self,
                    Bool.eq_false_of_not_eq_true silent, rfl⟩
                · exact .inl before
              · rcases written row before with rfl | ⟨before, -⟩
                · rw [recorded_id, first_id] at claimed
                  exact absurd claimed elsewhere
                · exact .inr ⟨row, before, List.mem_cons_of_mem _ claimed, attempted⟩

/-- Every row a tick leaves is the row it was, or that row after one attempt. -/
theorem tick_row (distinct : (queue.rows.map (·.id)).Nodup) (tick : World × List Endpoint) :
    ∀ row' ∈ (deliverWebhooks queue tick).rows, row' ∈ queue.rows ∨
      ∃ row ∈ queue.rows, ∃ answer posts,
        row' = (Watched.step ⟨row, posts⟩ (.attempt tick.1.now answer)).row := by
  intro row' here
  rw [deliverWebhooks] at here
  split at here
  · exact .inl here
  · next rows made done =>
      obtain kept | ⟨row, before, claimed, quiet, rfl⟩ :=
        attemptAll_rows distinct (batch_nodup distinct tick.1.now) done row' here
      · exact .inl kept
      · obtain ⟨answer, outcome⟩ := deliver_answer quiet
        obtain ⟨other, taken, same⟩ := List.mem_map.mp claimed
        obtain ⟨there, due⟩ := List.mem_filter.mp (List.mem_of_mem_take taken)
        have one := List.inj_on_of_nodup_map distinct there before same
        rw [one] at due
        refine .inr ⟨row, before, answer, 0, ?_⟩
        rw [outcome, Watched.step, if_pos (show row.due tick.1.now from of_decide_eq_true due)]

end

end SynapseSaas.Deliveries
