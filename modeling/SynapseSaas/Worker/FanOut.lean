import SynapseSaas.Worker.Outbox
import Mathlib.Data.List.Induction

/-! What holds in every state the dispatchers can reach: each published event was
fanned out once, to the endpoints there were, and a dead one stays untouched. -/

set_option autoImplicit false

namespace SynapseSaas

/-- The state after a history of actions. -/
def Outbox.after (past : List DispatchAction) : Outbox := Runs.run Outbox.step {} past

/-- The event a pass attempts next. -/
def Outbox.upNext (outbox : Outbox) (index : Nat) : Option Nat :=
  outbox.passes[index]?.bind (·.todo.head?)

/-- The pass fanned the event out while these were the endpoints, and has not crashed since. -/
def Attempted (past : List DispatchAction) (index id : Nat) (endpoints : Table WebhookEndpoint) :
    Prop :=
  ∃ before now later, past = before ++ .attempt index none now :: later ∧
    .crash index ∉ later ∧ (Outbox.after before).upNext index = some id ∧
    (Outbox.after before).endpoints = endpoints

/-- A pass that fanned the event out at these endpoints committed. -/
def Dispatched (past : List DispatchAction) (id : Nat) (endpoints : Table WebhookEndpoint) : Prop :=
  ∃ index before later pass, past = before ++ .commit index :: later ∧
    (Outbox.after before).passes[index]? = some pass ∧ pass.todo = [] ∧ id ∈ pass.locked ∧
    Attempted before index id endpoints

/-- The attempt is what its own event came to, whatever became of the others. -/
def Attempt.Own (attempt : Attempt) (past : List DispatchAction) (index : Nat) (row : OutboxRow) :
    Prop :=
  (∃ endpoints now, Attempted past index attempt.id endpoints ∧
    attempt = publish endpoints attempt.id row now) ∨
  ∃ error now, attempt = outboxFailure attempt.id row error now

/-- What the open passes hold: rows to dispatch, each held once, and one attempt
of each that was tried. -/
structure Locks (past : List DispatchAction) (outbox : Outbox) : Prop where
  held : ∀ (index : Nat) (pass : DispatchPass) (id : Nat), outbox.passes[index]? = some pass →
    id ∈ pass.locked → ∃ row, outbox.rows id = some row ∧ row.publishedAt = none ∧ row.deadAt = none
  apart : ∀ (first second : Nat) (left right : DispatchPass) (id : Nat),
    outbox.passes[first]? = some left → outbox.passes[second]? = some right →
      id ∈ left.locked → id ∈ right.locked → first = second
  distinct : ∀ (index : Nat) (pass : DispatchPass), outbox.passes[index]? = some pass →
    pass.locked.Nodup
  own : ∀ (index : Nat) (pass : DispatchPass), outbox.passes[index]? = some pass →
    ∀ attempt ∈ pass.done, ∃ row, outbox.rows attempt.id = some row ∧ attempt.Own past index row

/-- What is committed. -/
structure Committed (past : List DispatchAction) (outbox : Outbox) : Prop where
  fresh : ∀ id, outbox.count ≤ id → outbox.rows id = none
  audience : ∀ id row, outbox.rows id = some row →
    row.event.audience = audienceFor row.event.eventType
  published : ∀ id row, outbox.rows id = some row → row.publishedAt ≠ none →
    row.deadAt = none ∧ ∃ endpoints, Dispatched past id endpoints ∧
      outbox.deliveriesOf id = fanOut endpoints id row.event
  silent : ∀ id, (∀ row, outbox.rows id = some row → row.publishedAt = none) →
    outbox.deliveriesOf id = []
  dead : ∀ id row, outbox.rows id = some row → (row.deadAt ≠ none ↔ outboxMaxAttempts ≤ row.attempts)
  counted : ∀ id row, outbox.rows id = some row → row.attempts = Outbox.failures id {} past
  uncounted : ∀ id, outbox.rows id = none → Outbox.failures id {} past = 0

section Histories

variable {past : List DispatchAction} {action : DispatchAction} {id index : Nat}
  {endpoints : Table WebhookEndpoint}

theorem Outbox.after_append (past : List DispatchAction) (action : DispatchAction) :
    Outbox.after (past ++ [action]) = (Outbox.after past).step action := by
  simp only [Outbox.after, Runs.run_append, Runs.run_cons, Runs.run_nil]

theorem Outbox.failures_append (id : Nat) (start : Outbox) (past : List DispatchAction)
    (action : DispatchAction) :
    Outbox.failures id start (past ++ [action]) =
      Outbox.failures id start past + (Runs.run Outbox.step start past).recorded id action := by
  induction past generalizing start with
  | nil => simp [Outbox.failures]
  | cons earlier rest ih =>
      simp only [List.cons_append, Outbox.failures, ih, Runs.run_cons]
      omega

theorem Attempted.mono (attempted : Attempted past index id endpoints)
    (alive : action ≠ .crash index) : Attempted (past ++ [action]) index id endpoints := by
  obtain ⟨before, now, later, rfl, uncrashed, next, config⟩ := attempted
  refine ⟨before, now, later ++ [action], by simp, ?_, next, config⟩
  simp only [List.mem_append, List.mem_singleton, not_or]
  exact ⟨uncrashed, fun same => alive same.symm⟩

theorem Dispatched.mono (dispatched : Dispatched past id endpoints) :
    Dispatched (past ++ [action]) id endpoints := by
  obtain ⟨index, before, later, pass, rfl, rest⟩ := dispatched
  exact ⟨index, before, later ++ [action], pass, by simp, rest⟩

theorem Attempt.Own.mono {attempt : Attempt} {row : OutboxRow} (own : attempt.Own past index row)
    (alive : action ≠ .crash index) : attempt.Own (past ++ [action]) index row := by
  rcases own with ⟨endpoints, now, attempted, same⟩ | failed
  · exact .inl ⟨endpoints, now, attempted.mono alive, same⟩
  · exact .inr failed

end Histories

/-! ### One attempt -/

section Attempts

variable {past : List DispatchAction} {index : Nat} {attempt : Attempt} {row : OutboxRow}

@[simp] theorem publish_id (endpoints : Table WebhookEndpoint) (id : Nat) (row : OutboxRow) (now : Int) :
    (publish endpoints id row now).id = id := rfl

theorem outboxFailure_after (id : Nat) (row : OutboxRow) (error : String) (now : Int) :
    (outboxFailure id row error now).after.publishedAt = row.publishedAt ∧
      (outboxFailure id row error now).after.event = row.event ∧
      (outboxFailure id row error now).after.attempts = row.attempts + 1 ∧
      (outboxFailure id row error now).after.deadAt =
        if outboxMaxAttempts ≤ row.attempts + 1 then some now else row.deadAt := by
  by_cases reached : outboxMaxAttempts ≤ row.attempts + 1 <;> simp [outboxFailure, reached]

theorem mem_fanOut {endpoints : Table WebhookEndpoint} {id : Nat} {event : OutboxEvent}
    {delivery : WebhookDelivery} (member : delivery ∈ fanOut endpoints id event) :
    delivery.outboxEventId = id := by
  unfold fanOut at member
  split at member
  · cases member
  · split at member
    · obtain ⟨endpoint, -, rfl⟩ := List.mem_map.mp member
      rfl
    · cases member

/-- An attempt concerns its own event only, and keeps what the event is. -/
theorem Attempt.Own.event (own : attempt.Own past index row) :
    attempt.after.event = row.event ∧
      ∀ delivery ∈ attempt.deliveries, delivery.outboxEventId = attempt.id := by
  rcases own with ⟨endpoints, now, -, same⟩ | ⟨error, now, same⟩
  · rw [same]
    exact ⟨rfl, fun delivery member => mem_fanOut member⟩
  · rw [same]
    exact ⟨(outboxFailure_after _ _ _ _).2.1, fun delivery member => by cases member⟩

/-- An attempt publishes and fans out, or counts one failure and fans out nothing. -/
theorem Attempt.Own.outcome (own : attempt.Own past index row) (unpublished : row.publishedAt = none)
    (alive : row.deadAt = none) :
    (attempt.after.publishedAt ≠ none ∧ attempt.after.deadAt = none ∧
        attempt.after.attempts = row.attempts ∧
        ∃ endpoints, Attempted past index attempt.id endpoints ∧
          attempt.deliveries = fanOut endpoints attempt.id row.event) ∨
      (attempt.after.publishedAt = none ∧ attempt.after.attempts = row.attempts + 1 ∧
        (attempt.after.deadAt ≠ none ↔ outboxMaxAttempts ≤ row.attempts + 1) ∧
        attempt.deliveries = []) := by
  rcases own with ⟨endpoints, now, attempted, same⟩ | ⟨error, now, same⟩
  · refine .inl ?_
    rw [same]
    exact ⟨by simp [publish], alive, rfl, endpoints, attempted, rfl⟩
  · refine .inr ?_
    obtain ⟨published, -, attempts, dead⟩ := outboxFailure_after attempt.id row error now
    rw [same]
    refine ⟨published.trans unpublished, attempts, ?_, rfl⟩
    rw [dead, alive]
    split
    · next reached => simp [reached]
    · next before => simp [before]

end Attempts

/-! ### The locks -/

section Holding

variable {past : List DispatchAction} {action : DispatchAction} {outbox next : Outbox}

/-- A step that only shrinks what passes hold, and leaves alone what they still
hold, keeps the locks; what it adds to the attempts has to be the event's own. -/
theorem Locks.transfer (locks : Locks past outbox)
    (passes : ∀ (index : Nat) (pass : DispatchPass), next.passes[index]? = some pass →
      pass.locked.Nodup ∧ ∃ before : DispatchPass,
        (outbox.passes[index]? = some before ∨ pass.locked = []) ∧
        (∀ id ∈ pass.locked, id ∈ before.locked) ∧
        ∀ attempt ∈ pass.done, (attempt ∈ before.done ∧ action ≠ .crash index) ∨
          ∃ row, outbox.rows attempt.id = some row ∧ attempt.Own (past ++ [action]) index row)
    (kept : ∀ (index : Nat) (pass : DispatchPass) (id : Nat), next.passes[index]? = some pass →
      id ∈ pass.locked → next.rows id = outbox.rows id) :
    Locks (past ++ [action]) next where
  held index pass id here member := by
    obtain ⟨-, before, there, inside, -⟩ := passes index pass here
    rw [kept index pass id here member]
    rcases there with there | empty
    · exact locks.held index before id there (inside id member)
    · rw [empty] at member
      cases member
  apart first second left right id here there mine yours := by
    obtain ⟨-, before, was, inside, -⟩ := passes first left here
    obtain ⟨-, before', was', inside', -⟩ := passes second right there
    rcases was with was | empty
    · rcases was' with was' | empty
      · exact locks.apart first second before before' id was was' (inside id mine) (inside' id yours)
      · rw [empty] at yours
        cases yours
    · rw [empty] at mine
      cases mine
  distinct index pass here := (passes index pass here).1
  own index pass here attempt member := by
    obtain ⟨-, before, there, -, attempts⟩ := passes index pass here
    have locked : attempt.id ∈ pass.locked :=
      List.mem_append_right _ (List.mem_map_of_mem member)
    rw [kept index pass attempt.id here locked]
    rcases attempts attempt member with ⟨earlier, alive⟩ | fresh
    · rcases there with there | empty
      · obtain ⟨row, found, own⟩ := locks.own index before there attempt earlier
        exact ⟨row, found, own.mono alive⟩
      · rw [empty] at locked
        cases locked
    · exact fresh

/-- The same for a step that replaces one pass at most. -/
theorem Locks.replace (locks : Locks past outbox) {index : Nat} {pass before : DispatchPass}
    (passes : next.passes = outbox.passes.set index pass)
    (was : outbox.passes[index]? = some before ∨ pass.locked = [])
    (nodup : pass.locked.Nodup) (inside : ∀ id ∈ pass.locked, id ∈ before.locked)
    (attempts : ∀ attempt ∈ pass.done, (attempt ∈ before.done ∧ action ≠ .crash index) ∨
      ∃ row, outbox.rows attempt.id = some row ∧ attempt.Own (past ++ [action]) index row)
    (alive : ∀ other, other ≠ index → action ≠ .crash other)
    (kept : ∀ (other : Nat) (held : DispatchPass) (id : Nat), next.passes[other]? = some held →
      id ∈ held.locked → next.rows id = outbox.rows id) : Locks (past ++ [action]) next := by
  refine locks.transfer (fun other held here => ?_) kept
  rw [passes, List.getElem?_set] at here
  split at here
  · next same =>
    subst same
    split at here
    · cases here
      exact ⟨nodup, before, was, inside, attempts⟩
    · cases here
  · next different =>
    exact ⟨locks.distinct other held here, held, .inl here, fun _ member => member,
      fun attempt member => .inl ⟨member, alive other fun same => different same.symm⟩⟩

/-- A step that leaves the passes and what they hold alone. -/
theorem Locks.frame (locks : Locks past outbox) (passes : next.passes = outbox.passes)
    (alive : ∀ index, action ≠ .crash index)
    (kept : ∀ id row, outbox.rows id = some row → next.rows id = some row) :
    Locks (past ++ [action]) next := by
  refine locks.transfer (fun index pass here => ?_) fun index pass id here member => ?_
  · rw [passes] at here
    exact ⟨locks.distinct index pass here, pass, .inl here, fun _ member => member,
      fun attempt member => .inl ⟨member, alive index⟩⟩
  · rw [passes] at here
    obtain ⟨row, found, -⟩ := locks.held index pass id here member
    rw [found]
    exact kept id row found

theorem Outbox.mem_batch {now : Int} {id : Nat} (member : id ∈ outbox.batch now) :
    (∃ row, outbox.rows id = some row ∧ row.publishedAt = none ∧ row.deadAt = none) ∧
      ∀ pass ∈ outbox.passes, id ∉ pass.locked := by
  have selected := (List.mem_filter.mp (List.mem_of_mem_take member)).2
  simp only [Bool.decide_and, Bool.and_eq_true, decide_eq_true_eq] at selected
  obtain ⟨due, free⟩ := selected
  refine ⟨?_, free⟩
  cases found : outbox.rows id with
  | none => simp [Outbox.due, found] at due
  | some row =>
      simp only [Outbox.due, found, Option.any_some, Bool.decide_and, Bool.and_eq_true,
        decide_eq_true_eq, Option.isNone_iff_eq_none] at due
      exact ⟨row, rfl, due.1, due.2.1⟩

/-- A new pass locks due events that nobody holds. -/
theorem Locks.start (locks : Locks past outbox) (now : Int) :
    Locks (past ++ [.start now]) (outbox.step (.start now)) := by
  have opened (index : Nat) (pass : DispatchPass)
      (here : (outbox.passes ++ [⟨outbox.batch now, []⟩])[index]? = some pass) :
      outbox.passes[index]? = some pass ∨
        index = outbox.passes.length ∧ pass = ⟨outbox.batch now, []⟩ := by
    rw [List.getElem?_append] at here
    split at here
    · exact .inl here
    · refine .inr ?_
      rw [List.getElem?_singleton] at here
      split at here
      · cases here
        exact ⟨by omega, rfl⟩
      · cases here
  have batched : (⟨outbox.batch now, []⟩ : DispatchPass).locked = outbox.batch now := by
    simp [DispatchPass.locked]
  refine ⟨fun index pass id here member => ?_,
    fun first second left right id here there mine yours => ?_, fun index pass here => ?_,
    fun index pass here attempt member => ?_⟩
  · rcases opened index pass here with earlier | ⟨-, rfl⟩
    · exact locks.held index pass id earlier member
    · rw [batched] at member
      exact (Outbox.mem_batch member).1
  · rcases opened first left here with earlier | ⟨same, rfl⟩
    · rcases opened second right there with earlier' | ⟨same', rfl⟩
      · exact locks.apart first second left right id earlier earlier' mine yours
      · rw [batched] at yours
        exact absurd mine ((Outbox.mem_batch yours).2 left (List.mem_of_getElem? earlier))
    · rcases opened second right there with earlier' | ⟨same', rfl⟩
      · rw [batched] at mine
        exact absurd yours ((Outbox.mem_batch mine).2 right (List.mem_of_getElem? earlier'))
      · exact same.trans same'.symm
  · rcases opened index pass here with earlier | ⟨-, rfl⟩
    · exact locks.distinct index pass earlier
    · rw [batched]
      exact ((List.nodup_range).filter _).sublist (List.take_sublist _ _)
  · rcases opened index pass here with earlier | ⟨-, rfl⟩
    · obtain ⟨row, found, own⟩ := locks.own index pass earlier attempt member
      exact ⟨row, found, own.mono (by simp)⟩
    · cases member

/-- The attempted event moves from those to try to those tried. -/
theorem Locks.attempt (locks : Locks past outbox) (here : outbox = Outbox.after past) (index : Nat)
    (failure : Option String) (now : Int) :
    Locks (past ++ [.attempt index failure now]) (outbox.step (.attempt index failure now)) := by
  cases found : outbox.passes[index]? with
  | none =>
      have idle : outbox.step (.attempt index failure now) = outbox := by
        simp only [Outbox.step, found]
      rw [idle]
      exact locks.frame rfl (by simp) fun _ _ kept => kept
  | some pass =>
      have taken : outbox.step (.attempt index failure now) =
          { outbox with passes := outbox.passes.set index (outbox.attempted pass failure now) } := by
        simp only [Outbox.step, found]
      rw [taken]
      obtain ⟨todo, done⟩ := pass
      cases todo with
      | nil =>
          refine locks.replace rfl (.inl found) (locks.distinct index _ found) (fun _ member => member)
            (fun attempt member => .inl ⟨member, by simp⟩) (by simp) (fun _ _ _ _ _ => rfl)
      | cons id todo =>
          obtain ⟨row, stored, -⟩ := locks.held index _ id found (by simp [DispatchPass.locked])
          have tried : outbox.attempted ⟨id :: todo, done⟩ failure now =
              ⟨todo, done ++ [outbox.tried id row now failure]⟩ := by
            simp only [Outbox.attempted, stored]
          have named : (outbox.tried id row now failure).id = id := by cases failure <;> rfl
          rw [tried]
          have shuffled : (⟨todo, done ++ [outbox.tried id row now failure]⟩ :
              DispatchPass).locked.Perm (⟨id :: todo, done⟩ : DispatchPass).locked := by
            simp only [DispatchPass.locked, List.map_append, List.map_cons, List.map_nil, named,
              ← List.append_assoc]
            exact List.perm_append_singleton id _
          refine locks.replace rfl (.inl found)
            (shuffled.nodup_iff.mpr (locks.distinct index _ found))
            (fun _ member => shuffled.mem_iff.mp member) (fun attempt member => ?_) (by simp)
            (fun _ _ _ _ _ => rfl)
          rcases List.mem_append.mp member with earlier | last
          · exact .inl ⟨earlier, by simp⟩
          · rw [List.mem_singleton.mp last]
            refine .inr ⟨row, by rw [named]; exact stored, ?_⟩
            cases failure with
            | none =>
                refine .inl ⟨outbox.endpoints, now, ⟨past, now, [], by simp, by simp, ?_, ?_⟩, rfl⟩
                · rw [← here, Outbox.upNext, found]
                  rfl
                · rw [← here]
            | some error => exact .inr ⟨error, now, rfl⟩

end Holding

/-! ### What a commit writes -/

section Writing

variable {done : List Attempt} {rows : Nat → Option OutboxRow}

/-- The attempt at an event, if the pass made one. -/
def attemptAt (done : List Attempt) (id : Nat) : Option Attempt := done.find? (·.id = id)

theorem attemptAt_mem {id : Nat} {attempt : Attempt} (found : attemptAt done id = some attempt) :
    attempt ∈ done ∧ attempt.id = id := by
  have selected := List.find?_some found
  simp only [decide_eq_true_eq] at selected
  exact ⟨List.mem_of_find?_eq_some found, selected⟩

theorem attemptAt_none {id : Nat} : attemptAt done id = none ↔ id ∉ done.map (·.id) := by
  simp only [attemptAt, List.find?_eq_none, decide_eq_true_eq, List.mem_map, not_exists, not_and]

theorem attemptAt_of_mem (nodup : (done.map (·.id)).Nodup) {attempt : Attempt}
    (member : attempt ∈ done) : attemptAt done attempt.id = some attempt := by
  cases found : attemptAt done attempt.id with
  | none => exact absurd (List.mem_map_of_mem member) (attemptAt_none.mp found)
  | some other =>
      obtain ⟨there, same⟩ := attemptAt_mem found
      rw [List.inj_on_of_nodup_map nodup there member same]

theorem attemptAt_cons (attempt : Attempt) (rest : List Attempt) (id : Nat) :
    attemptAt (attempt :: rest) id = if attempt.id = id then some attempt else attemptAt rest id := by
  by_cases same : attempt.id = id <;> simp [attemptAt, same]

theorem written_eq (id : Nat) :
    Outbox.written rows done id = ((attemptAt done id).map (·.after)).or (rows id) := by
  unfold Outbox.written attemptAt
  split <;> next found => simp [found]

/-- Among the deliveries of a pass, an event has those of its own attempt. -/
theorem flatMap_own (nodup : (done.map (·.id)).Nodup)
    (own : ∀ attempt ∈ done, ∀ delivery ∈ attempt.deliveries, delivery.outboxEventId = attempt.id)
    (id : Nat) :
    (done.flatMap (·.deliveries)).filter (·.outboxEventId = id) =
      ((attemptAt done id).map (·.deliveries)).getD [] := by
  induction done with
  | nil => rfl
  | cons attempt rest ih =>
      obtain ⟨absent, nodup⟩ := List.nodup_cons.mp nodup
      have ih := ih nodup fun other member => own other (List.mem_cons_of_mem _ member)
      have mine := own attempt List.mem_cons_self
      rw [List.flatMap_cons, List.filter_append, ih, attemptAt_cons]
      by_cases same : attempt.id = id
      · have nothing : attemptAt rest id = none := attemptAt_none.mpr (same ▸ absent)
        have all : attempt.deliveries.filter (·.outboxEventId = id) = attempt.deliveries :=
          List.filter_eq_self.mpr fun delivery member => by simp [mine delivery member, same]
        simp [same, nothing, all]
      · have none_here : attempt.deliveries.filter (·.outboxEventId = id) = [] :=
          List.filter_eq_nil_iff.mpr fun delivery member => by simp [mine delivery member, same]
        simp [same, none_here]

/-- A pass records at most one failure of an event. -/
theorem countP_own (nodup : (done.map (·.id)).Nodup) (id : Nat) :
    done.countP (fun attempt => attempt.id = id ∧ attempt.after.publishedAt.isNone) =
      if (attemptAt done id).any (·.after.publishedAt.isNone) then 1 else 0 := by
  induction done with
  | nil => rfl
  | cons attempt rest ih =>
      obtain ⟨absent, nodup⟩ := List.nodup_cons.mp nodup
      rw [List.countP_cons, ih nodup, attemptAt_cons]
      by_cases same : attempt.id = id
      · have nothing : attemptAt rest id = none := attemptAt_none.mpr (same ▸ absent)
        simp [same, nothing]
      · simp [same]

end Writing

/-! ### The committed rows -/

section Committing

variable {past : List DispatchAction} {action : DispatchAction} {outbox next : Outbox}

theorem Outbox.failures_after (here : outbox = Outbox.after past) (id : Nat) :
    Outbox.failures id {} (past ++ [action]) =
      Outbox.failures id {} past + outbox.recorded id action := by
  rw [Outbox.failures_append, here]
  rfl

/-- A step that writes no event and no delivery. -/
theorem Committed.quiet (committed : Committed past outbox) (here : outbox = Outbox.after past)
    (count : next.count = outbox.count) (rows : next.rows = outbox.rows)
    (deliveries : next.deliveries = outbox.deliveries)
    (unrecorded : ∀ id, outbox.recorded id action = 0) : Committed (past ++ [action]) next := by
  have same (id : Nat) : next.deliveriesOf id = outbox.deliveriesOf id := by
    rw [Outbox.deliveriesOf, deliveries, Outbox.deliveriesOf]
  refine ⟨?_, ?_, ?_, ?_, ?_, ?_, ?_⟩ <;> simp only [rows, count, same]
  · exact committed.fresh
  · exact committed.audience
  · intro id row found published
    obtain ⟨alive, endpoints, dispatched, exact⟩ := committed.published id row found published
    exact ⟨alive, endpoints, dispatched.mono, exact⟩
  · exact committed.silent
  · exact committed.dead
  · intro id row found
    rw [Outbox.failures_after here, unrecorded]
    exact committed.counted id row found
  · intro id absent
    rw [Outbox.failures_after here, unrecorded]
    exact committed.uncounted id absent

/-- A new event is neither published nor counted against. -/
theorem Committed.append (committed : Committed past outbox) (here : outbox = Outbox.after past)
    (eventType aggregateType : String) (aggregateId : Nat) (organizationId : Option Nat)
    (payload : List (String × Value)) (now : Int) :
    Committed (past ++ [.append eventType aggregateType aggregateId organizationId payload now])
      (outbox.appendOutbox eventType aggregateType aggregateId organizationId payload now) := by
  have vacant := committed.fresh outbox.count (Nat.le_refl _)
  have counted (id : Nat) : Outbox.failures id {} (past ++
      [.append eventType aggregateType aggregateId organizationId payload now]) =
        Outbox.failures id {} past := by
    rw [Outbox.failures_after here]
    rfl
  have other {id : Nat} (different : id ≠ outbox.count) :
      (outbox.appendOutbox eventType aggregateType aggregateId organizationId payload now).rows id =
        outbox.rows id := if_neg different
  have added : (outbox.appendOutbox eventType aggregateType aggregateId organizationId payload
      now).rows outbox.count = some
        { event := ⟨eventType, aggregateType, aggregateId, organizationId, payload,
            audienceFor eventType⟩
          nextAttemptAt := now } := if_pos rfl
  refine ⟨fun id bound => ?_, fun id row found => ?_, fun id row found published => ?_,
    fun id unpublished => ?_, fun id row found => ?_, fun id row found => ?_, fun id absent => ?_⟩
  · rw [other (by simp only [Outbox.appendOutbox] at bound; omega)]
    exact committed.fresh id (by simp only [Outbox.appendOutbox] at bound; omega)
  · by_cases same : id = outbox.count
    · rw [same, added] at found
      cases found
      rfl
    · rw [other same] at found
      exact committed.audience id row found
  · by_cases same : id = outbox.count
    · rw [same, added] at found
      cases found
      exact absurd rfl published
    · rw [other same] at found
      obtain ⟨alive, endpoints, dispatched, exact⟩ := committed.published id row found published
      exact ⟨alive, endpoints, dispatched.mono, exact⟩
  · refine committed.silent id fun row found => ?_
    have different : id ≠ outbox.count := by
      rintro rfl
      rw [vacant] at found
      cases found
    exact unpublished row (by rw [other different]; exact found)
  · by_cases same : id = outbox.count
    · rw [same, added] at found
      cases found
      simp [outboxMaxAttempts]
    · rw [other same] at found
      exact committed.dead id row found
  · rw [counted]
    by_cases same : id = outbox.count
    · rw [same, added] at found
      cases found
      rw [same]
      exact (committed.uncounted _ vacant).symm
    · rw [other same] at found
      exact committed.counted id row found
  · rw [counted]
    refine committed.uncounted id ?_
    by_cases same : id = outbox.count
    · rw [same]
      exact vacant
    · rwa [other same] at absent

/-- The commit of a finished pass writes each event's own attempt. -/
theorem Committed.commit (committed : Committed past outbox) (locks : Locks past outbox)
    (here : outbox = Outbox.after past) {index : Nat} {pass : DispatchPass}
    (found : outbox.passes[index]? = some pass) (finished : pass.todo = []) :
    Committed (past ++ [.commit index]) (outbox.committed index pass) := by
  have locked : pass.locked = pass.done.map (·.id) := by simp [DispatchPass.locked, finished]
  have nodup := locks.distinct index pass found
  rw [locked] at nodup
  have own := locks.own index pass found
  have mine : ∀ attempt ∈ pass.done, ∀ delivery ∈ attempt.deliveries,
      delivery.outboxEventId = attempt.id := fun attempt member => by
    obtain ⟨row, -, own⟩ := own attempt member
    exact own.event.2
  have rows (id : Nat) : (outbox.committed index pass).rows id =
      ((attemptAt pass.done id).map (·.after)).or (outbox.rows id) := written_eq id
  have deliveries (id : Nat) : (outbox.committed index pass).deliveriesOf id =
      outbox.deliveriesOf id ++ ((attemptAt pass.done id).map (·.deliveries)).getD [] := by
    rw [← flatMap_own nodup mine, Outbox.deliveriesOf, Outbox.deliveriesOf, ← List.filter_append]
    rfl
  have failures (id : Nat) : Outbox.failures id {} (past ++ [.commit index]) =
      Outbox.failures id {} past +
        if (attemptAt pass.done id).any (·.after.publishedAt.isNone) then 1 else 0 := by
    rw [Outbox.failures_after here, ← countP_own nodup]
    simp only [Outbox.recorded, found, if_pos finished]
  -- What an event of the pass was before, and what its attempt made of it.
  have tried {id : Nat} {attempt : Attempt} (at_id : attemptAt pass.done id = some attempt) :
      ∃ row, outbox.rows id = some row ∧ row.publishedAt = none ∧ row.deadAt = none ∧
        attempt.Own past index row ∧ attempt.id = id ∧ id ∈ pass.locked := by
    obtain ⟨member, rfl⟩ := attemptAt_mem at_id
    have held : attempt.id ∈ pass.locked := by
      rw [locked]
      exact List.mem_map_of_mem member
    obtain ⟨row, stored, unpublished, alive⟩ := locks.held index pass attempt.id found held
    obtain ⟨row', stored', own⟩ := own attempt member
    rw [stored] at stored'
    cases stored'
    exact ⟨row, stored, unpublished, alive, own, rfl, held⟩
  -- Either the pass did not try the event, or it was not published before.
  have cases_at (id : Nat) : attemptAt pass.done id = none ∨ ∃ attempt row,
      attemptAt pass.done id = some attempt ∧ outbox.rows id = some row ∧ row.publishedAt = none ∧
        row.deadAt = none ∧ attempt.Own past index row ∧ attempt.id = id ∧ id ∈ pass.locked := by
    cases at_id : attemptAt pass.done id with
    | none => exact .inl rfl
    | some attempt =>
        obtain ⟨row, rest⟩ := tried at_id
        exact .inr ⟨attempt, row, rfl, rest⟩
  refine ⟨fun id bound => ?_, fun id row stored => ?_, fun id row stored published => ?_,
    fun id unpublished => ?_, fun id row stored => ?_, fun id row stored => ?_, fun id absent => ?_⟩
  · rcases cases_at id with idle | ⟨attempt, row, at_id, stored, -⟩
    · rw [rows, idle]
      exact committed.fresh id bound
    · rw [committed.fresh id bound] at stored
      cases stored
  · rw [rows] at stored
    rcases cases_at id with idle | ⟨attempt, before, at_id, was, -, -, own, -, -⟩
    · rw [idle] at stored
      exact committed.audience id row stored
    · rw [at_id] at stored
      cases stored
      rw [own.event.1]
      exact committed.audience id before was
  · rw [rows] at stored
    rw [deliveries]
    rcases cases_at id with idle | ⟨attempt, before, at_id, was, unpublished, alive, own, rfl, held⟩
    · rw [idle] at stored ⊢
      obtain ⟨alive, endpoints, dispatched, exact⟩ := committed.published id row stored published
      exact ⟨alive, endpoints, dispatched.mono, by simpa using exact⟩
    · rw [at_id] at stored ⊢
      cases stored
      rcases own.outcome unpublished alive with ⟨-, undead, -, endpoints, attempted, fanned⟩ | ⟨failed, -⟩
      · refine ⟨undead, endpoints, ⟨index, past, [], pass, rfl, here ▸ found, finished, held,
          attempted⟩, ?_⟩
        -- It had no delivery before it was published.
        rw [committed.silent attempt.id fun row stored => by
          rw [was] at stored
          cases stored
          exact unpublished, own.event.1]
        simpa using fanned
      · exact absurd failed published
  · rw [deliveries]
    rcases cases_at id with idle | ⟨attempt, before, at_id, was, unpublished', alive, own, rfl, -⟩
    · rw [idle]
      simp only [Option.map_none, Option.getD_none, List.append_nil]
      refine committed.silent id fun row stored => unpublished row ?_
      rw [rows, idle]
      exact stored
    · have failed : attempt.after.publishedAt = none := unpublished attempt.after (by
        rw [rows, at_id]
        rfl)
      rcases own.outcome unpublished' alive with ⟨published, -⟩ | ⟨-, -, -, nothing⟩
      · exact absurd failed published
      · rw [at_id, committed.silent attempt.id fun row stored => by
          rw [was] at stored
          cases stored
          exact unpublished']
        simpa using nothing
  · rw [rows] at stored
    rcases cases_at id with idle | ⟨attempt, before, at_id, was, unpublished, alive, own, -, -⟩
    · rw [idle] at stored
      exact committed.dead id row stored
    · rw [at_id] at stored
      cases stored
      have living := (committed.dead id before was).not.mp (by simp [alive])
      rcases own.outcome unpublished alive with ⟨-, undead, same, -⟩ | ⟨-, counted, dead, -⟩
      · rw [undead, same]
        simpa using living
      · rw [dead, counted]
  · rw [rows] at stored
    rw [failures]
    rcases cases_at id with idle | ⟨attempt, before, at_id, was, unpublished, alive, own, -, -⟩
    · rw [idle] at stored ⊢
      simpa using committed.counted id row stored
    · rw [at_id] at stored ⊢
      cases stored
      have counted := committed.counted id before was
      rcases own.outcome unpublished alive with ⟨published, -, same, -⟩ | ⟨failed, more, -, -⟩
      · simp [same, counted, published]
      · simp [more, counted, failed]
  · rw [rows] at absent
    rw [failures]
    rcases cases_at id with idle | ⟨attempt, before, at_id, was, -⟩
    · rw [idle] at absent ⊢
      simpa using committed.uncounted id absent
    · rw [at_id] at absent
      cases absent

/-- The commit leaves alone what the other passes hold. -/
theorem Locks.commit (locks : Locks past outbox) {index : Nat} {pass : DispatchPass}
    (found : outbox.passes[index]? = some pass) :
    Locks (past ++ [.commit index]) (outbox.committed index pass) := by
  refine locks.replace rfl (.inl found) (by simp [DispatchPass.locked])
    (fun id member => by simp [DispatchPass.locked] at member)
    (fun attempt member => by simp at member) (by simp) fun other held id here member => ?_
  -- Another pass holds none of the events this one tried.
  have elsewhere : outbox.passes[other]? = some held ∧ other ≠ index := by
    simp only [Outbox.committed, List.getElem?_set] at here
    split at here
    · split at here
      · cases here
        simp [DispatchPass.locked] at member
      · cases here
    · next different => exact ⟨here, fun same => different same.symm⟩
  have untried : attemptAt pass.done id = none := attemptAt_none.mpr fun tried =>
    elsewhere.2 (locks.apart other index held pass id elsewhere.1 found member
      (List.mem_append_right _ tried))
  change Outbox.written outbox.rows pass.done id = outbox.rows id
  rw [written_eq, untried]
  rfl

theorem Locks.crash (locks : Locks past outbox) (index : Nat) :
    Locks (past ++ [.crash index]) (outbox.step (.crash index)) :=
  locks.replace rfl (.inr rfl) (by simp [DispatchPass.locked])
    (fun id member => member) (fun attempt member => by simp at member)
    (fun other different same => different (by cases same; rfl)) fun _ _ _ _ _ => rfl

end Committing

/-- Every reachable state keeps its locks and its committed rows in order. -/
theorem dispatch_invariant (past : List DispatchAction) :
    Locks past (Outbox.after past) ∧ Committed past (Outbox.after past) := by
  induction past using List.reverseRecOn with
  | nil =>
      refine ⟨⟨?_, ?_, ?_, ?_⟩, ⟨?_, ?_, ?_, ?_, ?_, ?_, ?_⟩⟩ <;>
        simp [Outbox.after, Outbox.failures, Outbox.deliveriesOf]
  | append_singleton past action ih =>
      obtain ⟨locks, committed⟩ := ih
      rw [Outbox.after_append]
      cases action with
      | append eventType aggregateType aggregateId organizationId payload now =>
          refine ⟨locks.frame rfl (by simp) fun id row found => ?_,
            committed.append rfl eventType aggregateType aggregateId organizationId payload now⟩
          have different : id ≠ (Outbox.after past).count := by
            rintro rfl
            rw [committed.fresh _ (Nat.le_refl _)] at found
            cases found
          exact (if_neg different).trans found
      | configure endpoints =>
          exact ⟨locks.frame rfl (by simp) fun _ _ kept => kept,
            committed.quiet rfl rfl rfl rfl fun _ => rfl⟩
      | start now => exact ⟨locks.start now, committed.quiet rfl rfl rfl rfl fun _ => rfl⟩
      | attempt index failure now =>
          refine ⟨locks.attempt rfl index failure now, committed.quiet rfl ?_ ?_ ?_ fun _ => rfl⟩ <;>
            simp only [Outbox.step] <;> split <;> rfl
      | commit index =>
          cases found : (Outbox.after past).passes[index]? with
          | none =>
              have idle : (Outbox.after past).step (.commit index) = Outbox.after past := by
                simp only [Outbox.step, found]
              rw [idle]
              exact ⟨locks.frame rfl (by simp) fun _ _ kept => kept,
                committed.quiet rfl rfl rfl rfl fun id => by simp only [Outbox.recorded, found]⟩
          | some pass =>
              by_cases finished : pass.todo = []
              · have done : (Outbox.after past).step (.commit index) =
                    (Outbox.after past).committed index pass := by
                  simp only [Outbox.step, found, if_pos finished]
                rw [done]
                exact ⟨locks.commit found, committed.commit locks rfl found finished⟩
              · have idle : (Outbox.after past).step (.commit index) = Outbox.after past := by
                  simp only [Outbox.step, found, if_neg finished]
                rw [idle]
                exact ⟨locks.frame rfl (by simp) fun _ _ kept => kept,
                  committed.quiet rfl rfl rfl rfl fun id => by
                    simp only [Outbox.recorded, found, if_neg finished]⟩
      | crash index => exact ⟨locks.crash index, committed.quiet rfl rfl rfl rfl fun _ => rfl⟩

/-! ### The promises -/

/-- The endpoint was active and subscribed to this public event of its organization. -/
def Subscribed (endpoints : Table WebhookEndpoint) (event : OutboxEvent) (endpoint : Nat) : Prop :=
  event.eventType ∉ internalEvents ∧ ∃ organization, event.organizationId = some organization ∧
    ∃ row ∈ endpoints.rows, row.id = endpoint ∧ row.takes organization event.eventType

/-- What the fan-out promises after any history. -/
structure FannedOut (past : List DispatchAction) : Prop where
  exact : ∀ id row, (Outbox.after past).rows id = some row → row.publishedAt ≠ none →
    ∃ endpoints, Dispatched past id endpoints ∧ ∀ endpoint,
      (Subscribed endpoints row.event endpoint →
        (((Outbox.after past).deliveriesOf id).map (·.endpointId)).count endpoint = 1) ∧
      (¬ Subscribed endpoints row.event endpoint →
        (((Outbox.after past).deliveriesOf id).map (·.endpointId)).count endpoint = 0)
  withheld : ∀ id row, (Outbox.after past).rows id = some row →
    row.event.eventType ∈ internalEvents ∨ row.event.organizationId = none ∨ row.publishedAt = none →
    (Outbox.after past).deliveriesOf id = []
  isolated : ∀ (index : Nat) (pass : DispatchPass), (Outbox.after past).passes[index]? = some pass →
    pass.todo = [] →
    (∀ attempt ∈ pass.done, ∃ row, (Outbox.after past).rows attempt.id = some row ∧
      attempt.Own past index row ∧
      (Outbox.after (past ++ [.commit index])).rows attempt.id = some attempt.after ∧
      (Outbox.after (past ++ [.commit index])).deliveriesOf attempt.id = attempt.deliveries) ∧
    ∀ id ∉ pass.locked,
      (Outbox.after (past ++ [.commit index])).rows id = (Outbox.after past).rows id
  dead : ∀ id row, (Outbox.after past).rows id = some row →
    (row.deadAt ≠ none ↔ outboxMaxAttempts ≤ Outbox.failures id {} past)
  retired : ∀ id row, (Outbox.after past).rows id = some row → row.deadAt ≠ none →
    row.publishedAt = none ∧ ∀ later, (Outbox.after (past ++ later)).rows id = some row ∧
      ∀ pass ∈ (Outbox.after (past ++ later)).passes, id ∉ pass.locked
  backoff : ∀ attempts, backoffIndex attempts < outboxBackoffSeconds.length

section Promises

variable {past : List DispatchAction} {event : OutboxEvent}

theorem endpoints_nodup (endpoints : Table WebhookEndpoint) :
    (endpoints.rows.map (·.id)).Nodup := by
  rw [List.Nodup, List.pairwise_map]
  exact endpoints.pairwise.imp fun compatible => compatible.1

/-- The endpoints an event fans out to: the subscribed ones, each once. -/
theorem fanOut_endpoints (endpoints : Table WebhookEndpoint) (id : Nat)
    (stamped : event.audience = audienceFor event.eventType) :
    ((fanOut endpoints id event).map (·.endpointId)).Nodup ∧
      ∀ endpoint, endpoint ∈ (fanOut endpoints id event).map (·.endpointId) ↔
        Subscribed endpoints event endpoint := by
  have audience : event.audience = "public" ↔ event.eventType ∉ internalEvents := by
    rw [stamped, audienceFor]
    split
    · next internal => simp [internal]
    · next outside => simp [outside]
  unfold fanOut Subscribed
  cases event.organizationId with
  | none => simp
  | some organization =>
      by_cases shared : event.audience = "public"
      · simp only [if_pos shared, List.map_map, audience.mp shared, not_false_eq_true, true_and,
          Option.some.injEq, exists_eq_left']
        constructor
        · exact (endpoints_nodup endpoints).sublist ((List.filter_sublist).map _)
        · intro endpoint
          simp only [List.mem_map, List.mem_filter, Function.comp]
          constructor
          · rintro ⟨row, ⟨member, takes⟩, same⟩
            exact ⟨row, member, same, takes⟩
          · rintro ⟨row, member, same, takes⟩
            exact ⟨row, ⟨member, takes⟩, same⟩
      · simp only [if_neg shared, List.map_nil, List.nodup_nil, List.not_mem_nil, true_and,
          false_iff, not_and]
        exact fun _ outside => absurd (audience.mpr outside) shared

theorem not_locked_of_dead {id : Nat} {row : OutboxRow}
    (stored : (Outbox.after past).rows id = some row) (dead : row.deadAt ≠ none) :
    ∀ pass ∈ (Outbox.after past).passes, id ∉ pass.locked := by
  intro pass member held
  obtain ⟨index, here⟩ := List.getElem?_of_mem member
  obtain ⟨other, stored', -, alive⟩ := (dispatch_invariant past).1.held index pass id here held
  rw [stored] at stored'
  cases stored'
  exact dead alive

/-- No step touches a dead event. -/
theorem dead_kept {id : Nat} {row : OutboxRow} (stored : (Outbox.after past).rows id = some row)
    (dead : row.deadAt ≠ none) (action : DispatchAction) :
    (Outbox.after (past ++ [action])).rows id = some row := by
  rw [Outbox.after_append]
  cases action with
  | append eventType aggregateType aggregateId organizationId payload now =>
      have different : id ≠ (Outbox.after past).count := by
        rintro rfl
        rw [(dispatch_invariant past).2.fresh _ (Nat.le_refl _)] at stored
        cases stored
      exact (if_neg different).trans stored
  | configure endpoints => exact stored
  | start now => exact stored
  | crash index => exact stored
  | attempt index failure now =>
      simp only [Outbox.step]
      split <;> exact stored
  | commit index =>
      simp only [Outbox.step]
      split
      · exact stored
      · next pass here =>
        split
        · have untried : attemptAt pass.done id = none := attemptAt_none.mpr fun tried =>
            not_locked_of_dead stored dead pass (List.mem_of_getElem? here)
              (List.mem_append_right _ tried)
          change Outbox.written (Outbox.after past).rows pass.done id = some row
          rw [written_eq, untried]
          exact stored
        · exact stored

theorem dead_stays {id : Nat} {row : OutboxRow} (stored : (Outbox.after past).rows id = some row)
    (dead : row.deadAt ≠ none) (later : List DispatchAction) :
    (Outbox.after (past ++ later)).rows id = some row := by
  induction later using List.reverseRecOn with
  | nil => rwa [List.append_nil]
  | append_singleton later action ih =>
      rw [← List.append_assoc]
      exact dead_kept ih dead action

/-- A published event has one delivery for each subscribed endpoint, and no others. -/
theorem published_deliveries {id : Nat} {row : OutboxRow}
    (stored : (Outbox.after past).rows id = some row) (published : row.publishedAt ≠ none) :
    ∃ endpoints, Dispatched past id endpoints ∧ ∀ endpoint,
      (Subscribed endpoints row.event endpoint →
        (((Outbox.after past).deliveriesOf id).map (·.endpointId)).count endpoint = 1) ∧
      (¬ Subscribed endpoints row.event endpoint →
        (((Outbox.after past).deliveriesOf id).map (·.endpointId)).count endpoint = 0) := by
  obtain ⟨-, committed⟩ := dispatch_invariant past
  obtain ⟨-, endpoints, dispatched, fanned⟩ := committed.published id row stored published
  obtain ⟨nodup, members⟩ := fanOut_endpoints endpoints id (committed.audience id row stored)
  refine ⟨endpoints, dispatched, fun endpoint => ⟨fun subscribed => ?_, fun unsubscribed => ?_⟩⟩
  · rw [fanned]
    exact List.count_eq_one_of_mem nodup ((members endpoint).mpr subscribed)
  · rw [fanned]
    exact List.count_eq_zero_of_not_mem fun member => unsubscribed ((members endpoint).mp member)

/-- An internal event, one of no organization and an unpublished one have no delivery. -/
theorem withheld_deliveries {id : Nat} {row : OutboxRow}
    (stored : (Outbox.after past).rows id = some row)
    (reason : row.event.eventType ∈ internalEvents ∨ row.event.organizationId = none ∨
      row.publishedAt = none) : (Outbox.after past).deliveriesOf id = [] := by
  obtain ⟨-, committed⟩ := dispatch_invariant past
  by_cases published : row.publishedAt = none
  · apply committed.silent id
    intro other found
    rw [stored] at found
    cases found
    exact published
  · obtain ⟨-, endpoints, -, fanned⟩ := committed.published id row stored published
    rw [fanned]
    obtain ⟨-, members⟩ := fanOut_endpoints endpoints id (committed.audience id row stored)
    rw [← List.map_eq_nil_iff, List.eq_nil_iff_forall_not_mem]
    intro endpoint member
    obtain ⟨outside, organization, owned, -⟩ := (members endpoint).mp member
    rcases reason with internal | nobody | unpublished
    · exact outside internal
    · rw [nobody] at owned
      cases owned
    · exact published unpublished

section Commit

variable {index : Nat} {pass : DispatchPass}

theorem after_commit (here : (Outbox.after past).passes[index]? = some pass)
    (finished : pass.todo = []) :
    Outbox.after (past ++ [.commit index]) = (Outbox.after past).committed index pass := by
  rw [Outbox.after_append]
  simp only [Outbox.step, here, if_pos finished]

theorem locked_finished (finished : pass.todo = []) : pass.locked = pass.done.map (·.id) := by
  simp [DispatchPass.locked, finished]

/-- What a pass has attempted is committed as the attempt left it. -/
theorem commit_attempted (here : (Outbox.after past).passes[index]? = some pass)
    (finished : pass.todo = []) {attempt : Attempt} (member : attempt ∈ pass.done) :
    ∃ row, (Outbox.after past).rows attempt.id = some row ∧ attempt.Own past index row ∧
      (Outbox.after (past ++ [.commit index])).rows attempt.id = some attempt.after ∧
      (Outbox.after (past ++ [.commit index])).deliveriesOf attempt.id = attempt.deliveries := by
  obtain ⟨locks, committed⟩ := dispatch_invariant past
  have nodup := locks.distinct index pass here
  rw [locked_finished finished] at nodup
  have found := attemptAt_of_mem nodup member
  obtain ⟨row, stored, own⟩ := locks.own index pass here attempt member
  rw [after_commit here finished]
  refine ⟨row, stored, own, ?_, ?_⟩
  · change Outbox.written (Outbox.after past).rows pass.done attempt.id = some attempt.after
    rw [written_eq, found]
    rfl
  · have mine : ∀ other ∈ pass.done, ∀ delivery ∈ other.deliveries,
        delivery.outboxEventId = other.id := by
      intro other member
      obtain ⟨row, -, own⟩ := locks.own index pass here other member
      exact own.event.2
    -- The event was not published before, so nothing was delivered for it.
    obtain ⟨held, found', unpublished, -⟩ := locks.held index pass attempt.id here
      (List.mem_append_right _ (List.mem_map_of_mem member))
    have before : (Outbox.after past).deliveriesOf attempt.id = [] := by
      apply committed.silent attempt.id
      intro other found
      rw [found'] at found
      cases found
      exact unpublished
    change List.filter _ (_ ++ _) = _
    rw [List.filter_append, flatMap_own nodup mine, found]
    change (Outbox.after past).deliveriesOf attempt.id ++ _ = _
    rw [before]
    rfl

/-- What it has not locked, its commit does not touch. -/
theorem commit_elsewhere (here : (Outbox.after past).passes[index]? = some pass)
    (finished : pass.todo = []) {id : Nat} (free : id ∉ pass.locked) :
    (Outbox.after (past ++ [.commit index])).rows id = (Outbox.after past).rows id := by
  rw [locked_finished finished] at free
  have untried : attemptAt pass.done id = none := attemptAt_none.mpr free
  rw [after_commit here finished]
  change Outbox.written (Outbox.after past).rows pass.done id = (Outbox.after past).rows id
  rw [written_eq, untried]
  rfl

end Commit

end Promises

/-- An event that fails once and one of the same batch that does not. -/
example :
    let endpoints : Table WebhookEndpoint :=
      ⟨[⟨0, 1, true, ["member.joined"]⟩], 1, by simp [Table.Consistent, Keyed.id]⟩
    let outbox := Outbox.after
      [.configure endpoints, .append "member.invited" "membership" 1 (some 1) [] 0,
        .append "member.joined" "membership" 1 (some 1) [] 0, .start 0, .attempt 0 (some "refused") 0,
        .attempt 0 none 0, .commit 0]
    (outbox.deliveriesOf 0, (outbox.deliveriesOf 1).map (·.endpointId)) = ([], [0]) := by
  decide

end SynapseSaas
