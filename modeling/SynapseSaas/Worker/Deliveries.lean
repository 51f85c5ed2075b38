import SynapseSaas.Worker.Outbox
import Mathlib.Data.List.Induction

/-! The job that sends the webhook deliveries which are due.

A tick is one transaction: it claims a batch, attempts one delivery after the other
and commits at the end. An exception of an attempt ends the tick; what was sent by
then stays sent. -/

set_option autoImplicit false

namespace SynapseSaas.Deliveries

def deliveryBackoffSeconds : List Int := [60, 300, 1800, 7200, 21600]
def maxDeliveryAttempts : Nat := deliveryBackoffSeconds.length + 1
def deliveryBatch : Nat := 20

inductive DeliveryStatus where
  | pending | delivered | failed | exhausted
  deriving DecidableEq, Repr

structure Endpoint extends WebhookEndpoint where
  url : String
  secretEncrypted : List UInt8
  deriving DecidableEq, Repr

structure Delivery extends WebhookDelivery where
  id : Nat
  status : DeliveryStatus := .pending
  attempts : Nat := 0
  maxAttempts : Nat := maxDeliveryAttempts
  nextAttemptAt : Int
  lastResponseCode : Option Int := none
  lastError : Option String := none
  responseExcerpt : Option String := none
  deliveredAt : Option Int := none
  deriving DecidableEq, Repr

structure Envelope where
  id : Nat
  eventType : String
  organizationId : Nat
  createdAt : Int
  data : List (String × Value)
  deriving DecidableEq, Repr

structure Request where
  url : String
  content : Envelope
  timestamp : Int
  signature : String
  deriving DecidableEq, Repr

/-- How a POST ends: an answer, an `httpx.HTTPError`, or any other exception. -/
inductive Exchange where
  | response (statusCode : Int) (text : String)
  | httpError (message : String)
  | raised (message : String)
  deriving DecidableEq, Repr

/-- What a tick runs against: its clock, the cipher and its key, and the network. -/
structure World where
  now : Int
  decryptSecret : List UInt8 → Except String String
  signPayload : Envelope → String → Int → String
  post : Request → Exchange

/-- How one attempt ends. -/
inductive Outcome where
  | inactive
  | delivered (statusCode : Int) (text : String)
  | refused (statusCode : Option Int) (error : String)
  | raised (error : String)
  deriving DecidableEq, Repr

def excerpt (text : String) : String := String.ofList (text.toList.take 500)

namespace Delivery

def buildEnvelope (delivery : Delivery) (now : Int) : Envelope :=
  ⟨delivery.id, delivery.eventType, delivery.organizationId, now, delivery.payload⟩

/-- The attempts after which a delivery is given up. -/
def limit (delivery : Delivery) : Nat := min delivery.maxAttempts maxDeliveryAttempts

/-- `min(delivery.attempts - 1, len(DELIVERY_BACKOFF_SECONDS) - 1)`. -/
def backoff (attempts : Nat) : Int :=
  deliveryBackoffSeconds.getD (min (attempts - 1) (deliveryBackoffSeconds.length - 1)) 0 * second

def markFailure (delivery : Delivery) (now : Int) (code : Option Int) (error : String) : Delivery :=
  let failed := { delivery with
    attempts := delivery.attempts + 1
    lastResponseCode := code
    lastError := some (excerpt error) }
  if delivery.limit ≤ failed.attempts then { failed with status := .exhausted }
  else { failed with nextAttemptAt := now + backoff failed.attempts }

/-- What an attempt writes; an exception writes nothing. -/
def recorded (delivery : Delivery) (now : Int) : Outcome → Delivery
  | .inactive => { delivery with status := .failed, lastError := some "endpoint removed or inactive" }
  | .delivered statusCode text =>
      { delivery with
        status := .delivered
        deliveredAt := some now
        lastResponseCode := some statusCode
        responseExcerpt := some (excerpt text) }
  | .refused statusCode error => delivery.markFailure now statusCode error
  | .raised _ => delivery

end Delivery

/-- The signed request of an attempt. -/
def Delivery.request (delivery : Delivery) (world : World) (endpoint : Endpoint) (secret : String) :
    Request :=
  let content := delivery.buildEnvelope world.now
  let timestamp := world.now / second
  ⟨endpoint.url, content, timestamp, world.signPayload content secret timestamp⟩

/-- `deliver`, up to what it writes. The secret is decrypted outside the handler of HTTP
errors, and that handler knows no other exception. -/
def deliver (world : World) (endpoints : List Endpoint) (delivery : Delivery) : Outcome :=
  match endpoints.find? (·.id = delivery.endpointId) with
  | none => .inactive
  | some endpoint =>
      if endpoint.isActive = false then .inactive
      else
        match world.decryptSecret endpoint.secretEncrypted with
        | .error message => .raised message
        | .ok secret =>
            match world.post (delivery.request world endpoint secret) with
            | .response statusCode text =>
                if 200 ≤ statusCode ∧ statusCode < 300 then .delivered statusCode text
                else .refused (some statusCode) (excerpt text)
            | .httpError message => .refused none message
            | .raised message => .raised message

/-- The POST ends in an answer or in an HTTP error. -/
def Exchange.handled : Exchange → Bool
  | .raised _ => false
  | _ => true

/-- The endpoint is gone or inactive, or its secret can be decrypted and the POST handled. -/
def Delivery.answerable (world : World) (endpoints : List Endpoint) (delivery : Delivery) : Bool :=
  match endpoints.find? (·.id = delivery.endpointId) with
  | none => true
  | some endpoint =>
      endpoint.isActive = false ||
        match world.decryptSecret endpoint.secretEncrypted with
        | .error _ => false
        | .ok secret => (world.post (delivery.request world endpoint secret)).handled

/-- An attempt as it was made. -/
structure Made where
  id : Nat
  time : Int
  outcome : Outcome
  deriving DecidableEq, Repr

def Outcome.isRaised : Outcome → Bool
  | .raised _ => true
  | _ => false

def Outcome.isDelivered : Outcome → Bool
  | .delivered _ _ => true
  | _ => false

/-- The row of a delivery after an attempt. -/
def write (made : Made) (rows : List Delivery) : List Delivery :=
  rows.map fun row => if row.id = made.id then row.recorded made.time made.outcome else row

/-- The loop over the claimed deliveries: the rows it leaves in the session, unless an
exception ends it, and the attempts it made. -/
def attemptAll (world : World) (endpoints : List Endpoint) :
    List Nat → List Delivery → List Made → Option (List Delivery) × List Made
  | [], rows, made => (some rows, made)
  | id :: rest, rows, made =>
      match rows.find? (·.id = id) with
      | none => attemptAll world endpoints rest rows made
      | some delivery =>
          let attempt : Made := ⟨id, world.now, deliver world endpoints delivery⟩
          if attempt.outcome.isRaised then (none, made ++ [attempt])
          else attemptAll world endpoints rest (write attempt rows) (made ++ [attempt])

/-- The deliveries in the order they were created, with what was done about them: the
deliveries claimed and the attempts made, whether their tick was committed or not. -/
structure Queue where
  rows : List Delivery
  claimed : List Nat := []
  made : List Made := []
  deriving DecidableEq, Repr

/-- `ORDER BY created_at LIMIT :limit FOR UPDATE SKIP LOCKED`. -/
def Queue.batch (queue : Queue) (now : Int) : List Nat :=
  ((queue.rows.filter fun row => row.status = .pending ∧ row.nextAttemptAt ≤ now).take
    deliveryBatch).map (·.id)

/-- One run of the job; without its commit the rows are what they were. -/
def deliverWebhooks (queue : Queue) (tick : World × List Endpoint) : Queue :=
  let due := queue.batch tick.1.now
  match attemptAll tick.1 tick.2 due queue.rows queue.made with
  | (none, made) => { rows := queue.rows, claimed := queue.claimed ++ due, made }
  | (some rows, made) => { rows, claimed := queue.claimed ++ due, made }

/-- A row with everything recorded that was tried of its delivery. -/
def replay (made : List Made) (row : Delivery) : Delivery :=
  (made.filter (·.id = row.id)).foldl (fun row attempt => row.recorded attempt.time attempt.outcome) row

def tries (made : List Made) (id : Nat) : Nat := made.countP (·.id = id)

/-- Every claimed delivery was attempted and the outcome of every attempt is committed;
what was delivered is not sent again, and no delivery is tried for ever. -/
structure Queue.Accounted (opening : List Delivery) (queue : Queue) : Prop where
  attempted : queue.claimed = queue.made.map (·.id)
  recorded : queue.rows = opening.map (replay queue.made)
  sentOnce : queue.made.Pairwise fun earlier later =>
    earlier.outcome.isDelivered → later.id ≠ earlier.id
  leaves : ∀ row ∈ queue.rows, 0 < tries queue.made row.id → row.limit ≤ tries queue.made row.id →
    row.status ≠ .pending

/-- Every delivery of the batch can be attempted without an exception but HTTP errors. -/
def AllAnswerable (queue : Queue) (tick : World × List Endpoint) : Prop :=
  ∀ id ∈ queue.batch tick.1.now, ∀ row ∈ queue.rows, row.id = id → row.answerable tick.1 tick.2

instance (queue : Queue) (tick : World × List Endpoint) : Decidable (AllAnswerable queue tick) :=
  inferInstanceAs (Decidable (∀ id ∈ queue.batch tick.1.now, ∀ row ∈ queue.rows, _))

theorem deliver_quiet {world : World} {endpoints : List Endpoint} {delivery : Delivery}
    (answerable : delivery.answerable world endpoints) :
    (deliver world endpoints delivery).isRaised = false := by
  unfold Delivery.answerable at answerable
  unfold deliver
  split
  · rfl
  · next endpoint found =>
      simp only [found] at answerable
      split
      · rfl
      · next active =>
          simp only [active] at answerable
          split
          · next failed =>
              rw [failed] at answerable
              cases answerable
          · next secret opened =>
              simp only [opened] at answerable
              split
              · split <;> rfl
              · rfl
              · next raised =>
                  rw [raised] at answerable
                  cases answerable

section Rows

variable {rows : List Delivery} {attempt : Made}

@[simp] theorem recorded_id (delivery : Delivery) (now : Int) (outcome : Outcome) :
    (delivery.recorded now outcome).id = delivery.id := by
  cases outcome with
  | refused statusCode error =>
      simp only [Delivery.recorded, Delivery.markFailure]
      split <;> rfl
  | _ => rfl

@[simp] theorem recorded_limit (delivery : Delivery) (now : Int) (outcome : Outcome) :
    (delivery.recorded now outcome).limit = delivery.limit := by
  cases outcome with
  | refused statusCode error =>
      simp only [Delivery.recorded, Delivery.markFailure]
      split <;> rfl
  | _ => rfl

/-- What is still pending after an attempt that raised nothing was refused below its limit. -/
theorem pending_of_recorded {delivery : Delivery} {now : Int} {outcome : Outcome}
    (quiet : outcome.isRaised = false) (pending : (delivery.recorded now outcome).status = .pending) :
    delivery.status = .pending ∧
      (delivery.recorded now outcome).attempts = delivery.attempts + 1 ∧
      delivery.attempts + 1 < delivery.limit := by
  cases outcome with
  | inactive => cases pending
  | delivered statusCode text => cases pending
  | raised error => cases quiet
  | refused statusCode error =>
      simp only [Delivery.recorded, Delivery.markFailure] at pending ⊢
      split at pending
      · cases pending
      · next below =>
          have under : delivery.attempts + 1 < delivery.limit := Nat.lt_of_not_le below
          rw [if_neg below]
          exact ⟨pending, rfl, under⟩

@[simp] theorem map_id_write (attempt : Made) (rows : List Delivery) :
    (write attempt rows).map (·.id) = rows.map (·.id) := by
  rw [write, List.map_map]
  apply List.map_congr_left
  intro row _
  simp only [Function.comp_apply]
  split
  · exact recorded_id _ _ _
  · rfl

/-- The rows of other deliveries are found as they were. -/
theorem find_write_other {id : Nat} (other : id ≠ attempt.id) :
    (write attempt rows).find? (·.id = id) = rows.find? (·.id = id) := by
  induction rows with
  | nil => rfl
  | cons row rest ih =>
      rw [write, List.map_cons, ← write]
      by_cases mine : row.id = attempt.id
      · have apart : row.id ≠ id := fun same => other (same ▸ mine)
        rw [if_pos mine, List.find?_cons_of_neg (by simpa using apart),
          List.find?_cons_of_neg (by simpa using apart), ih]
      · rw [if_neg mine, List.find?_cons, List.find?_cons, ih]

theorem replay_snoc (made : List Made) (attempt : Made) (row : Delivery) :
    replay (made ++ [attempt]) row =
      if row.id = attempt.id then (replay made row).recorded attempt.time attempt.outcome
      else replay made row := by
  unfold replay
  rw [List.filter_append]
  by_cases mine : row.id = attempt.id
  · rw [if_pos mine, List.filter_cons_of_pos (by simpa using mine.symm), List.foldl_append]
    rfl
  · rw [if_neg mine, List.filter_cons_of_neg (by simpa using fun same => mine same.symm),
      List.filter_nil, List.append_nil]

@[simp] theorem replay_id (made : List Made) (row : Delivery) : (replay made row).id = row.id := by
  induction made using List.reverseRecOn with
  | nil => rfl
  | append_singleton made attempt ih =>
      rw [replay_snoc]
      split
      · rw [recorded_id, ih]
      · exact ih

theorem tries_snoc (made : List Made) (attempt : Made) (id : Nat) :
    tries (made ++ [attempt]) id = tries made id + if attempt.id = id then 1 else 0 := by
  unfold tries
  rw [List.countP_append, List.countP_singleton]
  simp

end Rows

/-! What the loop keeps true between two attempts. -/

structure Consistent (opening rows : List Delivery) (made : List Made) : Prop where
  recorded : rows = opening.map (replay made)
  settled : ∀ attempt ∈ made, attempt.outcome.isDelivered → ∀ row ∈ rows, row.id = attempt.id →
    row.status = .delivered
  sentOnce : made.Pairwise fun earlier later => earlier.outcome.isDelivered → later.id ≠ earlier.id
  counted : ∀ row ∈ rows, row.status = .pending →
    tries made row.id ≤ row.attempts ∧ (0 < tries made row.id → row.attempts < row.limit)

section Loop

variable {opening rows : List Delivery} {made : List Made} {attempt : Made}

/-- An attempt of a pending delivery that raises nothing. -/
theorem Consistent.write (consistent : Consistent opening rows made)
    (quiet : attempt.outcome.isRaised = false)
    (due : ∃ row ∈ rows, row.id = attempt.id ∧ row.status = .pending) :
    Consistent opening (write attempt rows) (made ++ [attempt]) := by
  -- A delivery that was delivered is not pending, so it is not this one.
  have fresh : ∀ earlier ∈ made, earlier.outcome.isDelivered → attempt.id ≠ earlier.id := by
    intro earlier member delivered same
    obtain ⟨row, there, mine, pending⟩ := due
    have settled := consistent.settled earlier member delivered row there (mine.trans same)
    rw [settled] at pending
    cases pending
  constructor
  · rw [Deliveries.write, consistent.recorded, List.map_map]
    apply List.map_congr_left
    intro row _
    rw [Function.comp_apply, replay_id, replay_snoc]
  · intro earlier member delivered row there same
    obtain ⟨before, here, rfl⟩ := List.mem_map.mp there
    rcases List.mem_append.mp member with old | new
    · by_cases mine : before.id = attempt.id
      · rw [if_pos mine, recorded_id] at same
        exact absurd (mine.symm.trans same) (fresh earlier old delivered)
      · rw [if_neg mine] at same ⊢
        exact consistent.settled earlier old delivered before here same
    · rw [List.mem_singleton.mp new] at same delivered
      by_cases mine : before.id = attempt.id
      · rw [if_pos mine]
        cases outcome : attempt.outcome with
        | delivered statusCode text => rfl
        | inactive | refused _ _ | raised _ =>
            rw [outcome] at delivered
            cases delivered
      · rw [if_neg mine] at same
        exact absurd same mine
  · rw [List.pairwise_append]
    refine ⟨consistent.sentOnce, List.pairwise_singleton _ _, ?_⟩
    intro earlier old later new delivered
    rw [List.mem_singleton.mp new]
    exact fresh earlier old delivered
  · intro row there pending
    obtain ⟨before, here, rfl⟩ := List.mem_map.mp there
    by_cases mine : before.id = attempt.id
    · rw [if_pos mine] at pending ⊢
      obtain ⟨waiting, more, below⟩ := pending_of_recorded quiet pending
      have counted := (consistent.counted before here waiting).1
      rw [recorded_id, recorded_limit, more, tries_snoc, if_pos mine.symm]
      omega
    · rw [if_neg mine] at pending ⊢
      rw [tries_snoc, if_neg (Ne.symm mine), Nat.add_zero]
      exact consistent.counted before here pending

/-- Where no attempt raises the loop comes to its end, with every claimed delivery tried. -/
theorem attemptAll_quiet (world : World) (endpoints : List Endpoint) {ids : List Nat}
    (consistent : Consistent opening rows made) (distinct : ids.Nodup)
    (due : ∀ id ∈ ids, ∃ row, rows.find? (·.id = id) = some row ∧ row.status = .pending)
    (quiet : ∀ id ∈ ids, ∀ row, rows.find? (·.id = id) = some row →
      (deliver world endpoints row).isRaised = false) :
    ∃ rows' made', attemptAll world endpoints ids rows made = (some rows', made') ∧
      Consistent opening rows' made' ∧ made'.map (·.id) = made.map (·.id) ++ ids := by
  induction ids generalizing rows made with
  | nil => exact ⟨rows, made, rfl, consistent, (List.append_nil _).symm⟩
  | cons id rest ih =>
      obtain ⟨row, found, pending⟩ := due id List.mem_cons_self
      have mine : row.id = id := by simpa using List.find?_some found
      have silent := quiet id List.mem_cons_self row found
      obtain ⟨elsewhere, others⟩ := List.nodup_cons.mp distinct
      have apart {other : Nat} (later : other ∈ rest) : other ≠ id := fun same => elsewhere (same ▸ later)
      let attempt : Made := ⟨id, world.now, deliver world endpoints row⟩
      have next : Consistent opening (write attempt rows) (made ++ [attempt]) :=
        consistent.write silent ⟨row, List.mem_of_find?_eq_some found, mine, pending⟩
      obtain ⟨rows', made', done, kept, ids_eq⟩ := ih next others
        (fun other later => by
          rw [find_write_other (apart later)]
          exact due other (List.mem_cons_of_mem _ later))
        (fun other later row here => by
          rw [find_write_other (apart later)] at here
          exact quiet other (List.mem_cons_of_mem _ later) row here)
      refine ⟨rows', made', ?_, kept, ?_⟩
      · simp only [attemptAll, found, silent, Bool.false_eq_true, if_false]
        exact done
      · rw [ids_eq, List.map_append, List.append_assoc]
        rfl

end Loop

/-! Ticks, one after the other. -/

/-- The rows and the log agree, and every claimed delivery is in the log. -/
structure Queue.InOrder (opening : List Delivery) (queue : Queue) : Prop where
  consistent : Consistent opening queue.rows queue.made
  distinct : (queue.rows.map (·.id)).Nodup
  attempted : queue.claimed = queue.made.map (·.id)

section Ticks

variable {opening : List Delivery} {queue : Queue}

theorem batch_pending (distinct : (queue.rows.map (·.id)).Nodup) {now : Int} {id : Nat}
    (claimed : id ∈ queue.batch now) :
    ∃ row, queue.rows.find? (·.id = id) = some row ∧ row.status = .pending := by
  obtain ⟨row, taken, rfl⟩ := List.mem_map.mp claimed
  obtain ⟨there, due⟩ := List.mem_filter.mp (List.mem_of_mem_take taken)
  refine ⟨row, ?_, (of_decide_eq_true due).1⟩
  cases found : queue.rows.find? (·.id = row.id) with
  | none => simpa using List.find?_eq_none.mp found row there
  | some other =>
      have same : other.id = row.id := by simpa using List.find?_some found
      rw [List.inj_on_of_nodup_map distinct (List.mem_of_find?_eq_some found) there same]

theorem batch_nodup (distinct : (queue.rows.map (·.id)).Nodup) (now : Int) :
    (queue.batch now).Nodup :=
  distinct.sublist (((List.take_sublist _ _).trans List.filter_sublist).map _)

theorem Consistent.map_id {rows : List Delivery} {made : List Made}
    (consistent : Consistent opening rows made) : rows.map (·.id) = opening.map (·.id) := by
  rw [consistent.recorded, List.map_map]
  apply List.map_congr_left
  intro row _
  exact replay_id made row

theorem Queue.InOrder.tick (ordered : queue.InOrder opening) {tick : World × List Endpoint}
    (quiet : AllAnswerable queue tick) : (deliverWebhooks queue tick).InOrder opening := by
  obtain ⟨rows, made, done, consistent, ids⟩ := attemptAll_quiet tick.1 tick.2
    ordered.consistent (batch_nodup ordered.distinct tick.1.now)
    (fun id claimed => batch_pending ordered.distinct claimed)
    (fun id claimed row found => deliver_quiet (quiet id claimed row (List.mem_of_find?_eq_some found)
      (by simpa using List.find?_some found)))
  have same : deliverWebhooks queue tick =
      { rows, claimed := queue.claimed ++ queue.batch tick.1.now, made } := by
    simp only [deliverWebhooks, done]
  rw [same]
  refine ⟨consistent, ?_, ?_⟩
  · rw [consistent.map_id, ← ordered.consistent.map_id]
    exact ordered.distinct
  · rw [ids, ← ordered.attempted]

theorem Queue.InOrder.unattempted (distinct : (opening.map (·.id)).Nodup) :
    (Queue.mk opening [] []).InOrder opening where
  consistent :=
    { recorded := by
        rw [show replay [] = id from rfl, List.map_id]
      settled := fun attempt member => by cases member
      sentOnce := List.Pairwise.nil
      counted := fun row _ _ => ⟨Nat.zero_le _, fun some => absurd some (Nat.lt_irrefl 0)⟩ }
  distinct := distinct
  attempted := rfl

theorem Queue.InOrder.accounted (ordered : queue.InOrder opening) : queue.Accounted opening where
  attempted := ordered.attempted
  recorded := ordered.consistent.recorded
  sentOnce := ordered.consistent.sentOnce
  leaves := by
    intro row there tried spent pending
    obtain ⟨counted, below⟩ := ordered.consistent.counted row there pending
    have under := below tried
    omega

end Ticks

/-! A batch of two: one endpoint answers, the other is down or has a secret that was
encrypted under a former key. -/

def sampleEndpoint (id : Nat) (url : String) (secretEncrypted : List UInt8) : Endpoint :=
  ⟨⟨id, 1, true, []⟩, url, secretEncrypted⟩

def sampleDelivery (id endpointId : Nat) : Delivery :=
  { endpointId, organizationId := 1, outboxEventId := id, eventType := "invoice.paid", payload := [],
    id, nextAttemptAt := 0 }

def sampleWorld (now : Int) : World where
  now := now
  decryptSecret encrypted := if encrypted = [0] then .error "InvalidToken" else .ok "whsec"
  signPayload _ _ _ := "v1"
  post request := if request.url = "https://down.test" then .response 500 "down" else .response 200 "ok"

def sampleDeliveries : List Delivery := [sampleDelivery 1 1, sampleDelivery 2 2]

/-- Two ticks a minute apart, against the second endpoint at this address with this secret. -/
def twoTicks (url : String) (secretEncrypted : List UInt8) : List (World × List Endpoint) :=
  let endpoints := [sampleEndpoint 1 "https://up.test" [1], sampleEndpoint 2 url secretEncrypted]
  [(sampleWorld 0, endpoints), (sampleWorld (60 * second), endpoints)]

end SynapseSaas.Deliveries
