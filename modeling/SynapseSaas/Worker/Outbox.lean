import SynapseSaas.Core.Db
import SynapseSaas.Foundation.Runs

/-! The outbox and the workers that drain it.

A pass of `dispatch_outbox` is one transaction: it locks a batch of due events,
attempts each in its own savepoint and commits them together. Passes overlap, and
other transactions append events and configure endpoints meanwhile. -/

set_option autoImplicit false

namespace SynapseSaas

structure WebhookEndpoint where
  id : Nat
  organizationId : Nat
  isActive : Bool
  events : List String      -- empty: every event type
  deriving DecidableEq, Repr

instance : Keyed WebhookEndpoint where
  Key := Empty
  decEq := inferInstance
  id := WebhookEndpoint.id
  keys _ := []

structure WebhookDelivery where
  endpointId : Nat
  organizationId : Nat
  outboxEventId : Nat
  eventType : String
  payload : List (String × Value)
  deriving DecidableEq, Repr

structure OutboxRow where
  event : OutboxEvent
  publishedAt : Option Int := none
  deadAt : Option Int := none
  attempts : Nat := 0
  nextAttemptAt : Int
  lastError : Option String := none
  deriving DecidableEq, Repr

def outboxBatch : Nat := 20
def outboxMaxAttempts : Nat := 8
def outboxBackoffSeconds : List Int := [5, 30, 120, 600, 1800, 3600, 3600, 3600]

/-- `min(event.attempts - 1, len(OUTBOX_BACKOFF_SECONDS) - 1)`. -/
def backoffIndex (attempts : Nat) : Nat := min (attempts - 1) (outboxBackoffSeconds.length - 1)

theorem backoffIndex_lt (attempts : Nat) : backoffIndex attempts < outboxBackoffSeconds.length := by
  have bound : backoffIndex attempts ≤ outboxBackoffSeconds.length - 1 := Nat.min_le_right _ _
  have nonempty : 0 < outboxBackoffSeconds.length := by decide
  omega

def backoff (attempts : Nat) : Int :=
  outboxBackoffSeconds.get ⟨backoffIndex attempts, backoffIndex_lt attempts⟩ * second

/-- The endpoint takes the events of this organization and type. -/
def WebhookEndpoint.takes (endpoint : WebhookEndpoint) (organization : Nat) (eventType : String) :
    Bool :=
  endpoint.organizationId = organization ∧ endpoint.isActive ∧
    (endpoint.events = [] ∨ eventType ∈ endpoint.events)

/-- The deliveries an event fans out to. -/
def fanOut (endpoints : Table WebhookEndpoint) (id : Nat) (event : OutboxEvent) :
    List WebhookDelivery :=
  match event.organizationId with
  | none => []
  | some organization =>
      if event.audience = "public" then
        (endpoints.rows.filter (·.takes organization event.eventType)).map fun endpoint =>
          ⟨endpoint.id, organization, id, event.eventType, event.payload⟩
      else []

/-- What a pass is going to commit about one event of its batch. -/
structure Attempt where
  id : Nat
  after : OutboxRow
  deliveries : List WebhookDelivery := []

/-- The savepoint of an event that fans out. -/
def publish (endpoints : Table WebhookEndpoint) (id : Nat) (row : OutboxRow) (now : Int) :
    Attempt where
  id := id
  after := { row with publishedAt := some now }
  deliveries := fanOut endpoints id row.event

/-- `_outbox_failure`: the savepoint is rolled back, and the failure recorded. -/
def outboxFailure (id : Nat) (row : OutboxRow) (error : String) (now : Int) : Attempt where
  id := id
  after :=
    let attempts := row.attempts + 1
    let failed := { row with
      attempts := attempts
      lastError := some (String.ofList (error.toList.take 1000)) }
    if outboxMaxAttempts ≤ attempts then { failed with deadAt := some now }
    else { failed with nextAttemptAt := now + backoff attempts }

/-- An open transaction of a worker; a closed one holds nothing. -/
structure DispatchPass where
  todo : List Nat := []
  done : List Attempt := []

/-- The events whose rows it has locked. -/
def DispatchPass.locked (pass : DispatchPass) : List Nat := pass.todo ++ pass.done.map (·.id)

structure Outbox where
  rows : Nat → Option OutboxRow := fun _ => none
  count : Nat := 0
  endpoints : Table WebhookEndpoint := Table.empty
  deliveries : List WebhookDelivery := []
  passes : List DispatchPass := []

inductive DispatchAction where
  /-- A mutating transaction commits with its event. -/
  | append (eventType aggregateType : String) (aggregateId : Nat) (organizationId : Option Nat)
      (payload : List (String × Value)) (now : Int)
  | configure (endpoints : Table WebhookEndpoint)
  | start (now : Int)
  /-- The next event of the pass fans out, or fails with an error it can record. -/
  | attempt (pass : Nat) (failure : Option String) (now : Int)
  | commit (pass : Nat)
  /-- The transaction ends before its commit, for whatever reason. -/
  | crash (pass : Nat)

namespace Outbox

variable (outbox : Outbox)

def appendOutbox (eventType aggregateType : String) (aggregateId : Nat)
    (organizationId : Option Nat) (payload : List (String × Value)) (now : Int) : Outbox :=
  let event : OutboxEvent :=
    ⟨eventType, aggregateType, aggregateId, organizationId, payload, audienceFor eventType⟩
  { outbox with
    rows := fun id =>
      if id = outbox.count then some { event := event, nextAttemptAt := now } else outbox.rows id
    count := outbox.count + 1 }

def due (now : Int) (id : Nat) : Bool :=
  (outbox.rows id).any fun row =>
    row.publishedAt.isNone ∧ row.deadAt.isNone ∧ row.nextAttemptAt ≤ now

/-- `ORDER BY id LIMIT :limit FOR UPDATE SKIP LOCKED`. -/
def batch (now : Int) : List Nat :=
  ((List.range outbox.count).filter fun id =>
    outbox.due now id ∧ ∀ pass ∈ outbox.passes, id ∉ pass.locked).take outboxBatch

/-- One event of a pass, in its own savepoint. -/
def tried (id : Nat) (row : OutboxRow) (now : Int) : Option String → Attempt
  | none => publish outbox.endpoints id row now
  | some error => outboxFailure id row error now

def attempted (pass : DispatchPass) (failure : Option String) (now : Int) : DispatchPass :=
  match pass.todo with
  | [] => pass
  | id :: todo =>
      match outbox.rows id with
      | none => { pass with todo := todo }
      | some row => ⟨todo, pass.done ++ [outbox.tried id row now failure]⟩

/-- The rows once the attempts are committed. -/
def written (rows : Nat → Option OutboxRow) (done : List Attempt) (id : Nat) : Option OutboxRow :=
  match done.find? (·.id = id) with
  | some attempt => some attempt.after
  | none => rows id

def committed (index : Nat) (pass : DispatchPass) : Outbox :=
  { outbox with
    rows := written outbox.rows pass.done
    deliveries := outbox.deliveries ++ pass.done.flatMap (·.deliveries)
    passes := outbox.passes.set index {} }

def step : Outbox → DispatchAction → Outbox
  | outbox, .append eventType aggregateType aggregateId organizationId payload now =>
      outbox.appendOutbox eventType aggregateType aggregateId organizationId payload now
  | outbox, .configure endpoints => { outbox with endpoints := endpoints }
  | outbox, .start now => { outbox with passes := outbox.passes ++ [⟨outbox.batch now, []⟩] }
  | outbox, .attempt index failure now =>
      match outbox.passes[index]? with
      | none => outbox
      | some pass =>
          { outbox with passes := outbox.passes.set index (outbox.attempted pass failure now) }
  | outbox, .commit index =>
      match outbox.passes[index]? with
      | none => outbox
      | some pass => if pass.todo = [] then outbox.committed index pass else outbox
  | outbox, .crash index => { outbox with passes := outbox.passes.set index {} }

/-- How many failures of an event an action records for good. -/
def recorded (id : Nat) : DispatchAction → Nat
  | .commit index =>
      match outbox.passes[index]? with
      | none => 0
      | some pass =>
          if pass.todo = [] then pass.done.countP fun attempt =>
            attempt.id = id ∧ attempt.after.publishedAt.isNone
          else 0
  | _ => 0

/-- The failures of an event recorded in a run. -/
def failures (id : Nat) : Outbox → List DispatchAction → Nat
  | _, [] => 0
  | outbox, action :: rest => outbox.recorded id action + failures id (outbox.step action) rest

def deliveriesOf (id : Nat) : List WebhookDelivery :=
  outbox.deliveries.filter (·.outboxEventId = id)

end Outbox

end SynapseSaas
