import SynapseSaas.Entitlements.Service
import SynapseSaas.Usage.Models

/-! Usage metering as the service runs it: each method is the script of SQL
statements it issues on its caller's transaction. -/

set_option autoImplicit false

namespace SynapseSaas

open ReadCommitted

def EffectiveEntitlements.limit (entitlements : EffectiveEntitlements) (metric : String) :
    Option Limit :=
  entitlements.limits.lookup metric

/-- What one call reads besides the usage tables: the metric's row, the clock
and the entitlements at each place it asks for them, and the ids it draws.
`softThreshold` is `int(value * ratio)`, which the code computes in floating point. -/
structure Readings where
  kind : Option MetricKind
  now : Int
  entitlements : EffectiveEntitlements
  nowLater : Int
  entitlementsLater : EffectiveEntitlements
  transactionStart : Int
  softThreshold : Int → Int → Int
  eventId : Nat
  aggregateIds : Nat × Nat

structure UsageCall where
  metric : String
  quantity : Int := 1
  occurredAt : Option Int := none
  idempotencyKey : Option String := none
  properties : Option (List (String × Value)) := none
  readings : Readings

/-- The fields of the answer that a path leaves out are `none`. -/
structure UsageResult where
  metric : String
  quantity : Int
  total : Int
  limit : Option Int := none
  remaining : Option Int := none
  withinLimit : Option Bool := none
  deduplicated : Bool
  deriving DecidableEq, Repr

namespace UsageService

def raise {α : Type} (cls : ErrorClass) (message : String)
    (extras : List (String × Value) := []) : UsageScript α :=
  .fail (.domain ⟨cls, message, extras⟩)

def assertCounterMetric (call : UsageCall) : UsageScript Unit :=
  match call.readings.kind with
  | none =>
      raise .unknownMetric ("Unknown usage metric " ++ quoted call.metric)
        [("metric", .str call.metric)]
  | some .gauge =>
      raise .validationFailed
        (quoted call.metric ++ " is a gauge (a level, not a flow): set it with POST /usage/gauge")
        [("metric", .str call.metric), ("kind", .str "gauge")]
  | some .counter => pure ()

/-- True at the first sight of a key, false for a replay. -/
def reserveIdempotency (organization : Nat) (key metric : String) (quantity : Int) :
    UsageScript Bool := do
  let row ← writeKey ⟨organization, key⟩ fun
    | none => some ⟨metric, quantity, none, none⟩
    | some _ => none
  return row.isSome

def settleIdempotency (organization : Nat) (key : String) (eventId : Nat) (total : Int) :
    UsageScript Unit := do
  let _ ← writeKey ⟨organization, key⟩ fun
    | none => none
    | some row => some { row with eventId := some eventId, totalAfter := some total }

def replayIdempotent (organization : Nat) (key : String) : UsageScript UsageResult := do
  match ← selectKey ⟨organization, key⟩ with
  | none => .fail (.other .noResult)
  | some row =>
      return { metric := row.metric
               quantity := row.quantity
               total := row.totalAfter.getD 0
               deduplicated := true }

def insertEvent (organization : Nat) (call : UsageCall) (occurredAt : Int) : UsageScript Nat := do
  Script.insert (.event
    { id := call.readings.eventId
      organizationId := organization
      metric := call.metric
      quantity := call.quantity
      occurredAt := occurredAt
      idempotencyKey := call.idempotencyKey
      properties := call.properties.getD [] })
  return call.readings.eventId

/-- The upsert-increment and the total it returns. -/
def incrementCounter (organization : Nat) (metric : String) (quantity occurredAt : Int) :
    UsageScript Int := do
  let written ← writeCounter ⟨organization, metric, monthBucket occurredAt⟩ fun
    | none => some ⟨quantity, none, some occurredAt⟩
    | some row => some { row with
        quantityTotal := row.quantityTotal + quantity
        lastEventAt := some occurredAt }
  match written with
  | none => .fail (.other .noResult)
  | some row => return row.quantityTotal

def outbox (eventType : String) (aggregateId organization : Nat)
    (payload : List (String × Value)) : UsageScript Unit :=
  Script.insert (.outbox
    ⟨eventType, "usage", aggregateId, some organization, payload, audienceFor eventType⟩)

/-- The threshold of a limit that has a value and a soft ratio. -/
def softThreshold (call : UsageCall) : Option (Int × Int) := do
  let limit ← call.readings.entitlementsLater.limit call.metric
  let value ← limit.value
  let ratio ← limit.softLimitRatio
  guard (ratio ≠ 0)
  return (value, call.readings.softThreshold value ratio)

/-- Marks the counter of the month the clock now shows, once. -/
def maybeEmitSoftLimit (organization : Nat) (call : UsageCall) (total : Int) :
    UsageScript Unit :=
  match softThreshold call with
  | none => pure ()
  | some (limit, threshold) =>
      if total < threshold then pure ()
      else do
        let marked ← writeCounter
          ⟨organization, call.metric, monthBucket call.readings.nowLater⟩ fun
            | none => none
            | some row =>
                if row.softLimitNotifiedAt.isNone then
                  some { row with softLimitNotifiedAt := some call.readings.transactionStart }
                else none
        if marked.isSome then
          outbox "usage.soft_limit_reached" call.readings.aggregateIds.1 organization
            [("organization_id", .str (toString organization)), ("metric", .str call.metric),
              ("threshold", .int threshold), ("total", .int total), ("limit", .int limit)]

/-- Run `fresh` unless the key of the call was seen before. -/
def unlessReplayed (organization : Nat) (call : UsageCall) (fresh : UsageScript UsageResult)
    (replayed : UsageResult → UsageResult) : UsageScript UsageResult :=
  match call.idempotencyKey with
  | none => fresh
  | some key => do
      if ← reserveIdempotency organization key call.metric call.quantity then fresh
      else do
        let result ← replayIdempotent organization key
        return replayed result

def settle (organization : Nat) (call : UsageCall) (eventId : Nat) (total : Int) :
    UsageScript Unit :=
  match call.idempotencyKey with
  | none => pure ()
  | some key => settleIdempotency organization key eventId total

/-- Record a usage event. No limit is enforced. -/
def record (organization : Nat) (call : UsageCall) : UsageScript UsageResult := do
  assertCounterMetric call
  unlessReplayed organization call (do
    let now := call.occurredAt.getD call.readings.now
    let eventId ← insertEvent organization call now
    let total ← incrementCounter organization call.metric call.quantity now
    maybeEmitSoftLimit organization call total
    settle organization call eventId total
    return { metric := call.metric, quantity := call.quantity, total, deduplicated := false }) id

/-- The limit value in force for a call; `none` is unlimited. -/
def limitValue (call : UsageCall) : Option Int :=
  (call.readings.entitlements.limit call.metric).bind (·.value)

def enforceLimit (call : UsageCall) (total : Int) : UsageScript Unit :=
  match limitValue call with
  | none => pure ()
  | some limit =>
      if limit < total then
        raise .usageLimitExceeded
          (call.metric ++ " limit exceeded (" ++ toString limit ++ "/period)")
          [("metric", .str call.metric), ("limit", .int limit),
            ("used", .int (total - call.quantity)), ("attempted", .int call.quantity),
            ("upgrade_url", .str "/dashboard/billing")]
      else pure ()

def emitHardLimit (organization : Nat) (call : UsageCall) (total : Int) : UsageScript Unit :=
  match limitValue call with
  | none => pure ()
  | some limit =>
      if limit ≤ total then
        outbox "usage.hard_limit_reached" call.readings.aggregateIds.2 organization
          [("metric", .str call.metric), ("limit", .int limit), ("total", .int total)]
      else pure ()

/-- An answer with the standing of its total under the limit. -/
def withLimit (call : UsageCall) (result : UsageResult) : UsageResult :=
  { result with
    limit := limitValue call
    remaining := (limitValue call).map (· - result.total)
    withinLimit := some ((limitValue call).all (result.total ≤ ·)) }

/-- Record and enforce: a breach raises, and the caller's transaction rolls back. -/
def consume (organization : Nat) (call : UsageCall) : UsageScript UsageResult := do
  assertCounterMetric call
  unlessReplayed organization call (do
    let now := call.readings.now
    let eventId ← insertEvent organization call now
    let total ← incrementCounter organization call.metric call.quantity now
    enforceLimit call total
    maybeEmitSoftLimit organization call total
    emitHardLimit organization call total
    settle organization call eventId total
    return withLimit call
      { metric := call.metric, quantity := call.quantity, total, deduplicated := false })
    (withLimit call)

/-- A batch, all or nothing: the first breach raises. -/
def consumeMany (organization : Nat) (calls : List UsageCall) : UsageScript (List UsageResult) :=
  Script.each (consume organization) calls

/-- The batch of the recording endpoint. -/
def recordEvents (organization : Nat) (calls : List UsageCall) : UsageScript (List UsageResult) :=
  Script.each (record organization) calls

end UsageService

end SynapseSaas
