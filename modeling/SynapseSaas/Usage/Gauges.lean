import SynapseSaas.Usage.Service

/-! Gauges and the pre-flight check. A gauge is a level that one counter keeps, in a period
of its own that never ends. -/

set_option autoImplicit false

namespace SynapseSaas

open ReadCommitted

def EffectiveEntitlements.limitOf (entitlements : EffectiveEntitlements) (metric : String) :
    Option Int :=
  (entitlements.limit metric).bind (·.value)

/-- True below the limit, whatever is asked for. -/
def EffectiveEntitlements.withinLimit (entitlements : EffectiveEntitlements) (metric : String)
    (used : Int) : Bool :=
  match entitlements.limit metric with
  | none => true
  | some limit =>
      match limit.value with
      | none => true
      | some value => used < value

/-- What a pre-flight check reports. -/
structure UsageCheck where
  metric : String
  used : Int
  limit : Option Int
  remaining : Option Int
  withinLimit : Bool
  softLimit : Option Int
  softLimitBreached : Bool
  deriving DecidableEq, Repr

/-- A move of a gauge, and what the transaction reads besides the counters. -/
structure GaugeMove where
  metric : String
  delta : Int
  enforce : Bool := true
  readings : Readings

namespace UsageService

/-- GAUGE_PERIOD, 1970-01-01. -/
def gaugePeriod : Int := 0

def periodFor (metric : String) (readings : Readings) : UsageScript Int :=
  match readings.kind with
  | none =>
      raise .unknownMetric ("Unknown usage metric " ++ quoted metric) [("metric", .str metric)]
  | some .gauge => pure gaugePeriod
  | some .counter => pure (monthBucket readings.now)

def currentTotal (organization : Nat) (metric : String) (readings : Readings) : UsageScript Int := do
  let period ← periodFor metric readings
  Script.select fun store : UsageStore => counterTotal store.rows ⟨organization, metric, period⟩

/-- `int(value * ratio)` where both are there and neither is zero. -/
def softLimitOf (readings : Readings) (limit : Option Limit) : Option Int := do
  let limit ← limit
  let value ← limit.value
  let ratio ← limit.softLimitRatio
  guard (value ≠ 0 ∧ ratio ≠ 0)
  return readings.softThreshold value ratio

def checkAgainst (readings : Readings) (metric : String) (used quantity : Int) : UsageCheck :=
  let limit := readings.entitlements.limit metric
  let value := limit.bind (·.value)
  let soft := softLimitOf readings limit
  { metric, used
    limit := value
    remaining := value.map (· - used)
    withinLimit := value.all (used + quantity ≤ ·)
    softLimit := soft
    softLimitBreached := soft.any (· ≤ used) }

/-- Read-only limit check. -/
def check (organization : Nat) (metric : String) (readings : Readings) (quantity : Int) :
    UsageScript UsageCheck := do
  let used ← currentTotal organization metric readings
  return checkAgainst readings metric used quantity

def assertGaugeMetric (metric : String) (readings : Readings) : UsageScript Unit :=
  match readings.kind with
  | none =>
      raise .unknownMetric ("Unknown usage metric " ++ quoted metric) [("metric", .str metric)]
  | some .counter =>
      raise .validationFailed
        (quoted metric ++ " is a counter: meter it with /usage/events or /usage/consume")
        [("metric", .str metric), ("kind", .str "counter")]
  | some .gauge => pure ()

/-- The comparison of the capacity check. -/
def overCapacity (value : Option Int) (current adding : Int) : Bool :=
  value.any (· < current + adding)

def ensureGaugeCapacity (metric : String) (readings : Readings) (current adding : Int) :
    UsageScript Unit := do
  assertGaugeMetric metric readings
  match readings.entitlements.limitOf metric with
  | none => pure ()
  | some value =>
      if overCapacity (some value) current adding then
        raise .usageLimitExceeded (metric ++ " limit reached (" ++ toString value ++ ")")
          [("metric", .str metric), ("limit", .int value), ("used", .int current),
            ("upgrade_url", .str "/dashboard/billing")]
      else pure ()

/-- The upsert of a level. -/
def levelSet (level transactionStart : Int) : Option CounterRow → Option CounterRow
  | none => some ⟨level, none, some transactionStart⟩
  | some row => some { row with quantityTotal := level, lastEventAt := some transactionStart }

/-- The upsert of a move: what is proposed for insertion is taken off again where there is
a row to add to. -/
def levelMoved (delta transactionStart : Int) : Option CounterRow → Option CounterRow
  | none => some ⟨max delta 0, none, some transactionStart⟩
  | some row => some { row with
      quantityTotal := max (row.quantityTotal + max delta 0 - max delta 0 + delta) 0
      lastEventAt := some transactionStart }

/-- The answer to a gauge that is at a level. -/
def gaugeResult (metric : String) (readings : Readings) (level : Int) : UsageResult :=
  let value := readings.entitlementsLater.limitOf metric
  { metric, quantity := level, total := level
    limit := value
    remaining := value.map (· - level)
    withinLimit := some (value.all (level ≤ ·))
    deduplicated := false }

def setGauge (organization : Nat) (metric : String) (readings : Readings) (value : Int) :
    UsageScript UsageResult := do
  assertGaugeMetric metric readings
  let level := max value 0
  let _ ← writeCounter ⟨organization, metric, gaugePeriod⟩ (levelSet level readings.transactionStart)
  return gaugeResult metric readings level

/-- Move a gauge, never below zero. -/
def adjustGauge (organization : Nat) (move : GaugeMove) : UsageScript UsageResult := do
  assertGaugeMetric move.metric move.readings
  if move.enforce ∧ 0 < move.delta then
    let current ← currentTotal organization move.metric move.readings
    ensureGaugeCapacity move.metric move.readings current move.delta
  let written ← writeCounter ⟨organization, move.metric, gaugePeriod⟩
    (levelMoved move.delta move.readings.transactionStart)
  match written with
  | none => .fail (.other .noResult)
  | some row => return gaugeResult move.metric move.readings row.quantityTotal

/-- What `adjust_gauge` does once its check has passed. -/
def moveGauge (organization : Nat) (move : GaugeMove) : UsageScript UsageResult := do
  let written ← writeCounter ⟨organization, move.metric, gaugePeriod⟩
    (levelMoved move.delta move.readings.transactionStart)
  match written with
  | none => .fail (.other .noResult)
  | some row => return gaugeResult move.metric move.readings row.quantityTotal

section Levels

variable {rows : (key : UsageKey) → Option key.Row} {counter : CounterKey}
  {level delta transactionStart : Int} {row : CounterRow}

/-- A move adds to the level and stops at zero. -/
theorem levelMoved_total
    (moved : levelMoved delta transactionStart (rows (.counter counter)) = some row) :
    row.quantityTotal = max (counterTotal rows counter + delta) 0 := by
  unfold counterTotal
  cases found : rows (.counter counter) with
  | none =>
      rw [found] at moved
      cases moved
      simp
  | some old =>
      rw [found] at moved
      cases moved
      simp

theorem levelMoved_ne_none (found : Option CounterRow) :
    levelMoved delta transactionStart found ≠ none := by
  cases found <;> simp [levelMoved]

theorem levelSet_ne_none (found : Option CounterRow) :
    levelSet level transactionStart found ≠ none := by
  cases found <;> simp [levelSet]

theorem levelSet_total {found : Option CounterRow}
    (written : levelSet level transactionStart found = some row) : row.quantityTotal = level := by
  cases found <;> (cases written; rfl)

end Levels

theorem withinLimit_iff {entitlements : EffectiveEntitlements} {metric : String} {used : Int} :
    entitlements.withinLimit metric used = (entitlements.limitOf metric).all (used < ·) := by
  unfold EffectiveEntitlements.withinLimit EffectiveEntitlements.limitOf
  cases entitlements.limit metric with
  | none => rfl
  | some limit =>
      dsimp only [Option.bind_some]
      cases limit.value <;> rfl

end UsageService

end SynapseSaas
