import SynapseSaas.Core.Errors
import Mathlib.Data.List.Sort

/-! Subscription statuses and the single table of legal transitions. -/

set_option autoImplicit false

namespace SynapseSaas

inductive Status where
  | incomplete | trialing | active | pastDue | unpaid | canceled
  deriving DecidableEq, Repr

def Status.name : Status → String
  | .incomplete => "incomplete"
  | .trialing => "trialing"
  | .active => "active"
  | .pastDue => "past_due"
  | .unpaid => "unpaid"
  | .canceled => "canceled"

/-- Providers send statuses as text; only these six are known. -/
def Status.parse : String → Option Status
  | "incomplete" => some .incomplete
  | "trialing" => some .trialing
  | "active" => some .active
  | "past_due" => some .pastDue
  | "unpaid" => some .unpaid
  | "canceled" => some .canceled
  | _ => none

@[simp] theorem Status.parse_name (status : Status) : Status.parse status.name = some status := by
  cases status <;> rfl

def allowedTransitions : Status → List Status
  | .incomplete => [.trialing, .active, .pastDue, .canceled]
  | .trialing => [.active, .pastDue, .canceled, .incomplete]
  | .active => [.pastDue, .canceled, .unpaid, .active]
  | .pastDue => [.active, .canceled, .unpaid]
  | .unpaid => [.active, .canceled]
  | .canceled => [.active]

/-- Statuses whose plan features are in effect. -/
def Status.occupying : Status → Bool
  | .trialing | .active | .pastDue => true
  | .incomplete | .unpaid | .canceled => false

def canTransition (current target : Status) : Bool :=
  current = target ∨ target ∈ allowedTransitions current

/-- Check a transition to a status given as text. Text outside the vocabulary is
neither the current status nor in the table, so it is refused like any other
illegal target. -/
def assertTransition (current : Status) (target : String) : Result Status :=
  match Status.parse target with
  | some status => if canTransition current status then .ok status else refused
  | none => refused
where
  refused : Result Status :=
    raise .subscriptionState
      ("Cannot transition subscription from " ++ quoted current.name ++ " to " ++ quoted target)
      [("from", .str current.name), ("to", .str target),
        ("allowed", .list (((allowedTransitions current).map Status.name).insertionSort (· ≤ ·)))]

theorem assertTransition_eq_ok {current : Status} {target : String} {status : Status} :
    assertTransition current target = .ok status ↔
      Status.parse target = some status ∧ canTransition current status := by
  unfold assertTransition
  cases parsed : Status.parse target with
  | none => simp [assertTransition.refused, raise]
  | some found =>
      simp only [Option.some.injEq]
      split
      · next legal =>
          constructor
          · rintro ⟨⟩
            exact ⟨rfl, legal⟩
          · rintro ⟨rfl, -⟩
            rfl
      · next illegal =>
          simp only [assertTransition.refused, raise, reduceCtorEq, false_iff]
          rintro ⟨rfl, legal⟩
          exact illegal legal

/-- A refused transition is always a business rejection. -/
theorem assertTransition_error {current : Status} {target : String} {failure : Failure}
    (failed : assertTransition current target = .error failure) :
    ∃ error, failure = .domain error ∧ error.cls = .subscriptionState := by
  unfold assertTransition at failed
  split at failed
  · split at failed
    · cases failed
    · cases failed
      exact ⟨_, rfl, rfl⟩
  · cases failed
    exact ⟨_, rfl, rfl⟩

/-- Every status may be canceled, so ending a subscription is never refused. -/
theorem canTransition_canceled (status : Status) : canTransition status .canceled := by
  cases status <;> rfl

end SynapseSaas
