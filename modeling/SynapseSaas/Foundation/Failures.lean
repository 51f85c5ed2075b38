import SynapseSaas.Foundation.Outcomes
import SynapseSaas.Foundation.Procedures

/-! Methods that fail in allowed ways only. -/

set_option autoImplicit false

namespace Procedures

open Outcomes

variable {State Rows Write Effect Failure First Second : Type} [Writes Write Rows Failure]
  {allowed : Failure → Prop} {state : State} {rows : Rows}

theorem Proc.alone_bind_error {proc : Proc Rows Write Effect Failure First}
    {rest : First → Proc Rows Write Effect Failure Second} {failure : Failure}
    (failed : proc.alone rows = .error failure) : (proc >>= rest).alone rows = .error failure := by
  change (proc.bind rest).alone rows = _
  induction proc generalizing rows with
  | done answer => cases failed
  | fail cause =>
      cases failed
      rfl
  | select next ih => exact ih rows failed
  | perform effect next ih => exact ih failed
  | mutate write next ih =>
      simp only [Proc.alone, Proc.bind] at failed ⊢
      cases changed : Writes.write write rows with
      | ok middle =>
          rw [changed] at failed
          exact ih failed
      | error cause =>
          rw [changed] at failed
          cases failed
          rfl

namespace Method

/-- A method alone with the rows ends as promised or fails in a way that is allowed. -/
def Ends (allowed : Failure → Prop) (state : State) (rows : Rows)
    (promised : First → State → Rows → Prop)
    (method : Method State Rows Write Effect Failure First) : Prop :=
  Settles (fun ended => promised ended.1.1 ended.1.2 ended.2) allowed ((method.run state).alone rows)

variable {promised weaker : First → State → Rows → Prop}
  {method : Method State Rows Write Effect Failure First}

theorem Ends.bind {expected : Second → State → Rows → Prop}
    {rest : First → Method State Rows Write Effect Failure Second}
    (begun : Ends allowed state rows promised method)
    (continued : ∀ answer after rows, promised answer after rows →
      Ends allowed after rows expected (rest answer)) :
    Ends allowed state rows expected (method >>= rest) := by
  unfold Ends at begun ⊢
  change Settles _ _ ((method.run state >>= fun ended => (rest ended.1).run ended.2).alone rows)
  cases ran : (method.run state).alone rows with
  | ok result =>
      obtain ⟨⟨answer, after⟩, later⟩ := result
      rw [ran] at begun
      rw [Proc.alone_bind ran]
      exact continued answer after later begun
  | error failure =>
      rw [ran] at begun
      rw [Proc.alone_bind_error ran]
      exact begun

theorem Ends.weaken (ends : Ends allowed state rows promised method)
    (implies : ∀ answer after rows, promised answer after rows → weaker answer after rows) :
    Ends allowed state rows weaker method :=
  Settles.weaken ends fun ended kept => implies ended.1.1 ended.1.2 ended.2 kept

theorem ends_pure {answer : First} (kept : promised answer state rows) :
    Ends allowed state rows promised (pure answer : Method State Rows Write Effect Failure First) :=
  kept

theorem ends_fail {failure : Failure} (may : allowed failure) :
    Ends allowed state rows promised (fail failure : Method State Rows Write Effect Failure First) :=
  may

theorem ends_select {read : State → Rows → First × State}
    (kept : promised (read state rows).1 (read state rows).2 rows) :
    Ends allowed state rows promised (select read : Method State Rows Write Effect Failure First) :=
  kept

theorem ends_perform {promised : Unit → State → Rows → Prop} {effect : Effect}
    (kept : promised () state rows) :
    Ends allowed state rows promised (perform effect : Method State Rows Write Effect Failure Unit) :=
  kept

theorem ends_mutate {promised : Unit → State → Rows → Prop} {write : Write}
    (kept : ∀ after, Writes.write write rows = .ok after → promised () state after)
    (may : ∀ failure, Writes.write write rows = .error failure → allowed failure) :
    Ends allowed state rows promised (mutate write : Method State Rows Write Effect Failure Unit) := by
  change Settles _ _ ((Proc.mutate write (.done ((), state)) :
    Proc Rows Write Effect Failure (Unit × State)).alone rows)
  simp only [Proc.alone]
  cases written : Writes.write write rows with
  | ok after => exact kept after written
  | error failure => exact may failure written

end Method

end Procedures
