import SynapseSaas.Foundation.Runs

/-! Machines that answer each action, and when two runs of one give the same answers. -/

set_option autoImplicit false

namespace Observation

variable {State Action Reply : Type} (step : State → Action → Reply × State)

def next (state : State) (action : Action) : State := (step state action).2

/-- The answers of a run. -/
def replies : State → List Action → List Reply
  | _, [] => []
  | state, action :: rest => (step state action).1 :: replies (next step state action) rest

variable {allowed : Action → Prop}

/-- Where one action answers alike in alike states and leaves them alike, so do runs. -/
theorem replies_eq {alike : State → State → Prop}
    (unwinds : ∀ first second action, allowed action → alike first second →
      (step first action).1 = (step second action).1 ∧
        alike (next step first action) (next step second action))
    {first second : State} (start : alike first second) {actions : List Action}
    (all : ∀ action ∈ actions, allowed action) :
    replies step first actions = replies step second actions := by
  induction actions generalizing first second with
  | nil => rfl
  | cons action rest ih =>
      obtain ⟨here, later⟩ := List.forall_mem_cons.mp all
      obtain ⟨same, after⟩ := unwinds first second action here start
      rw [replies, replies, same, ih after later]

/-- Two machines that answer each action alike, in states related before and after, give the same
answers in every run. -/
theorem replies_simulated {Other : Type} {other : Other → Action → Reply × Other}
    (related : State → Other → Prop)
    (simulates : ∀ state image action, related state image →
      (step state action).1 = (other image action).1 ∧
        related (next step state action) (next other image action))
    {start : State} {image : Other} (initial : related start image) (actions : List Action) :
    replies step start actions = replies other image actions ∧
      related (Runs.run (next step) start actions) (Runs.run (next other) image actions) := by
  induction actions generalizing start image with
  | nil => exact ⟨rfl, initial⟩
  | cons action rest ih =>
      obtain ⟨same, after⟩ := simulates start image action initial
      obtain ⟨later, last⟩ := ih after
      exact ⟨by rw [replies, replies, same, later], last⟩

/-- What an allowed action keeps, a run of allowed actions keeps. -/
theorem run_allowed {invariant : State → Prop}
    (kept : ∀ state action, allowed action → invariant state → invariant (next step state action))
    {start : State} (holds : invariant start) {actions : List Action}
    (all : ∀ action ∈ actions, allowed action) : invariant (Runs.run (next step) start actions) := by
  induction actions generalizing start with
  | nil => exact holds
  | cons action rest ih =>
      obtain ⟨here, later⟩ := List.forall_mem_cons.mp all
      exact ih (kept start action here holds) later

end Observation
