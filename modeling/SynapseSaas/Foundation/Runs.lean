import Mathlib.Data.List.Basic

/-! Runs of a transition function, and what holds in every state they reach. -/

set_option autoImplicit false

namespace Runs

variable {State Action : Type} (step : State → Action → State)

def run (start : State) (actions : List Action) : State := actions.foldl step start

/-- The property holds in the start state and in every state the run reaches. -/
def Always (property : State → Prop) : State → List Action → Prop
  | state, [] => property state
  | state, action :: rest => property state ∧ Always property (step state action) rest

instance Always.decide {property : State → Prop} [DecidablePred property] :
    (start : State) → (actions : List Action) → Decidable (Always step property start actions)
  | start, [] => inferInstanceAs (Decidable (property start))
  | start, action :: rest =>
      have : Decidable (Always step property (step start action) rest) := Always.decide _ rest
      inferInstanceAs (Decidable (property start ∧ Always step property (step start action) rest))

/-- Every action of the run meets its condition in the state it is taken in. -/
def Guarded (condition : State → Action → Prop) : State → List Action → Prop
  | _, [] => True
  | state, action :: rest => condition state action ∧ Guarded condition (step state action) rest

instance Guarded.decide {condition : State → Action → Prop}
    [(state : State) → (action : Action) → Decidable (condition state action)] :
    (start : State) → (actions : List Action) → Decidable (Guarded step condition start actions)
  | _, [] => inferInstanceAs (Decidable True)
  | start, action :: rest =>
      have : Decidable (Guarded step condition (step start action) rest) := Guarded.decide _ rest
      inferInstanceAs (Decidable (condition start action ∧
        Guarded step condition (step start action) rest))

/-- Conditions that say the same of every action guard the same runs. -/
theorem guarded_congr {first second : State → Action → Prop}
    (same : ∀ state action, first state action ↔ second state action) {start : State}
    {actions : List Action} :
    Guarded step first start actions ↔ Guarded step second start actions := by
  induction actions generalizing start with
  | nil => exact Iff.rfl
  | cons action rest ih => exact and_congr (same start action) ih

/-- The same where the two agree under an invariant of the steps. -/
theorem guarded_congr_of_invariant {invariant : State → Prop} {first second : State → Action → Prop}
    (preserved : ∀ state action, invariant state → invariant (step state action))
    (same : ∀ state action, invariant state → (first state action ↔ second state action))
    {start : State} (initial : invariant start) (actions : List Action) :
    Guarded step first start actions ↔ Guarded step second start actions := by
  induction actions generalizing start with
  | nil => exact Iff.rfl
  | cons action rest ih =>
      exact and_congr (same start action initial) (ih (preserved start action initial))

@[simp] theorem run_nil (start : State) : run step start [] = start := rfl

@[simp] theorem run_cons (start : State) (action : Action) (rest : List Action) :
    run step start (action :: rest) = run step (step start action) rest := rfl

theorem run_append (start : State) (first second : List Action) :
    run step start (first ++ second) = run step (run step start first) second :=
  List.foldl_append

theorem guarded_append {condition : State → Action → Prop} {start : State}
    {first second : List Action} :
    Guarded step condition start (first ++ second) ↔
      Guarded step condition start first ∧
        Guarded step condition (run step start first) second := by
  induction first generalizing start with
  | nil => exact (iff_of_eq (true_and _)).symm
  | cons action rest ih => rw [List.cons_append, Guarded, Guarded, ih, run_cons, and_assoc]

/-- The state a run is in after its first so many actions. -/
def reached (start : State) (actions : List Action) (count : Nat) : State :=
  run step start (actions.take count)

theorem reached_succ {start : State} {actions : List Action} {count : Nat} {action : Action}
    (here : actions[count]? = some action) :
    reached step start actions (count + 1) = step (reached step start actions count) action := by
  rw [reached, List.take_add_one, here, run_append]
  rfl

theorem reached_over {start : State} {actions : List Action} {count : Nat}
    (none_left : actions[count]? = none) :
    reached step start actions (count + 1) = reached step start actions count := by
  rw [reached, List.take_add_one, none_left, run_append]
  rfl

/-- Actions that change nothing where they are taken may be left out of a run. -/
theorem run_filter {keep : Action → Bool} {start : State} {actions : List Action}
    (idle : ∀ count action, actions[count]? = some action → keep action = false →
      step (reached step start actions count) action = reached step start actions count) :
    run step start (actions.filter keep) = run step start actions := by
  induction actions generalizing start with
  | nil => rfl
  | cons action rest ih =>
      have later : run step (step start action) (rest.filter keep) =
          run step (step start action) rest :=
        ih fun count other here dropped => idle (count + 1) other here dropped
      cases kept : keep action with
      | true => rw [List.filter_cons_of_pos kept, run_cons, run_cons, later]
      | false =>
          have unchanged : step start action = start := idle 0 action rfl kept
          rw [List.filter_cons_of_neg (by simp [kept]), run_cons, ← later, unchanged]

/-- An invariant of one step is an invariant of every run. -/
theorem run_invariant {invariant : State → Prop}
    (preserved : ∀ state action, invariant state → invariant (step state action))
    {start : State} (initial : invariant start) (actions : List Action) :
    invariant (run step start actions) := by
  induction actions generalizing start with
  | nil => exact initial
  | cons action rest ih => exact ih (preserved start action initial)

/-- A part of the state that no action of the run touches is what it was. -/
theorem run_untouched {Part : Type} (part : State → Part) {actions : List Action}
    (untouched : ∀ state, ∀ action ∈ actions, part (step state action) = part state)
    (start : State) : part (run step start actions) = part start := by
  induction actions generalizing start with
  | nil => rfl
  | cons action rest ih =>
      rw [run_cons, ih fun state other later => untouched state other (List.mem_cons_of_mem _ later)]
      exact untouched start action List.mem_cons_self

theorem always_iff_reached {property : State → Prop} {start : State} {actions : List Action} :
    Always step property start actions ↔
      ∀ count, property (reached step start actions count) := by
  induction actions generalizing start with
  | nil => simp [Always, reached]
  | cons action rest ih =>
      constructor
      · rintro ⟨here, later⟩ count
        cases count with
        | zero => exact here
        | succ count => exact ih.mp later count
      · intro all
        exact ⟨all 0, ih.mpr fun count => all (count + 1)⟩

/-- A guarded run meets the condition wherever it takes an action. -/
theorem guarded_iff_reached {condition : State → Action → Prop} {start : State}
    {actions : List Action} :
    Guarded step condition start actions ↔ ∀ count action, actions[count]? = some action →
      condition (reached step start actions count) action := by
  induction actions generalizing start with
  | nil => simp [Guarded]
  | cons action rest ih =>
      constructor
      · rintro ⟨here, later⟩ count other found
        cases count with
        | zero =>
            cases found
            exact here
        | succ count => exact ih.mp later count other found
      · intro all
        exact ⟨all 0 action rfl, ih.mpr fun count other found => all (count + 1) other found⟩

theorem Always.last {property : State → Prop} {start : State} {actions : List Action}
    (always : Always step property start actions) : property (run step start actions) := by
  have last := (always_iff_reached step).mp always actions.length
  rwa [reached, List.take_length] at last

theorem Always.mono {first second : State → Prop} {start : State} {actions : List Action}
    (weaker : ∀ state, first state → second state) (always : Always step first start actions) :
    Always step second start actions :=
  (always_iff_reached step).mpr fun count => weaker _ ((always_iff_reached step).mp always count)

theorem Always.and {first second : State → Prop} {start : State} {actions : List Action}
    (left : Always step first start actions) (right : Always step second start actions) :
    Always step (fun state => first state ∧ second state) start actions :=
  (always_iff_reached step).mpr fun count =>
    ⟨(always_iff_reached step).mp left count, (always_iff_reached step).mp right count⟩

theorem always_of_invariant {invariant : State → Prop}
    (preserved : ∀ state action, invariant state → invariant (step state action))
    {start : State} (initial : invariant start) (actions : List Action) :
    Always step invariant start actions :=
  (always_iff_reached step).mpr fun _ => run_invariant step preserved initial _

/-- Where an invariant makes every action meet its condition, a run meets it throughout. -/
theorem guarded_of_invariant {invariant : State → Prop} {condition : State → Action → Prop}
    (preserved : ∀ state action, invariant state → invariant (step state action))
    (meets : ∀ state action, invariant state → condition state action)
    {start : State} (initial : invariant start) (actions : List Action) :
    Guarded step condition start actions := by
  induction actions generalizing start with
  | nil => trivial
  | cons action rest ih => exact ⟨meets start action initial, ih (preserved start action initial)⟩

/-- Where a step keeps the property under its condition, so does a run whose
steps all meet it. -/
theorem always_of_guarded {property : State → Prop} {condition : State → Action → Prop}
    (preserved : ∀ state action, property state → condition state action →
      property (step state action))
    {start : State} (holds : property start) {actions : List Action}
    (guarded : Guarded step condition start actions) : Always step property start actions := by
  induction actions generalizing start with
  | nil => exact holds
  | cons action rest ih =>
      obtain ⟨met, later⟩ := guarded
      exact ⟨holds, ih (preserved start action holds met) later⟩

/-- The same for runs of actions of one kind. -/
theorem always_of_guarded_among {usual : Action → Prop} {invariant : State → Prop}
    {condition : State → Action → Prop}
    (preserved : ∀ state action, usual action → invariant state → condition state action →
      invariant (step state action))
    {start : State} (holds : invariant start) {actions : List Action}
    (among : ∀ action ∈ actions, usual action) (guarded : Guarded step condition start actions) :
    Always step invariant start actions := by
  induction actions generalizing start with
  | nil => exact holds
  | cons action rest ih =>
      obtain ⟨met, later⟩ := guarded
      obtain ⟨here, among⟩ := List.forall_mem_cons.mp among
      exact ⟨holds, ih (preserved start action here holds met) among later⟩

/-- Where the invariant survives the steps that meet the condition, these steps are what the
invariant makes them. -/
theorem guarded_mono_among {usual : Action → Prop} {invariant : State → Prop}
    {condition promised : State → Action → Prop}
    (preserved : ∀ state action, usual action → invariant state → condition state action →
      invariant (step state action))
    (meets : ∀ state action, usual action → invariant state → condition state action →
      promised state action)
    {start : State} (holds : invariant start) {actions : List Action}
    (among : ∀ action ∈ actions, usual action) (guarded : Guarded step condition start actions) :
    Guarded step promised start actions := by
  induction actions generalizing start with
  | nil => trivial
  | cons action rest ih =>
      obtain ⟨met, later⟩ := guarded
      obtain ⟨here, among⟩ := List.forall_mem_cons.mp among
      exact ⟨meets start action here holds met, ih (preserved start action here holds met) among later⟩

/-- Where the invariant survives the steps that meet the condition and no others
keep the property, a run keeps the property throughout exactly when all its
steps meet the condition. -/
theorem always_iff_guarded_among {usual : Action → Prop} {invariant property : State → Prop}
    {condition : State → Action → Prop}
    (preserved : ∀ state action, usual action → invariant state → condition state action →
      invariant (step state action))
    (implies : ∀ state, invariant state → property state)
    (needed : ∀ state action, usual action → invariant state → property (step state action) →
      condition state action)
    {start : State} (holds : invariant start) {actions : List Action}
    (among : ∀ action ∈ actions, usual action) :
    Always step property start actions ↔ Guarded step condition start actions := by
  constructor
  · intro always
    induction actions generalizing start with
    | nil => trivial
    | cons action rest ih =>
        obtain ⟨here, among⟩ := List.forall_mem_cons.mp among
        obtain ⟨-, later⟩ := always
        -- The property of the state after the step, whether or not the run goes on.
        have next : property (step start action) := by
          cases rest with
          | nil => exact later
          | cons _ _ => exact later.1
        have met := needed start action here holds next
        exact ⟨met, ih (preserved start action here holds met) among later⟩
  · intro guarded
    exact (always_of_guarded_among step preserved holds among guarded).mono step implies

/-- The run rule: where a step keeps the property exactly under its condition,
a run keeps it throughout exactly when all its steps meet the condition. The
invariant collects what every step keeps unconditionally. -/
theorem always_iff_guarded {invariant property : State → Prop}
    {condition : State → Action → Prop}
    (preserved : ∀ state action, invariant state → invariant (step state action))
    (exact_step : ∀ state action, invariant state → property state →
      (property (step state action) ↔ condition state action))
    {start : State} (initial : invariant start) (holds : property start) (actions : List Action) :
    Always step property start actions ↔ Guarded step condition start actions := by
  induction actions generalizing start with
  | nil => exact iff_of_true holds trivial
  | cons action rest ih =>
      constructor
      · rintro ⟨-, later⟩
        have next : property (step start action) := by
          cases rest with
          | nil => exact later
          | cons _ _ => exact later.1
        exact ⟨(exact_step start action initial holds).mp next,
          (ih (preserved start action initial) next).mp later⟩
      · rintro ⟨met, later⟩
        have next := (exact_step start action initial holds).mpr met
        exact ⟨holds, (ih (preserved start action initial) next).mpr later⟩

end Runs

/-! A request is one transaction: what it computed is committed, and a request
that failed leaves the state it found. -/

namespace Transaction

variable {State Error Action : Type}

def commit (state : State) : Except Error State → State
  | .ok next => next
  | .error _ => state

/-- The step function of a service whose requests may fail. -/
def requests (service : State → Action → Except Error State) (state : State) (action : Action) :
    State :=
  commit state (service state action)

theorem commit_cases {property : State → Prop} {state : State} {result : Except Error State}
    (unchanged : property state) (changed : ∀ next, result = .ok next → property next) :
    property (commit state result) := by
  cases result with
  | ok next => exact changed next rfl
  | error => exact unchanged

end Transaction
