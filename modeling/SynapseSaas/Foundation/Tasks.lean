import SynapseSaas.Foundation.Runs

/-! Tasks that run beside each other over a shared state, one atomic operation
at a time, and the rule by which what every operation keeps holds in every
interleaving. -/

set_option autoImplicit false

namespace Tasks

variable {State Request Event Answer First Second : Type}

/-- A task has ended, or performs an atomic operation and goes on with what it
found in the shared state. -/
inductive Task (State Answer : Type) where
  | done (answer : Answer)
  | atomic (effect : State → State) (next : State → Task State Answer)

namespace Task

def bind : Task State First → (First → Task State Second) → Task State Second
  | .done answer, rest => rest answer
  | .atomic effect next, rest => .atomic effect fun state => (next state).bind rest

instance : Monad (Task State) where
  pure := .done
  bind := bind

/-- One atomic operation, with its answer. -/
def operate (operation : State → Answer × State) : Task State Answer :=
  .atomic (fun state => (operation state).2) fun state => .done (operation state).1

def observe (view : State → Answer) : Task State Answer := operate fun state => (view state, state)

/-- The task alone, with nothing between its operations. -/
def run : Task State Answer → State → Answer × State
  | .done answer, state => (answer, state)
  | .atomic effect next, state => (next state).run (effect state)

@[simp] theorem run_pure (answer : Answer) (state : State) :
    (pure answer : Task State Answer).run state = (answer, state) := rfl

@[simp] theorem run_operate (operation : State → Answer × State) (state : State) :
    (operate operation).run state = operation state := rfl

@[simp] theorem run_bind (task : Task State First) (rest : First → Task State Second)
    (state : State) :
    (task >>= rest).run state = (rest (task.run state).1).run (task.run state).2 := by
  change (task.bind rest).run state = _
  induction task generalizing state with
  | done answer => rfl
  | atomic effect next ih => exact ih state (effect state)

end Task

/-! The tasks of a system start at any time, from the state they find. -/

structure Running (Request State Answer : Type) where
  request : Request
  origin : State
  task : Task State Answer

structure System (Request State Answer : Type) where
  shared : State
  running : List (Running Request State Answer)

inductive Action (Request Event : Type) where
  | start (request : Request)
  | advance (index : Nat)
  | happen (event : Event)

section Step

variable (serve : Request → Task State Answer) (happens : Event → State → State)

/-- One step: a task starts, a task performs its next operation, or the shared
state changes by itself. -/
def step (system : System Request State Answer) : Action Request Event → System Request State Answer
  | .start request =>
      { system with running := system.running ++ [⟨request, system.shared, serve request⟩] }
  | .advance index =>
      match system.running[index]? with
      | some ⟨request, origin, .atomic effect next⟩ =>
          { shared := effect system.shared
            running := system.running.set index ⟨request, origin, next system.shared⟩ }
      | _ => system
  | .happen event => { system with shared := happens event system.shared }

variable {serve : Request → Task State Answer} {happens : Event → State → State}

def Action.request? : Action Request Event → Option Request
  | .start request => some request
  | .advance _ => none
  | .happen _ => none

/-- The tasks of a run are those of the requests that started, in their order. -/
theorem step_requests (system : System Request State Answer) (action : Action Request Event) :
    (step serve happens system action).running.map (·.request) =
      system.running.map (·.request) ++ action.request?.toList := by
  cases action with
  | start request => exact List.map_append
  | happen event => exact (List.append_nil _).symm
  | advance index =>
      rw [Action.request?, Option.toList_none, List.append_nil]
      cases found : system.running[index]? with
      | none => simp only [step, found]
      | some running =>
          obtain ⟨request, origin, task⟩ := running
          cases task with
          | done answer => simp only [step, found]
          | atomic effect next =>
              obtain ⟨inside, here⟩ := List.getElem?_eq_some_iff.mp found
              have mapped : index < (system.running.map (·.request)).length := by simpa using inside
              have same : (system.running.map (·.request))[index] = request := by
                rw [List.getElem_map, here]
              simp only [step, found]
              rw [List.map_set, ← same, List.set_getElem_self]

theorem run_requests (system : System Request State Answer)
    (actions : List (Action Request Event)) :
    (Runs.run (step serve happens) system actions).running.map (·.request) =
      system.running.map (·.request) ++ actions.filterMap Action.request? := by
  induction actions generalizing system with
  | nil => exact (List.append_nil _).symm
  | cons action rest ih =>
      rw [Runs.run_cons, ih, step_requests, List.filterMap_cons]
      cases action.request? <;> simp

end Step

/-- What shared states satisfy, and how one becomes a later one. -/
structure Discipline (State : Type) where
  valid : State → Prop
  grows : State → State → Prop
  refl : ∀ state, grows state state
  trans : ∀ {first second third}, grows first second → grows second third → grows first third

namespace Discipline

variable (discipline : Discipline State)

structure Later (before after : State) : Prop where
  valid : discipline.valid after
  grows : discipline.grows before after

variable {discipline}

theorem Later.refl {state : State} (valid : discipline.valid state) :
    discipline.Later state state :=
  ⟨valid, discipline.refl state⟩

theorem Later.trans {before after last : State} (first : discipline.Later before after)
    (second : discipline.Later after last) : discipline.Later before last :=
  ⟨second.valid, discipline.trans first.grows second.grows⟩

variable (discipline)

/-- Whatever the others do between its operations, the task keeps the
discipline and ends with an answer as promised. -/
def Safe (promised : Answer → State → Prop) : Task State Answer → State → Prop
  | .done answer, state => ∀ later, discipline.Later state later → promised answer later
  | .atomic effect next, state => ∀ later, discipline.Later state later →
      discipline.Later later (effect later) ∧ Safe promised (next later) (effect later)

variable {discipline} {promised weaker : Answer → State → Prop} {task : Task State Answer}
  {state : State}

theorem Safe.later {after : State} (safe : discipline.Safe promised task state)
    (passed : discipline.Later state after) : discipline.Safe promised task after := by
  cases task with
  | done answer => exact fun last after => safe last (passed.trans after)
  | atomic effect next => exact fun last after => safe last (passed.trans after)

/-- The rule for a sequence: what follows is safe from every later state in which
the first part may have ended. -/
theorem Safe.bind {halfway : First → State → Prop} {promised : Second → State → Prop}
    {task : Task State First} {rest : First → Task State Second} {start : State}
    (begun : discipline.Later start state) (safe : discipline.Safe halfway task state)
    (continued : ∀ answer later, discipline.Later start later → halfway answer later →
      discipline.Safe promised (rest answer) later) :
    discipline.Safe promised (task >>= rest) state := by
  change discipline.Safe promised (task.bind rest) state
  induction task generalizing state with
  | done answer => exact continued answer state begun (safe state (.refl begun.valid))
  | atomic effect next ih =>
      intro later passed
      obtain ⟨changed, here⟩ := safe later passed
      have reached := (begun.trans passed).trans changed
      exact ⟨changed, ih later reached here⟩

theorem Safe.weaken {start : State} (begun : discipline.Later start state)
    (safe : discipline.Safe promised task state)
    (implies : ∀ answer later, discipline.Later start later → promised answer later →
      weaker answer later) : discipline.Safe weaker task state := by
  induction task generalizing state with
  | done answer =>
      intro later passed
      exact implies answer later (begun.trans passed) (safe later passed)
  | atomic effect next ih =>
      intro later passed
      obtain ⟨changed, here⟩ := safe later passed
      exact ⟨changed, ih later ((begun.trans passed).trans changed) here⟩

theorem Safe.pure {answer : Answer}
    (ended : ∀ later, discipline.Later state later → promised answer later) :
    discipline.Safe promised (Pure.pure answer) state :=
  ended

/-- The rule for one operation. -/
theorem Safe.operate {operation : State → Answer × State}
    (kept : ∀ later, discipline.Later state later → discipline.Later later (operation later).2)
    (answered : ∀ later last, discipline.Later state later →
      discipline.Later (operation later).2 last → promised (operation later).1 last) :
    discipline.Safe promised (Task.operate operation) state := by
  intro later passed
  exact ⟨kept later passed, fun last after => answered later last passed after⟩

end Discipline

section Soundness

variable (discipline : Discipline State) (serve : Request → Task State Answer)
  (happens : Event → State → State) (promised : Request → State → Answer → State → Prop)

/-- The tasks of the requests, and what happens by itself, follow the discipline. -/
structure Follows : Prop where
  served : ∀ request origin, discipline.valid origin →
    discipline.Safe (promised request origin) (serve request) origin
  happened : ∀ event state, discipline.valid state →
    discipline.Later state (happens event state)

structure Sound (system : System Request State Answer) : Prop where
  valid : discipline.valid system.shared
  safe : ∀ running ∈ system.running,
    discipline.Safe (promised running.request running.origin) running.task system.shared

variable {discipline serve happens promised}

theorem Sound.told {system : System Request State Answer}
    (sound : Sound discipline promised system) {running : Running Request State Answer}
    (member : running ∈ system.running) {answer : Answer} (ended : running.task = .done answer) :
    promised running.request running.origin answer system.shared := by
  have safe := sound.safe running member
  rw [ended] at safe
  exact safe system.shared (.refl sound.valid)

theorem Sound.step (follows : Follows discipline serve happens promised)
    {system : System Request State Answer} (sound : Sound discipline promised system)
    (action : Action Request Event) :
    Sound discipline promised (step serve happens system action) := by
  have shared := sound.valid
  cases action with
  | start request =>
      refine ⟨shared, ?_⟩
      intro running member
      rcases List.mem_append.mp member with old | new
      · exact sound.safe running old
      · rw [List.mem_singleton.mp new]
        exact follows.served request system.shared shared
  | happen event =>
      have later := follows.happened event system.shared shared
      exact ⟨later.valid, fun running member => (sound.safe running member).later later⟩
  | advance index =>
      cases found : system.running[index]? with
      | none => simpa only [Tasks.step, found] using sound
      | some running =>
          obtain ⟨request, origin, task⟩ := running
          cases task with
          | done answer => simpa only [Tasks.step, found] using sound
          | atomic effect next =>
              -- The task that moves was safe for any later state, this one included; the
              -- others see its operation as interference.
              have member := List.mem_of_getElem? found
              obtain ⟨later, safe⟩ := sound.safe _ member system.shared (.refl shared)
              simp only [Tasks.step, found]
              refine ⟨later.valid, ?_⟩
              intro running member
              rcases List.mem_or_eq_of_mem_set member with old | new
              · exact (sound.safe running old).later later
              · rw [new]
                exact safe

/-- In every interleaving, from a valid state in which nothing runs yet, every
ended task has given an answer as promised. -/
theorem always_sound (follows : Follows discipline serve happens promised) {start : State}
    (valid : discipline.valid start) (actions : List (Action Request Event)) :
    Runs.Always (step serve happens) (Sound discipline promised) ⟨start, []⟩ actions :=
  Runs.always_of_invariant _ (fun _ action sound => sound.step follows action)
    ⟨valid, fun _ member => absurd member List.not_mem_nil⟩ actions

end Soundness

end Tasks
