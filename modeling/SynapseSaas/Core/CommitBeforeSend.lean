import SynapseSaas.Foundation.Tasks

/-! Commit before send: the session of a request is closed, and so committed, before the first
byte of its response goes out.

FastAPI closes the dependencies of a request after its response; the middleware closes them when
the response starts. Requests interleave at every point where one awaits. -/

set_option autoImplicit false

namespace SynapseSaas.CommitBeforeSend

open Tasks (Task)

variable {Write : Type}

/-- A response that has started. One of an endpoint that returned stands for what its session
is to have written. -/
structure Started (Write : Type) where
  request : Nat
  status : Nat
  write : Option Write

/-- What the requests share: the commits in their order, those of them whose deferred bumps and
actions have run, and the responses on the wire. -/
structure World (Write : Type) where
  committed : List (Nat × Write)
  flushed : List (Nat × Write)
  wire : List (Started Write)

/-- How an endpoint ends: with a response, or with an exception that a handler renders. -/
inductive Outcome (Write : Type) where
  | response (status : Nat) (write : Write)
  | raised (status : Nat)

/-- A request: what its endpoint makes of the rows it finds, with what it commits by itself on
the way, and in which states the database lets its session commit. -/
structure Request (Write : Type) where
  id : Nat
  endpoint : List (Nat × Write) → Option Write × Outcome Write
  commits : List (Nat × Write) → Bool

section Server

variable (request : Request Write)

/-- `session.commit()`, which may fail. -/
def commit (write : Write) : Task (World Write) Bool :=
  Task.operate fun world =>
    if request.commits world.committed then
      (true, { world with committed := world.committed ++ [(request.id, write)] })
    else (false, world)

/-- The rest of `get_session` after a commit: the deferred bumps and actions, which never raise. -/
def flush (write : Write) : Task (World Write) Unit :=
  Task.operate fun world => ((), { world with flushed := world.flushed ++ [(request.id, write)] })

/-- What closing the dependencies runs after an endpoint that returned; false where it raises. -/
def sessionExit (write : Write) : Task (World Write) Bool := do
  if ← commit request write then
    flush request write
    return true
  else return false

def transmit (status : Nat) (write : Option Write) : Task (World Write) Unit :=
  Task.operate fun world => ((), { world with wire := world.wire ++ [⟨request.id, status, write⟩] })

/-- The endpoint on the rows it finds; where it commits by itself, that may fail too. -/
def endpoint (found : List (Nat × Write)) : Task (World Write) (Outcome Write) :=
  match request.endpoint found with
  | (none, outcome) => return outcome
  | (some write, outcome) => do
      if ← commit request write then return outcome else return .raised 500

/-- The exit stack of a request as the middleware finds it in the scope. -/
structure Stack (Write : Type) where
  inScope : Bool
  closedFlag : Bool
  /-- What is still to be closed. -/
  pending : Option Write

/-- `aclose`, which closes nothing twice. -/
def aclose (stack : Stack Write) : Task (World Write) (Bool × Stack Write) :=
  match stack.pending with
  | none => return (true, stack)
  | some write => do
      let closed ← sessionExit request write
      return (closed, { stack with pending := none })

/-- `send_wrapper` at the start of a response; false where closing the stack raises. -/
def sendStart (stack : Stack Write) (status : Nat) (write : Option Write) :
    Task (World Write) (Bool × Stack Write) :=
  if stack.inScope ∧ ¬ stack.closedFlag then do
    let (closed, stack) ← aclose request { stack with closedFlag := true }
    if closed then
      transmit request status write
      return (true, stack)
    else return (false, stack)
  else do
    transmit request status write
    return (true, stack)

/-- One request through the middleware and FastAPI; `effective` says whether the middleware finds
the stack where it looks for it. -/
def serve (effective : Bool) : Task (World Write) (List (Nat × Write)) := do
  let found ← Task.observe World.committed
  match ← endpoint request found with
  | .raised status =>
      -- The exception has unwound the stack, and the session is rolled back.
      let _ ← sendStart request ⟨effective, false, none⟩ status none
      return found
  | .response status write =>
      let (sent, stack) ← sendStart request ⟨effective, false, some write⟩ status (some write)
      if sent then
        -- FastAPI's own unwinding, after the response.
        let _ ← aclose request stack
        return found
      else
        let _ ← sendStart request stack 500 none
        return found

/-- A commit of another process. -/
def happens (entry : Nat × Write) (world : World Write) : World Write :=
  { world with committed := world.committed ++ [entry] }

end Server

/-! What every operation keeps. -/

/-- A response on the wire that stands for a write comes after its commit and after the bumps
that follow it. -/
structure Ordered (world : World Write) : Prop where
  told : ∀ started ∈ world.wire, ∀ write ∈ started.write,
    (started.request, write) ∈ world.committed ∧ (started.request, write) ∈ world.flushed

structure Grows (before after : World Write) : Prop where
  committed : before.committed <+: after.committed
  flushed : before.flushed <+: after.flushed

theorem Grows.refl (world : World Write) : Grows world world :=
  ⟨List.prefix_refl _, List.prefix_refl _⟩

def discipline (Write : Type) : Tasks.Discipline (World Write) where
  valid := Ordered
  grows := Grows
  refl := Grows.refl
  trans first second :=
    ⟨first.committed.trans second.committed, first.flushed.trans second.flushed⟩

section Safe

variable {request : Request Write} {write : Write} {world : World Write}

/-- The write is durable. -/
def Committed (request : Request Write) (write : Write) (world : World Write) : Prop :=
  (request.id, write) ∈ world.committed

theorem Committed.later {after : World Write} (committed : Committed request write world)
    (later : (discipline Write).Later world after) : Committed request write after :=
  later.grows.committed.subset committed

theorem committing {entry : Nat × Write} (ordered : Ordered world) :
    (discipline Write).Later world { world with committed := world.committed ++ [entry] } where
  valid := ⟨fun started member write here =>
    ⟨List.mem_append_left _ (ordered.told started member write here).1,
      (ordered.told started member write here).2⟩⟩
  grows := ⟨List.prefix_append .., List.prefix_refl _⟩

theorem safe_commit :
    (discipline Write).Safe (fun done later => done = true → Committed request write later)
      (commit request write) world := by
  apply Tasks.Discipline.Safe.operate
  · intro later passed
    split
    · exact committing passed.valid
    · exact .refl passed.valid
  · intro later last _ after
    split at after
    · rename_i accepted
      intro _
      exact after.grows.committed.subset (List.mem_append_right _ List.mem_cons_self)
    · rename_i refused
      rw [if_neg refused]
      exact fun done => absurd done Bool.false_ne_true

/-- The write is durable, and what follows its commit has run. -/
structure Settled (request : Request Write) (write : Write) (world : World Write) : Prop where
  committed : (request.id, write) ∈ world.committed
  flushed : (request.id, write) ∈ world.flushed

theorem Settled.later {after : World Write} (settled : Settled request write world)
    (later : (discipline Write).Later world after) : Settled request write after :=
  ⟨later.grows.committed.subset settled.committed, later.grows.flushed.subset settled.flushed⟩

theorem safe_flush (committed : Committed request write world) :
    (discipline Write).Safe (fun _ later => Settled request write later)
      (flush request write) world := by
  apply Tasks.Discipline.Safe.operate
  · intro later passed
    refine ⟨⟨fun started member other here => ?_⟩, List.prefix_refl _, List.prefix_append ..⟩
    exact ⟨(passed.valid.told started member other here).1,
      List.mem_append_left _ (passed.valid.told started member other here).2⟩
  · intro later last passed after
    have here : (request.id, write) ∈ later.committed := Committed.later committed passed
    exact ⟨after.grows.committed.subset here,
      after.grows.flushed.subset (List.mem_append_right _ List.mem_cons_self)⟩

theorem safe_sessionExit (ordered : Ordered world) :
    (discipline Write).Safe (fun closed later => closed = true → Settled request write later)
      (sessionExit request write) world := by
  refine Tasks.Discipline.Safe.bind (.refl ordered) safe_commit fun done later passed committed => ?_
  cases done with
  | false => exact fun _ _ closed => absurd closed Bool.false_ne_true
  | true =>
      refine Tasks.Discipline.Safe.bind (.refl passed.valid) (safe_flush (committed rfl))
        fun _ last _ settled => ?_
      exact fun end_ after _ => settled.later after

/-- A response may start once what it stands for is settled. -/
theorem safe_transmit {status : Nat} {told : Option Write}
    (settled : ∀ write ∈ told, Settled request write world) :
    (discipline Write).Safe (fun _ _ => True) (transmit request status told) world := by
  apply Tasks.Discipline.Safe.operate
  · intro later passed
    refine ⟨⟨fun started member other here => ?_⟩, List.prefix_refl _, List.prefix_refl _⟩
    rcases List.mem_append.mp member with old | new
    · exact passed.valid.told started old other here
    · rw [List.mem_singleton.mp new] at here ⊢
      have done := (settled other here).later passed
      exact ⟨done.committed, done.flushed⟩
  · exact fun _ _ _ _ => trivial

theorem safe_aclose (ordered : Ordered world) (stack : Stack Write) :
    (discipline Write).Safe (fun result later => result.2 = { stack with pending := none } ∧
        (result.1 = true → ∀ write ∈ stack.pending, Settled request write later))
      (aclose request stack) world := by
  obtain ⟨inScope, closedFlag, pending⟩ := stack
  cases pending with
  | none => exact fun later _ => ⟨rfl, fun _ write none => absurd none (Option.not_mem_none write)⟩
  | some write =>
      refine Tasks.Discipline.Safe.bind (.refl ordered) (safe_sessionExit ordered)
        fun closed later passed settled => ?_
      intro last after
      refine ⟨rfl, fun done other here => ?_⟩
      rw [← Option.mem_some_iff.mp here]
      exact (settled done).later after

/-- A response starts either with the stack still to be closed and for what closing it commits,
or for nothing. -/
theorem safe_sendStart (ordered : Ordered world) {stack : Stack Write} {status : Nat}
    {told : Option Write}
    (guarded : told = none ∨ stack.inScope = true ∧ stack.closedFlag = false ∧ told = stack.pending) :
    (discipline Write).Safe (fun _ _ => True) (sendStart request stack status told) world := by
  unfold sendStart
  split
  · refine Tasks.Discipline.Safe.bind (.refl ordered)
      (safe_aclose ordered { stack with closedFlag := true }) fun result later passed closed => ?_
    obtain ⟨done, stack⟩ := result
    cases done with
    | false => exact fun _ _ => trivial
    | true =>
        refine Tasks.Discipline.Safe.bind (.refl passed.valid) (safe_transmit ?_)
          fun _ _ _ _ _ _ => trivial
        intro write here
        rcases guarded with nothing | ⟨-, -, same⟩
        · rw [nothing] at here
          cases here
        · exact closed.2 rfl write (same ▸ here)
  · rename_i outside
    refine Tasks.Discipline.Safe.bind (.refl ordered) (safe_transmit ?_) fun _ _ _ _ _ _ => trivial
    intro write here
    rcases guarded with nothing | ⟨inside, unmarked, -⟩
    · rw [nothing] at here
      cases here
    · exact absurd ⟨inside, by simp [unmarked]⟩ outside

theorem safe_endpoint (ordered : Ordered world) (found : List (Nat × Write)) :
    (discipline Write).Safe (fun _ _ => True) (endpoint request found) world := by
  unfold endpoint
  split
  · exact fun _ _ => trivial
  · refine Tasks.Discipline.Safe.bind (.refl ordered) safe_commit fun done later passed _ => ?_
    cases done <;> exact fun _ _ => trivial

/-- What a request finds includes every write that a response on the wire stood for when it
arrived. -/
def FindsTold (origin : World Write) (found : List (Nat × Write)) : Prop :=
  ∀ started ∈ origin.wire, ∀ write ∈ started.write, (started.request, write) ∈ found

theorem safe_serve (ordered : Ordered world) :
    (discipline Write).Safe (fun found _ => FindsTold world found) (serve request true) world := by
  have reads : (discipline Write).Safe (fun found _ => FindsTold world found)
      (Task.observe World.committed) world := by
    apply Tasks.Discipline.Safe.operate
    · exact fun later passed => .refl passed.valid
    · intro later _ passed _ started member write here
      exact passed.grows.committed.subset (ordered.told started member write here).1
  refine Tasks.Discipline.Safe.bind (.refl ordered) reads fun found later passed told => ?_
  refine Tasks.Discipline.Safe.bind (.refl passed.valid) (safe_endpoint passed.valid found)
    fun outcome halfway begun _ => ?_
  cases outcome with
  | raised status =>
      exact Tasks.Discipline.Safe.bind (.refl begun.valid)
        (safe_sendStart begun.valid (.inl rfl)) fun _ _ _ _ _ _ => told
  | response status write =>
      refine Tasks.Discipline.Safe.bind (.refl begun.valid)
        (safe_sendStart begun.valid (.inr ⟨rfl, rfl, rfl⟩)) fun result last ended _ => ?_
      obtain ⟨sent, stack⟩ := result
      cases sent with
      | true =>
          exact Tasks.Discipline.Safe.bind (.refl ended.valid) (safe_aclose ended.valid stack)
            fun _ _ _ _ _ _ => told
      | false =>
          exact Tasks.Discipline.Safe.bind (.refl ended.valid)
            (safe_sendStart ended.valid (.inl rfl)) fun _ _ _ _ _ _ => told

end Safe

/-- Whatever requests run beside each other, and whatever other processes commit: a response on
the wire that stands for a write comes after its commit and the bumps that follow it, and a
request finds every write that a response on the wire stood for when it arrived. -/
theorem responses_follow_commits (actions : List (Tasks.Action (Request Write) (Nat × Write))) :
    Runs.Always (Tasks.step (fun request => serve request true) happens)
      (fun system => Ordered system.shared ∧ ∀ running ∈ system.running, ∀ found,
        running.task = .done found → FindsTold running.origin found)
      ⟨⟨[], [], []⟩, []⟩ actions := by
  have follows : Tasks.Follows (discipline Write) (fun request => serve request true) happens
      fun _ origin found _ => FindsTold origin found :=
    ⟨fun _ _ ordered => safe_serve ordered, fun _ _ ordered => committing ordered⟩
  have opening : (discipline Write).valid ⟨[], [], []⟩ :=
    ⟨fun _ member => absurd member List.not_mem_nil⟩
  have always := Tasks.always_sound follows opening actions
  exact always.mono _ fun system sound =>
    ⟨sound.valid, fun running member found ended => sound.told member ended⟩

/-- Where the middleware does not find the stack, the response is out before the commit. -/
example :
    let register : Request String := ⟨1, fun _ => (none, .response 201 "ada"), fun _ => true⟩
    let system := Runs.run (Tasks.step (fun request => serve request false) happens) ⟨⟨[], [], []⟩, []⟩
      [.start register, .advance 0, .advance 0]
    system.shared.wire.map (·.status) = [201] ∧ system.shared.committed = [] := ⟨rfl, rfl⟩

end SynapseSaas.CommitBeforeSend
