import SynapseSaas.Foundation.Runs

/-! Procedures over rows: what a request does in its transaction, statement by
statement, with the effects it has on anything else. -/

set_option autoImplicit false

namespace Procedures

/-- What a write makes of the rows it meets; it may be refused. -/
class Writes (Write : Type) (Rows Failure : outParam Type) where
  write : Write → Rows → Except Failure Rows

variable {Rows Write Effect Failure Answer First Second State Item : Type}

/-- A statement reads rows or writes them. -/
inductive Proc (Rows Write Effect Failure Answer : Type) where
  | done (answer : Answer)
  | fail (failure : Failure)
  | select (next : Rows → Proc Rows Write Effect Failure Answer)
  | mutate (write : Write) (next : Proc Rows Write Effect Failure Answer)
  | perform (effect : Effect) (next : Proc Rows Write Effect Failure Answer)

namespace Proc

def bind (proc : Proc Rows Write Effect Failure First)
    (rest : First → Proc Rows Write Effect Failure Second) : Proc Rows Write Effect Failure Second :=
  match proc with
  | .done answer => rest answer
  | .fail failure => .fail failure
  | .select next => .select fun rows => (next rows).bind rest
  | .mutate write next => .mutate write (next.bind rest)
  | .perform effect next => .perform effect (next.bind rest)

instance : Monad (Proc Rows Write Effect Failure) where
  pure := .done
  bind := bind

variable [Writes Write Rows Failure]

/-- The rows a procedure leaves that nothing runs beside; effects are elsewhere. -/
def alone : Proc Rows Write Effect Failure Answer → Rows → Except Failure (Answer × Rows)
  | .done answer, rows => .ok (answer, rows)
  | .fail failure, _ => .error failure
  | .select next, rows => (next rows).alone rows
  | .mutate write next, rows =>
      match Writes.write write rows with
      | .ok after => next.alone after
      | .error failure => .error failure
  | .perform _ next, rows => next.alone rows

/-- Where a procedure alone ends well, it ends as promised. -/
def Ensures (promised : Answer → Rows → Prop) : Proc Rows Write Effect Failure Answer → Rows → Prop
  | .done answer, rows => promised answer rows
  | .fail _, _ => True
  | .select next, rows => Ensures promised (next rows) rows
  | .mutate write next, rows => ∀ after, Writes.write write rows = .ok after → Ensures promised next after
  | .perform _ next, rows => Ensures promised next rows

theorem ensures_iff {promised : Answer → Rows → Prop} {proc : Proc Rows Write Effect Failure Answer}
    {rows : Rows} : proc.Ensures promised rows ↔
      ∀ answer after, proc.alone rows = .ok (answer, after) → promised answer after := by
  induction proc generalizing rows with
  | done answer =>
      constructor
      · rintro kept _ _ same
        cases same
        exact kept
      · exact fun ended => ended answer rows rfl
  | fail failure => exact iff_of_true trivial fun _ _ impossible => by cases impossible
  | select next ih => exact ih rows
  | perform effect next ih => exact ih
  | mutate write next ih =>
      simp only [Ensures, alone]
      cases changed : Writes.write write rows with
      | ok after =>
          constructor
          · exact fun kept => ih.mp (kept after rfl)
          · rintro ended _ same
            cases same
            exact ih.mpr ended
      | error failure =>
          exact iff_of_true (fun _ impossible => by cases impossible)
            fun _ _ impossible => by cases impossible

theorem alone_bind {proc : Proc Rows Write Effect Failure First}
    {rest : First → Proc Rows Write Effect Failure Second} {rows after : Rows} {answer : First}
    (ended : proc.alone rows = .ok (answer, after)) :
    (proc >>= rest).alone rows = (rest answer).alone after := by
  change (proc.bind rest).alone rows = _
  induction proc generalizing rows with
  | done answer =>
      cases ended
      rfl
  | fail failure => cases ended
  | select next ih => exact ih rows ended
  | perform effect next ih => exact ih ended
  | mutate write next ih =>
      simp only [alone, Proc.bind] at ended ⊢
      cases changed : Writes.write write rows with
      | ok middle =>
          rw [changed] at ended
          exact ih ended
      | error failure =>
          rw [changed] at ended
          cases ended

theorem alone_mutate {write : Write} {next : Proc Rows Write Effect Failure Answer}
    {rows after : Rows} (written : Writes.write write rows = .ok after) :
    (Proc.mutate write next).alone rows = next.alone after := by
  simp only [alone, written]

section Rules

variable {promised weaker : Answer → Rows → Prop} {rows : Rows}

theorem Ensures.bind {halfway : First → Rows → Prop} {promised : Second → Rows → Prop}
    {proc : Proc Rows Write Effect Failure First} {rest : First → Proc Rows Write Effect Failure Second}
    (begun : proc.Ensures halfway rows)
    (continued : ∀ answer after, halfway answer after → (rest answer).Ensures promised after) :
    (proc >>= rest).Ensures promised rows := by
  change (proc.bind rest).Ensures promised rows
  induction proc generalizing rows with
  | done answer => exact continued answer rows begun
  | fail failure => trivial
  | select next ih => exact ih rows begun
  | perform effect next ih => exact ih begun
  | mutate write next ih => exact fun after changed => ih (begun after changed)

theorem Ensures.weaken {proc : Proc Rows Write Effect Failure Answer} (ensured : proc.Ensures promised rows)
    (implies : ∀ answer after, promised answer after → weaker answer after) :
    proc.Ensures weaker rows := by
  induction proc generalizing rows with
  | done answer => exact implies _ _ ensured
  | fail failure => trivial
  | select next ih => exact ih rows ensured
  | perform effect next ih => exact ih ensured
  | mutate write next ih => exact fun after changed => ih (ensured after changed)

end Rules

end Proc

/-! Methods keep a state of their own beside the rows, which dies with the request. -/

/-- A procedure with a local state. -/
abbrev Method (State Rows Write Effect Failure : Type) := StateT State (Proc Rows Write Effect Failure)

namespace Method

variable (state : State) (rows : Rows)

def select (read : State → Rows → Answer × State) : Method State Rows Write Effect Failure Answer :=
  fun state => .select fun rows => .done (read state rows)

def mutate (write : Write) : Method State Rows Write Effect Failure Unit :=
  fun state => .mutate write (.done ((), state))

def perform (effect : Effect) : Method State Rows Write Effect Failure Unit :=
  fun state => .perform effect (.done ((), state))

def fail (failure : Failure) : Method State Rows Write Effect Failure Answer :=
  fun _ => .fail failure

variable [Writes Write Rows Failure]

/-- Where the method alone ends well, it ends as promised. -/
def Ensures (promised : Answer → State → Rows → Prop)
    (method : Method State Rows Write Effect Failure Answer) : Prop :=
  (method.run state).Ensures (fun ended after => promised ended.1 ended.2 after) rows

variable {state rows} {promised weaker : Answer → State → Rows → Prop}

theorem Ensures.bind {halfway : First → State → Rows → Prop}
    {promised : Second → State → Rows → Prop} {method : Method State Rows Write Effect Failure First}
    {rest : First → Method State Rows Write Effect Failure Second}
    (begun : Ensures state rows halfway method)
    (continued : ∀ answer after rows, halfway answer after rows →
      Ensures after rows promised (rest answer)) :
    Ensures state rows promised (method >>= rest) :=
  Proc.Ensures.bind begun fun ended after kept => continued ended.1 ended.2 after kept

theorem Ensures.weaken {method : Method State Rows Write Effect Failure Answer}
    (ensured : Ensures state rows promised method)
    (implies : ∀ answer after rows, promised answer after rows → weaker answer after rows) :
    Ensures state rows weaker method :=
  Proc.Ensures.weaken ensured fun ended after kept => implies ended.1 ended.2 after kept

theorem ensures_pure {answer : Answer} (kept : promised answer state rows) :
    Ensures state rows promised (pure answer : Method State Rows Write Effect Failure Answer) :=
  kept

theorem ensures_fail {failure : Failure} :
    Ensures state rows promised (fail failure : Method State Rows Write Effect Failure Answer) :=
  trivial

theorem ensures_select {read : State → Rows → Answer × State}
    (kept : promised (read state rows).1 (read state rows).2 rows) :
    Ensures state rows promised (select read : Method State Rows Write Effect Failure Answer) :=
  kept

theorem ensures_mutate {promised : Unit → State → Rows → Prop} {write : Write}
    (kept : ∀ after, Writes.write write rows = .ok after → promised () state after) :
    Ensures state rows promised (mutate write : Method State Rows Write Effect Failure Unit) :=
  kept

/-- The rule for a loop, with an invariant over the items that are left. -/
theorem Ensures.forM (invariant : List Item → State → Rows → Prop)
    {body : Item → Method State Rows Write Effect Failure PUnit} {items : List Item}
    (one : ∀ item rest state rows, invariant (item :: rest) state rows →
      Ensures state rows (fun _ after rows => invariant rest after rows) (body item))
    (holds : invariant items state rows) :
    Ensures state rows (fun _ after rows => invariant [] after rows) (items.forM body) := by
  induction items generalizing state rows with
  | nil => exact holds
  | cons item rest ih => exact (one item rest state rows holds).bind fun _ _ _ kept => ih kept

/-- The method alone ends well, and as promised. -/
def Achieves (state : State) (rows : Rows) (promised : Answer → State → Rows → Prop)
    (method : Method State Rows Write Effect Failure Answer) : Prop :=
  ∃ ended after, (method.run state).alone rows = .ok (ended, after) ∧
    promised ended.1 ended.2 after

theorem Achieves.bind {halfway : First → State → Rows → Prop}
    {promised : Second → State → Rows → Prop} {method : Method State Rows Write Effect Failure First}
    {rest : First → Method State Rows Write Effect Failure Second}
    (begun : Achieves state rows halfway method)
    (continued : ∀ answer after rows, halfway answer after rows →
      Achieves after rows promised (rest answer)) :
    Achieves state rows promised (method >>= rest) := by
  obtain ⟨ended, between, reached, kept⟩ := begun
  obtain ⟨last, after, finished, holds⟩ := continued ended.1 ended.2 between kept
  exact ⟨last, after, (Proc.alone_bind reached).trans finished, holds⟩

theorem achieves_pure {answer : Answer} (kept : promised answer state rows) :
    Achieves state rows promised (pure answer : Method State Rows Write Effect Failure Answer) :=
  ⟨(answer, state), rows, rfl, kept⟩

theorem achieves_select {read : State → Rows → Answer × State}
    (kept : promised (read state rows).1 (read state rows).2 rows) :
    Achieves state rows promised (select read : Method State Rows Write Effect Failure Answer) :=
  ⟨read state rows, rows, rfl, kept⟩

theorem achieves_mutate {promised : Unit → State → Rows → Prop}
    {write : Write} {after : Rows} (written : Writes.write write rows = .ok after)
    (kept : promised () state after) :
    Achieves state rows promised (mutate write : Method State Rows Write Effect Failure Unit) :=
  ⟨((), state), after, Proc.alone_mutate written, kept⟩

theorem achieves_perform {promised : Unit → State → Rows → Prop} {effect : Effect}
    (kept : promised () state rows) :
    Achieves state rows promised (perform effect : Method State Rows Write Effect Failure Unit) :=
  ⟨((), state), rows, rfl, kept⟩

theorem Achieves.forM (invariant : List Item → State → Rows → Prop)
    {body : Item → Method State Rows Write Effect Failure PUnit} {items : List Item}
    (one : ∀ item rest state rows, invariant (item :: rest) state rows →
      Achieves state rows (fun _ after rows => invariant rest after rows) (body item))
    (holds : invariant items state rows) :
    Achieves state rows (fun _ after rows => invariant [] after rows) (items.forM body) := by
  induction items generalizing state rows with
  | nil => exact ⟨(PUnit.unit, state), rows, rfl, holds⟩
  | cons item rest ih => exact (one item rest state rows holds).bind fun _ _ _ kept => ih kept

end Method

/-! What a procedure has written when it ends, whatever its statements see. -/

section Leaves

variable {seen : Rows → Prop} {allowed : Write → Prop}

/-- Where every statement sees rows of a kind, only allowed writes are made, and in the
end they are as promised. -/
def Proc.Leaves (seen : Rows → Prop) (allowed : Write → Prop)
    (promised : Answer → List Write → Prop) :
    Proc Rows Write Effect Failure Answer → List Write → Prop
  | .done answer, written => promised answer written
  | .fail _, _ => True
  | .select next, written => ∀ rows, seen rows → Leaves seen allowed promised (next rows) written
  | .mutate write next, written =>
      allowed write ∧ Leaves seen allowed promised next (written ++ [write])
  | .perform _ next, written => Leaves seen allowed promised next written

theorem Proc.Leaves.bind {halfway : First → List Write → Prop} {promised : Second → List Write → Prop}
    {proc : Proc Rows Write Effect Failure First}
    {rest : First → Proc Rows Write Effect Failure Second} {written : List Write}
    (begun : proc.Leaves seen allowed halfway written)
    (continued : ∀ answer written, halfway answer written →
      (rest answer).Leaves seen allowed promised written) :
    (proc >>= rest).Leaves seen allowed promised written := by
  change (proc.bind rest).Leaves seen allowed promised written
  induction proc generalizing written with
  | done answer => exact continued answer written begun
  | fail failure => trivial
  | select next ih => exact fun rows kind => ih rows (begun rows kind)
  | perform effect next ih => exact ih begun
  | mutate write next ih => exact ⟨begun.1, ih begun.2⟩

theorem Proc.Leaves.weaken {promised weaker : Answer → List Write → Prop}
    {proc : Proc Rows Write Effect Failure Answer} {written : List Write}
    (leaves : proc.Leaves seen allowed promised written)
    (implies : ∀ answer written, promised answer written → weaker answer written) :
    proc.Leaves seen allowed weaker written := by
  induction proc generalizing written with
  | done answer => exact implies _ _ leaves
  | fail failure => trivial
  | select next ih => exact fun rows kind => ih rows (leaves rows kind)
  | perform effect next ih => exact ih leaves
  | mutate write next ih => exact ⟨leaves.1, ih leaves.2⟩

/-- What every allowed write keeps holds in the end, if it does at first. -/
theorem Proc.Leaves.ensures [Writes Write Rows Failure] {promised : Answer → List Write → Prop}
    {proc : Proc Rows Write Effect Failure Answer} {written : List Write} {rows : Rows}
    (leaves : proc.Leaves seen allowed promised written)
    (one : ∀ write, allowed write → ∀ rows after, seen rows → Writes.write write rows = .ok after →
      seen after)
    (holds : seen rows) :
    proc.Ensures (fun answer after => seen after ∧ ∃ written, promised answer written) rows := by
  induction proc generalizing written rows with
  | done answer => exact ⟨holds, written, leaves⟩
  | fail failure => trivial
  | select next ih => exact ih rows (leaves rows holds) holds
  | perform effect next ih => exact ih leaves holds
  | mutate write next ih =>
      exact fun after wrote => ih leaves.2 (one write leaves.1 rows after holds wrote)

namespace Method

variable (seen allowed) (state : State) (written : List Write)

def Leaves (promised : Answer → State → List Write → Prop)
    (method : Method State Rows Write Effect Failure Answer) : Prop :=
  (method.run state).Leaves seen allowed (fun ended => promised ended.1 ended.2) written

variable {seen allowed state written} {promised weaker : Answer → State → List Write → Prop}

theorem Leaves.bind {halfway : First → State → List Write → Prop}
    {promised : Second → State → List Write → Prop}
    {method : Method State Rows Write Effect Failure First}
    {rest : First → Method State Rows Write Effect Failure Second}
    (begun : Leaves seen allowed state written halfway method)
    (continued : ∀ answer after written, halfway answer after written →
      Leaves seen allowed after written promised (rest answer)) :
    Leaves seen allowed state written promised (method >>= rest) :=
  Proc.Leaves.bind begun fun ended written kept => continued ended.1 ended.2 written kept

theorem Leaves.weaken {method : Method State Rows Write Effect Failure Answer}
    (leaves : Leaves seen allowed state written promised method)
    (implies : ∀ answer after written, promised answer after written → weaker answer after written) :
    Leaves seen allowed state written weaker method :=
  Proc.Leaves.weaken leaves fun ended written kept => implies ended.1 ended.2 written kept

theorem leaves_pure {answer : Answer} (kept : promised answer state written) :
    Leaves seen allowed state written promised
      (pure answer : Method State Rows Write Effect Failure Answer) :=
  kept

theorem leaves_fail {failure : Failure} :
    Leaves seen allowed state written promised
      (fail failure : Method State Rows Write Effect Failure Answer) :=
  trivial

theorem leaves_select {read : State → Rows → Answer × State}
    (kept : ∀ rows, seen rows → promised (read state rows).1 (read state rows).2 written) :
    Leaves seen allowed state written promised
      (select read : Method State Rows Write Effect Failure Answer) :=
  kept

theorem leaves_mutate {promised : Unit → State → List Write → Prop} {write : Write}
    (may : allowed write) (kept : promised () state (written ++ [write])) :
    Leaves seen allowed state written promised
      (mutate write : Method State Rows Write Effect Failure Unit) :=
  ⟨may, kept⟩

theorem Leaves.forM (invariant : State → List Write → Prop)
    {body : Item → Method State Rows Write Effect Failure PUnit} {items : List Item}
    (one : ∀ item ∈ items, ∀ state written, invariant state written →
      Leaves seen allowed state written (fun _ after written => invariant after written) (body item))
    (holds : invariant state written) :
    Leaves seen allowed state written (fun _ after written => invariant after written)
      (items.forM body) := by
  induction items generalizing state written with
  | nil => exact holds
  | cons item rest ih =>
      apply (one item (by simp) state written holds).bind
      intro _ after written kept
      exact ih (fun other member => one other (by simp [member])) kept

end Method

end Leaves

/-- The writes of a transaction, in their order. -/
def writeAll [Writes Write Rows Failure] (written : List Write) (rows : Rows) :
    Except Failure Rows :=
  written.foldlM (fun rows write => Writes.write write rows) rows

end Procedures
