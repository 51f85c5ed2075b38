import SynapseSaas.Foundation.Runs
import Mathlib.Logic.Function.Basic

/-! Transactions of one database under READ COMMITTED.

A statement sees the rows committed when it runs, under the transaction's own
writes. A row once written is locked until its transaction ends, and a write to
a row another transaction has written waits. A transaction may be rolled back at
any point.
-/

set_option autoImplicit false

namespace ReadCommitted

variable {Key : Type} {Row : Key → Type} {Entry Failure Request Answer : Type}

/-- Rows by primary key, and a table that is only ever inserted into. -/
structure Store (Row : Key → Type) (Entry : Type) where
  rows : (key : Key) → Option (Row key)
  log : List Entry

/-- What a transaction has done so far: the rows it wrote, the entries it
inserted, and how long the committed log was at its last query. -/
structure Draft (Row : Key → Type) (Entry : Type) where
  rows : (key : Key) → Option (Row key)
  entries : List Entry
  since : Nat

def Draft.empty : Draft Row Entry := ⟨fun _ => none, [], 0⟩

def Draft.add (draft : Draft Row Entry) (entry : Entry) : Draft Row Entry :=
  { draft with entries := draft.entries ++ [entry] }

def Draft.queried (draft : Draft Row Entry) (since : Nat) : Draft Row Entry :=
  { draft with since := since }

def Draft.put [DecidableEq Key] (draft : Draft Row Entry) (key : Key) (row : Row key) :
    Draft Row Entry :=
  { draft with rows := Function.update draft.rows key (some row) }

/-- A store as the transaction sees it, and as it becomes by its commit. -/
def Store.under (store : Store Row Entry) (draft : Draft Row Entry) : Store Row Entry where
  rows key := draft.rows key <|> store.rows key
  log := store.log ++ draft.entries

section Draft

variable {store : Store Row Entry} {draft : Draft Row Entry} {key : Key}

@[simp] theorem Draft.empty_rows : (Draft.empty : Draft Row Entry).rows key = none := rfl
@[simp] theorem Draft.empty_entries : (Draft.empty : Draft Row Entry).entries = [] := rfl

@[simp] theorem Draft.add_rows (entry : Entry) : (draft.add entry).rows = draft.rows := rfl
@[simp] theorem Draft.add_entries (entry : Entry) :
    (draft.add entry).entries = draft.entries ++ [entry] := rfl
@[simp] theorem Draft.add_since (entry : Entry) : (draft.add entry).since = draft.since := rfl

@[simp] theorem Draft.queried_rows (since : Nat) : (draft.queried since).rows = draft.rows := rfl
@[simp] theorem Draft.queried_entries (since : Nat) :
    (draft.queried since).entries = draft.entries := rfl
@[simp] theorem Draft.queried_since (since : Nat) : (draft.queried since).since = since := rfl

variable [DecidableEq Key]

@[simp] theorem Draft.put_entries (row : Row key) : (draft.put key row).entries = draft.entries := rfl
@[simp] theorem Draft.put_since (row : Row key) : (draft.put key row).since = draft.since := rfl

@[simp] theorem Draft.put_rows_self (row : Row key) : (draft.put key row).rows key = some row :=
  Function.update_self ..

theorem Draft.put_rows_of_ne {other : Key} (row : Row key) (distinct : other ≠ key) :
    (draft.put key row).rows other = draft.rows other :=
  Function.update_of_ne distinct ..

omit [DecidableEq Key]

theorem Store.under_rows_of_some {row : Row key} (written : draft.rows key = some row) :
    (store.under draft).rows key = some row := by
  simp [Store.under, written]

theorem Store.under_rows_of_none (unwritten : draft.rows key = none) :
    (store.under draft).rows key = store.rows key := by
  simp [Store.under, unwritten]

theorem Store.under_rows_eq_some {row : Row key}
    (found : (store.under draft).rows key = some row) :
    draft.rows key = some row ∨ draft.rows key = none ∧ store.rows key = some row := by
  cases written : draft.rows key with
  | some other => exact .inl ((Store.under_rows_of_some written).symm.trans found)
  | none => exact .inr ⟨rfl, (Store.under_rows_of_none written).symm.trans found⟩

theorem Store.under_rows_eq_none (vacant : (store.under draft).rows key = none) :
    draft.rows key = none ∧ store.rows key = none := by
  cases written : draft.rows key with
  | some row => exact absurd ((Store.under_rows_of_some written).symm.trans vacant) (by simp)
  | none => exact ⟨rfl, (Store.under_rows_of_none written).symm.trans vacant⟩

@[simp] theorem Store.under_log : (store.under draft).log = store.log ++ draft.entries := rfl

end Draft

/-- The statements of a transaction and what it does with their results.
`write` stands for `INSERT … ON CONFLICT` and `UPDATE … WHERE`: it maps the row
it finds to the row it leaves, if it writes one, and returns that. -/
inductive Script (Row : Key → Type) (Entry Failure Answer : Type) where
  | done (answer : Answer)
  | fail (failure : Failure)
  | query (next : Store Row Entry → Script Row Entry Failure Answer)
  | write (key : Key) (change : Option (Row key) → Option (Row key))
      (next : Option (Row key) → Script Row Entry Failure Answer)
  | append (entry : Entry) (next : Script Row Entry Failure Answer)

namespace Script

def bind {First Second : Type} (script : Script Row Entry Failure First)
    (rest : First → Script Row Entry Failure Second) : Script Row Entry Failure Second :=
  match script with
  | .done answer => rest answer
  | .fail failure => .fail failure
  | .query next => .query fun store => (next store).bind rest
  | .write key change next => .write key change fun row => (next row).bind rest
  | .append entry next => .append entry (next.bind rest)

instance : Monad (Script Row Entry Failure) where
  pure := .done
  bind := bind

def select {Result : Type} (read : Store Row Entry → Result) : Script Row Entry Failure Result :=
  .query fun store => .done (read store)

def execute (key : Key) (change : Option (Row key) → Option (Row key)) :
    Script Row Entry Failure (Option (Row key)) :=
  .write key change .done

def insert (entry : Entry) : Script Row Entry Failure Unit := .append entry (.done ())

/-- One result for each input, in their order. -/
def each {Input Result : Type} (script : Input → Script Row Entry Failure Result) :
    List Input → Script Row Entry Failure (List Result)
  | [] => pure []
  | input :: rest => do
      let result ← script input
      let results ← each script rest
      return result :: results

/-- Run one statement; `none` where there is none left or it has to wait. -/
def statement [DecidableEq Key] (committed : Store Row Entry) (free : Key → Bool)
    (draft : Draft Row Entry) :
    Script Row Entry Failure Answer →
      Option (Draft Row Entry × Script Row Entry Failure Answer)
  | .done _ | .fail _ => none
  | .query next => some (draft.queried committed.log.length, next (committed.under draft))
  | .write key change next =>
      match change ((committed.under draft).rows key) with
      | none => some (draft, next none)
      | some row => if free key then some (draft.put key row, next (some row)) else none
  | .append entry next => some (draft.add entry, next)

end Script

structure Session (Row : Key → Type) (Entry Failure Request Answer : Type) where
  request : Request
  draft : Draft Row Entry
  script : Script Row Entry Failure Answer

/-- The committed database, the transactions in flight, who holds which row, and
the answers of committed requests. -/
structure System (Row : Key → Type) (Entry Failure Request Answer : Type) where
  committed : Store Row Entry
  sessions : Nat → Option (Session Row Entry Failure Request Answer)
  locks : Key → Option Nat
  history : List (Request × Answer)

inductive Action (Request : Type) where
  | start (id : Nat) (request : Request)
  | advance (id : Nat)
  | commit (id : Nat)
  | rollback (id : Nat)

/-- What a scheduling decision starts, if it starts a request, is of a kind. -/
def Action.Starts (kind : Request → Prop) : Action Request → Prop
  | .start _ request => kind request
  | .advance _ | .commit _ | .rollback _ => True

theorem Action.Starts.imp {kind wider : Request → Prop} {action : Action Request}
    (starts : action.Starts kind) (implies : ∀ request, kind request → wider request) :
    action.Starts wider := by
  cases action with
  | start id request => exact implies request starts
  | advance id => trivial
  | commit id => trivial
  | rollback id => trivial

namespace System

/-- A database no transaction is at work on. -/
def idle (store : Store Row Entry) : System Row Entry Failure Request Answer :=
  ⟨store, fun _ => none, fun _ => none, []⟩

def Quiet (system : System Row Entry Failure Request Answer) : Prop :=
  ∀ id, system.sessions id = none

variable (system : System Row Entry Failure Request Answer)

def free (id : Nat) [DecidableEq Key] (key : Key) : Bool :=
  system.locks key = none ∨ system.locks key = some id

def release (id : Nat) [DecidableEq Key] : System Row Entry Failure Request Answer where
  committed := system.committed
  sessions := Function.update system.sessions id none
  locks key := if system.locks key = some id then none else system.locks key
  history := system.history

def resume (id : Nat) (session : Session Row Entry Failure Request Answer) :
    System Row Entry Failure Request Answer where
  committed := system.committed
  sessions := Function.update system.sessions id (some session)
  locks key := if (session.draft.rows key).isSome then some id else system.locks key
  history := system.history

end System

/-- One scheduling decision. Where it does not apply nothing happens. -/
def step [DecidableEq Key] (program : Request → Script Row Entry Failure Answer)
    (system : System Row Entry Failure Request Answer) :
    Action Request → System Row Entry Failure Request Answer
  | .start id request =>
      match system.sessions id with
      | some _ => system
      | none => system.resume id ⟨request, Draft.empty, program request⟩
  | .advance id =>
      match system.sessions id with
      | none => system
      | some session =>
          match session.script.statement system.committed (system.free id) session.draft with
          -- The statement waits for a lock that another transaction holds.
          | none => system
          | some (draft, script) => system.resume id ⟨session.request, draft, script⟩
  | .commit id =>
      match system.sessions id with
      | none => system
      | some session =>
          match session.script with
          | .done answer =>
              { system.release id with
                committed := system.committed.under session.draft
                history := system.history ++ [(session.request, answer)] }
          | _ => system
  | .rollback id => system.release id

/-- Only a commit changes what is committed, by the draft of its transaction. -/
theorem step_committed [DecidableEq Key] (program : Request → Script Row Entry Failure Answer)
    (system : System Row Entry Failure Request Answer) (action : Action Request) :
    (step program system action).committed = system.committed ∨
      ∃ id session answer, action = .commit id ∧ system.sessions id = some session ∧
        session.script = .done answer ∧
        (step program system action).committed = system.committed.under session.draft := by
  cases action with
  | start id request =>
      simp only [step]
      split <;> exact .inl rfl
  | advance id =>
      simp only [step]
      split
      · exact .inl rfl
      · split <;> exact .inl rfl
  | rollback id => exact .inl rfl
  | commit id =>
      simp only [step]
      split
      · exact .inl rfl
      · next session found =>
          split
          · next answer finished => exact .inr ⟨id, session, answer, rfl, found, finished, rfl⟩
          · exact .inl rfl

/-- A slot nothing is started in stays vacant. -/
theorem run_vacant [DecidableEq Key] {program : Request → Script Row Entry Failure Answer}
    {system : System Row Entry Failure Request Answer} {actions : List (Action Request)} {id : Nat}
    (unstarted : ∀ action ∈ actions, ∀ request, action ≠ .start id request)
    (vacant : system.sessions id = none) :
    (Runs.run (step program) system actions).sessions id = none := by
  induction actions generalizing system with
  | nil => exact vacant
  | cons action rest ih =>
      obtain ⟨here, unstarted⟩ := List.forall_mem_cons.mp unstarted
      apply ih unstarted
      -- A step puts a session, or takes one away, at one identifier only.
      have elsewhere {other : Nat} (session : Option (Session Row Entry Failure Request Answer))
          (apart : id ≠ other) : Function.update system.sessions other session id = none := by
        rw [Function.update_of_ne apart, vacant]
      have gone (other : Nat) : Function.update system.sessions other none id = none := by
        by_cases same : id = other
        · rw [same, Function.update_self]
        · exact elsewhere none same
      cases action with
      | start other request =>
          simp only [step]
          split
          · exact vacant
          · apply elsewhere
            rintro rfl
            exact here request rfl
      | advance other =>
          simp only [step]
          split
          · exact vacant
          · next session found =>
              split
              · exact vacant
              · apply elsewhere
                -- An identifier without a session has nothing to advance.
                rintro rfl
                rw [vacant] at found
                cases found
      | commit other =>
          simp only [step]
          split
          · exact vacant
          · split
            · exact gone other
            · exact vacant
      | rollback other => exact gone other

end ReadCommitted
