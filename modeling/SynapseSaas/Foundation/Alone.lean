import SynapseSaas.Foundation.Completion

/-! A transaction that runs while no other does, from its first statement to its end. -/

set_option autoImplicit false

namespace ReadCommitted

variable {Key : Type} {Row : Key → Type} {Entry Failure Request Answer First Second : Type}

/-- What the types of the columns make of a row or an entry: a failure where they cannot
hold it. -/
structure Columns (Row : Key → Type) (Entry Failure : Type) where
  row : (key : Key) → Row key → Option Failure
  entry : Entry → Option Failure

/-- Columns that hold everything. -/
def Columns.wide : Columns Row Entry Failure := ⟨fun _ _ => none, fun _ => none⟩

namespace Script

variable [DecidableEq Key]

/-- The answer and the draft, or the first failure. -/
def alone (columns : Columns Row Entry Failure) (committed : Store Row Entry) :
    Script Row Entry Failure Answer → Draft Row Entry → Except Failure (Answer × Draft Row Entry)
  | .done answer, draft => .ok (answer, draft)
  | .fail failure, _ => .error failure
  | .query next, draft =>
      (next (committed.under draft)).alone columns committed (draft.queried committed.log.length)
  | .write key change next, draft =>
      -- The row proposed for insertion is formed before it is known to conflict.
      match (change none).bind (columns.row key) with
      | some failure => .error failure
      | none =>
          match change ((committed.under draft).rows key) with
          | none => (next none).alone columns committed draft
          | some row =>
              match columns.row key row with
              | some failure => .error failure
              | none => (next (some row)).alone columns committed (draft.put key row)
  | .append entry next, draft =>
      match columns.entry entry with
      | some failure => .error failure
      | none => next.alone columns committed (draft.add entry)

attribute [local simp] alone

variable {columns : Columns Row Entry Failure} {committed : Store Row Entry}
  {draft : Draft Row Entry}

theorem alone_bind (script : Script Row Entry Failure First)
    (rest : First → Script Row Entry Failure Second) :
    (script >>= rest).alone columns committed draft =
      script.alone columns committed draft >>= fun ended =>
        (rest ended.1).alone columns committed ended.2 := by
  change (script.bind rest).alone columns committed draft = _
  induction script generalizing draft with
  | done answer => rfl
  | fail failure => rfl
  | query next ih => exact ih _
  | write key change next ih =>
      simp only [Script.bind, alone]
      cases (change none).bind (columns.row key) with
      | some failure => rfl
      | none =>
          dsimp only
          cases change ((committed.under draft).rows key) with
          | none => exact ih none
          | some row =>
              dsimp only
              cases columns.row key row with
              | none => exact ih (some row)
              | some failure => rfl
  | append entry next ih =>
      simp only [Script.bind, alone]
      cases columns.entry entry with
      | none => exact ih
      | some failure => rfl

@[simp] theorem alone_pure (answer : Answer) :
    (pure answer : Script Row Entry Failure Answer).alone columns committed draft =
      .ok (answer, draft) := rfl

@[simp] theorem alone_select {Result : Type} (read : Store Row Entry → Result) :
    (select read : Script Row Entry Failure Result).alone columns committed draft =
      .ok (read (committed.under draft), draft.queried committed.log.length) := rfl

section Execute

variable {key : Key} {change : Option (Row key) → Option (Row key)} {row : Row key}
  {failure : Failure}

theorem alone_execute_refused (refused : (change none).bind (columns.row key) = some failure) :
    (execute key change : Script Row Entry Failure (Option (Row key))).alone columns committed draft =
      .error failure := by
  simp [execute, refused]

variable (proposed : (change none).bind (columns.row key) = none)

include proposed

/-- A write that changes nothing. -/
theorem alone_execute_none (unchanged : change ((committed.under draft).rows key) = none) :
    (execute key change : Script Row Entry Failure (Option (Row key))).alone columns committed draft =
      .ok (none, draft) := by
  simp [execute, proposed, unchanged]

theorem alone_execute_some (changed : change ((committed.under draft).rows key) = some row)
    (holds : columns.row key row = none) :
    (execute key change : Script Row Entry Failure (Option (Row key))).alone columns committed draft =
      .ok (some row, draft.put key row) := by
  simp [execute, proposed, changed, holds]

theorem alone_execute_error (changed : change ((committed.under draft).rows key) = some row)
    (refused : columns.row key row = some failure) :
    (execute key change : Script Row Entry Failure (Option (Row key))).alone columns committed draft =
      .error failure := by
  simp [execute, proposed, changed, refused]

end Execute

theorem alone_insert {entry : Entry} (holds : columns.entry entry = none) :
    (insert entry : Script Row Entry Failure Unit).alone columns committed draft =
      .ok ((), draft.add entry) := by
  simp [insert, holds]

theorem alone_insert_error {entry : Entry} {failure : Failure}
    (refused : columns.entry entry = some failure) :
    (insert entry : Script Row Entry Failure Unit).alone columns committed draft =
      .error failure := by
  simp [insert, refused]

/-- What ends well alone completes among transactions that hold none of its rows. -/
theorem completes_of_alone {script : Script Row Entry Failure Answer} {answer : Answer}
    {after : Draft Row Entry} (ended : script.alone .wide committed draft = .ok (answer, after)) :
    Completes committed (fun _ => True) (fun reply last => reply = answer ∧ last = after) script
      draft := by
  induction script generalizing draft with
  | done other =>
      cases ended
      exact ⟨rfl, rfl⟩
  | fail failure => cases ended
  | query next ih => exact ih _ ended
  | write key change next ih =>
      have proposed : (change none).bind ((Columns.wide : Columns Row Entry Failure).row key) = none := by
        simp [Columns.wide]
      simp only [alone, Completes, proposed] at ended ⊢
      cases changed : change ((committed.under draft).rows key) with
      | none =>
          rw [changed] at ended
          exact ih none ended
      | some row =>
          rw [changed] at ended
          exact ⟨trivial, ih (some row) ended⟩
  | append entry next ih => exact ih ended

/-- The rows after a request that runs alone: those of its commit, or of before. -/
def after (columns : Columns Row Entry Failure) (committed : Store Row Entry)
    (script : Script Row Entry Failure Answer) : Store Row Entry :=
  match script.alone columns committed Draft.empty with
  | .ok (_, draft) => committed.under draft
  | .error _ => committed

theorem after_of_ok {script : Script Row Entry Failure Answer} {answer : Answer}
    {ended : Draft Row Entry} (ran : script.alone columns committed Draft.empty = .ok (answer, ended)) :
    after columns committed script = committed.under ended := by
  rw [after, ran]

theorem after_of_error {script : Script Row Entry Failure Answer} {failure : Failure}
    (failed : script.alone columns committed Draft.empty = .error failure) :
    after columns committed script = committed := by
  rw [after, failed]

end Script

end ReadCommitted
