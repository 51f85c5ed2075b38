import SynapseSaas.Foundation.ReadCommitted

/-! A transaction that meets no lock runs to its end and commits. -/

set_option autoImplicit false

namespace ReadCommitted

variable {Key : Type} {Row : Key → Type} {Entry Failure Request Answer First Second : Type}
  [DecidableEq Key]

/-- With the committed rows standing still, the script ends with an answer and a
draft as described, and writes only rows that are `free`. -/
def Completes (committed : Store Row Entry) (free : Key → Prop)
    (reaches : Answer → Draft Row Entry → Prop) :
    Script Row Entry Failure Answer → Draft Row Entry → Prop
  | .done answer, draft => reaches answer draft
  | .fail _, _ => False
  | .query next, draft => Completes committed free reaches (next (committed.under draft))
      (draft.queried committed.log.length)
  | .write key change next, draft =>
      match change ((committed.under draft).rows key) with
      | none => Completes committed free reaches (next none) draft
      | some row => free key ∧ Completes committed free reaches (next (some row)) (draft.put key row)
  | .append entry next, draft => Completes committed free reaches next (draft.add entry)

section Rules

variable {committed : Store Row Entry} {free : Key → Prop} {draft : Draft Row Entry}

theorem Completes.bind
    {halfway : First → Draft Row Entry → Prop} {reaches : Second → Draft Row Entry → Prop}
    {script : Script Row Entry Failure First} {rest : First → Script Row Entry Failure Second}
    (first : Completes committed free halfway script draft)
    (continued : ∀ answer draft, halfway answer draft →
      Completes committed free reaches (rest answer) draft) :
    Completes committed free reaches (script >>= rest) draft := by
  change Completes committed free reaches (script.bind rest) draft
  induction script generalizing draft with
  | done answer => exact continued answer draft first
  | fail failure => exact first.elim
  | query next ih => exact ih _ first
  | write key change next ih =>
      simp only [Completes, Script.bind] at first ⊢
      cases found : change ((committed.under draft).rows key) with
      | none =>
          rw [found] at first
          exact ih none first
      | some row =>
          rw [found] at first
          exact ⟨first.1, ih (some row) first.2⟩
  | append entry next ih => exact ih first

/-- A sequence that completes has completed its first part. -/
theorem Completes.of_bind {reaches : Second → Draft Row Entry → Prop}
    {script : Script Row Entry Failure First} {rest : First → Script Row Entry Failure Second}
    (completes : Completes committed free reaches (script >>= rest) draft) :
    Completes committed free
      (fun answer draft => Completes committed free reaches (rest answer) draft) script draft := by
  change Completes committed free reaches (script.bind rest) draft at completes
  induction script generalizing draft with
  | done answer => exact completes
  | fail failure => exact completes.elim
  | query next ih => exact ih _ completes
  | write key change next ih =>
      simp only [Completes, Script.bind] at completes ⊢
      cases found : change ((committed.under draft).rows key) with
      | none =>
          rw [found] at completes
          exact ih none completes
      | some row =>
          rw [found] at completes
          exact ⟨completes.1, ih (some row) completes.2⟩
  | append entry next ih => exact ih completes

/-- What completes has an answer. -/
theorem Completes.reached {reaches : Answer → Draft Row Entry → Prop}
    {script : Script Row Entry Failure Answer}
    (completes : Completes committed free reaches script draft) :
    ∃ answer draft, reaches answer draft := by
  induction script generalizing draft with
  | done answer => exact ⟨answer, draft, completes⟩
  | fail failure => exact completes.elim
  | query next ih => exact ih _ completes
  | write key change next ih =>
      simp only [Completes] at completes
      cases found : change ((committed.under draft).rows key) with
      | none =>
          rw [found] at completes
          exact ih none completes
      | some row =>
          rw [found] at completes
          exact ih (some row) completes.2
  | append entry next ih => exact ih completes

theorem Completes.execute {key : Key} {change : Option (Row key) → Option (Row key)}
    {reaches : Option (Row key) → Draft Row Entry → Prop} (available : free key)
    (unchanged : change ((committed.under draft).rows key) = none → reaches none draft)
    (written : ∀ row, change ((committed.under draft).rows key) = some row →
      reaches (some row) (draft.put key row)) :
    Completes committed free reaches
      (Script.execute key change : Script Row Entry Failure (Option (Row key))) draft := by
  simp only [Script.execute, Completes]
  cases found : change ((committed.under draft).rows key) with
  | none => exact unchanged found
  | some row => exact ⟨available, written row found⟩

end Rules

/-- No transaction in flight has written the row. -/
def System.Unheld (system : System Row Entry Failure Request Answer) (key : Key) : Prop :=
  ∀ id session, system.sessions id = some session → session.draft.rows key = none

/-- Who holds a lock is in flight and has written the row. -/
def System.LocksHeld (system : System Row Entry Failure Request Answer) : Prop :=
  ∀ key id, system.locks key = some id →
    ∃ session row, system.sessions id = some session ∧ session.draft.rows key = some row

namespace System

variable {system : System Row Entry Failure Request Answer}

omit [DecidableEq Key] in
theorem LocksHeld.unlocked (held : system.LocksHeld) {key : Key} (unheld : system.Unheld key) :
    system.locks key = none := by
  cases taken : system.locks key with
  | none => rfl
  | some id =>
      obtain ⟨session, row, here, written⟩ := held key id taken
      rw [unheld id session here] at written
      cases written

omit [DecidableEq Key] in
theorem LocksHeld.resume (held : system.LocksHeld) {id : Nat}
    {session : Session Row Entry Failure Request Answer}
    (kept : ∀ before key row, system.sessions id = some before →
      before.draft.rows key = some row → ∃ row, session.draft.rows key = some row) :
    (system.resume id session).LocksHeld := by
  intro key other taken
  simp only [System.resume] at taken ⊢
  by_cases same : other = id
  · subst same
    refine ⟨session, ?_⟩
    -- A lock taken by this statement shows in the draft; an older one was there before.
    cases written : session.draft.rows key with
    | some row => exact ⟨row, Function.update_self .., rfl⟩
    | none =>
        rw [written] at taken
        obtain ⟨before, row, here, mine⟩ := held key other (by simpa using taken)
        obtain ⟨row, still⟩ := kept before key row here mine
        rw [still] at written
        cases written
  · split at taken
    · exact absurd (Option.some.inj taken).symm same
    · obtain ⟨found, row, here, mine⟩ := held key other taken
      exact ⟨found, row, by rw [Function.update_of_ne same]; exact here, mine⟩

theorem LocksHeld.release (held : system.LocksHeld) (id : Nat) : (system.release id).LocksHeld := by
  intro key other taken
  simp only [System.release] at taken ⊢
  split at taken
  · cases taken
  · next free =>
      obtain ⟨found, row, here, mine⟩ := held key other taken
      have apart : other ≠ id := by
        rintro rfl
        exact free taken
      exact ⟨found, row, by rw [Function.update_of_ne apart]; exact here, mine⟩

end System

/-- A statement takes nothing back that the draft has. -/
theorem Script.statement_keeps {script rest : Script Row Entry Failure Answer}
    {committed : Store Row Entry} {free : Key → Bool} {draft next : Draft Row Entry}
    (ran : script.statement committed free draft = some (next, rest)) {key : Key} {row : Row key}
    (written : draft.rows key = some row) : ∃ row, next.rows key = some row := by
  cases script with
  | done answer => cases ran
  | fail failure => cases ran
  | query _ =>
      cases ran
      exact ⟨row, written⟩
  | append entry rest =>
      cases ran
      exact ⟨row, written⟩
  | write other change resumed =>
      simp only [Script.statement] at ran
      split at ran
      · cases ran
        exact ⟨row, written⟩
      · split at ran
        · cases ran
          -- A second write to a row replaces the first, so the row stays written.
          by_cases same : key = other
          · subst same
            exact ⟨_, Draft.put_rows_self _⟩
          · rw [Draft.put_rows_of_ne _ same]
            exact ⟨row, written⟩
        · cases ran

variable {program : Request → Script Row Entry Failure Answer}
  {system : System Row Entry Failure Request Answer}

/-- Locks are given back with the transaction that took them. -/
theorem System.LocksHeld.step (held : system.LocksHeld) (action : Action Request) :
    (step program system action).LocksHeld := by
  cases action with
  | start id request =>
      simp only [ReadCommitted.step]
      split
      · exact held
      · next vacant =>
          apply held.resume
          intro before key row here
          rw [vacant] at here
          cases here
  | advance id =>
      simp only [ReadCommitted.step]
      split
      · exact held
      · next session here =>
          split
          · exact held
          · next draft script ran =>
              apply held.resume
              intro before key row found written
              rw [here] at found
              cases found
              exact Script.statement_keeps ran written
  | commit id =>
      simp only [ReadCommitted.step]
      split
      · exact held
      · split
        · exact held.release id
        · exact held
  | rollback id => exact held.release id

/-- Advanced often enough, and nothing else moving, the transaction is ready to
commit an answer and a draft as described. -/
def Finishes (program : Request → Script Row Entry Failure Answer) (id : Nat) (request : Request)
    (reaches : Answer → Draft Row Entry → Prop)
    (system : System Row Entry Failure Request Answer) : Prop :=
  ∃ count answer final, reaches answer final ∧
    (Runs.run (step program) system (List.replicate count (.advance id))).sessions id =
      some ⟨request, final, .done answer⟩ ∧
    (Runs.run (step program) system (List.replicate count (.advance id))).committed =
      system.committed ∧
    (Runs.run (step program) system (List.replicate count (.advance id))).history = system.history

/-- None of the rows is locked by another transaction. -/
def System.Available (system : System Row Entry Failure Request Answer) (id : Nat)
    (free : Key → Prop) : Prop :=
  ∀ key, free key → system.free id key = true

theorem System.Available.resume {id : Nat} {free : Key → Prop}
    (available : system.Available id free) (session : Session Row Entry Failure Request Answer) :
    (system.resume id session).Available id free := by
  intro key here
  have before := available key here
  simp only [System.free, System.resume] at before ⊢
  split
  · simp
  · exact before

theorem Finishes.statement {reaches : Answer → Draft Row Entry → Prop} {id : Nat}
    {request : Request} {script rest : Script Row Entry Failure Answer}
    {draft next : Draft Row Entry} (here : system.sessions id = some ⟨request, draft, script⟩)
    (ran : script.statement system.committed (system.free id) draft = some (next, rest))
    (finishes : Finishes program id request reaches (system.resume id ⟨request, next, rest⟩)) :
    Finishes program id request reaches system := by
  have stepped : step program system (.advance id) = system.resume id ⟨request, next, rest⟩ := by
    simp only [step, here, ran]
  obtain ⟨count, answer, final, reached, at_end, same, told⟩ := finishes
  refine ⟨count + 1, answer, final, reached, ?_⟩
  rw [List.replicate_succ, Runs.run_cons, stepped]
  exact ⟨at_end, same, told⟩

/-- Advancing alone: by induction on the script, statement after statement finds
its row free. -/
theorem Completes.finishes {reaches : Answer → Draft Row Entry → Prop}
    {script : Script Row Entry Failure Answer} {draft : Draft Row Entry} {id : Nat}
    {request : Request} {free : Key → Prop}
    (completes : Completes system.committed free reaches script draft)
    (here : system.sessions id = some ⟨request, draft, script⟩)
    (available : system.Available id free) :
    Finishes program id request reaches system := by
  induction script generalizing system draft with
  | done answer => exact ⟨0, answer, draft, completes, here, rfl, rfl⟩
  | fail failure => exact completes.elim
  | query continued ih =>
      apply Finishes.statement here rfl
      apply ih
      · exact completes
      · exact Function.update_self ..
      · exact available.resume _
  | write key change continued ih =>
      -- A write that changes nothing takes no lock.
      simp only [Completes] at completes
      cases found : change ((system.committed.under draft).rows key) with
      | none =>
          rw [found] at completes
          have ran : (Script.write key change continued).statement system.committed
              (system.free id) draft = some (draft, continued none) := by
            simp only [Script.statement, found]
          apply Finishes.statement here ran
          apply ih
          · exact completes
          · exact Function.update_self ..
          · exact available.resume _
      | some row =>
          rw [found] at completes
          have ran : (Script.write key change continued).statement system.committed
              (system.free id) draft = some (draft.put key row, continued (some row)) := by
            simp only [Script.statement, found, available key completes.1, if_true]
          apply Finishes.statement here ran
          apply ih
          · exact completes.2
          · exact Function.update_self ..
          · exact available.resume _
  | append entry continued ih =>
      apply Finishes.statement here rfl
      apply ih
      · exact completes
      · exact Function.update_self ..
      · exact available.resume _

/-- A request started where nobody holds a row it writes can be driven to its
commit. -/
theorem Completes.commits {reaches : Answer → Draft Row Entry → Prop} {id : Nat}
    {request : Request} {free : Key → Prop}
    (completes : Completes system.committed free reaches (program request) Draft.empty)
    (vacant : system.sessions id = none) (unlocked : ∀ key, free key → system.locks key = none) :
    ∃ count answer final, reaches answer final ∧
      (Runs.run (step program) system
        (.start id request :: (List.replicate count (.advance id) ++ [.commit id]))).committed =
          system.committed.under final ∧
      (Runs.run (step program) system
        (.start id request :: (List.replicate count (.advance id) ++ [.commit id]))).history =
          system.history ++ [(request, answer)] := by
  have started : step program system (.start id request) =
      system.resume id ⟨request, Draft.empty, program request⟩ := by
    simp only [step, vacant]
  have finishes : Finishes program id request reaches
      (system.resume id ⟨request, Draft.empty, program request⟩) := by
    have resumed : Completes (system.resume id ⟨request, Draft.empty, program request⟩).committed
        free reaches (program request) Draft.empty := completes
    apply resumed.finishes (Function.update_self ..)
    apply System.Available.resume
    intro key here
    simp [System.free, unlocked key here]
  obtain ⟨count, answer, final, reached, at_end, same, told⟩ := finishes
  refine ⟨count, answer, final, reached, ?_⟩
  rw [Runs.run_cons, started, Runs.run_append, Runs.run_cons, Runs.run_nil]
  simp only [step, at_end, same, told]
  exact ⟨rfl, rfl⟩

end ReadCommitted
