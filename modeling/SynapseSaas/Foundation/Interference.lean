import SynapseSaas.Foundation.ReadCommitted
import Mathlib.Data.List.Forall2

/-! What a transaction may rely on while others commit beside it, and what the
committed database then satisfies in every interleaving. -/

set_option autoImplicit false

namespace ReadCommitted

variable {Key : Type} {Row : Key → Type} {Entry Failure Request Answer First Second : Type}

/-- What committed stores satisfy, and how one becomes a later one. -/
structure Rely {Key : Type} (Row : Key → Type) (Entry : Type) where
  valid : Store Row Entry → Prop
  grows : Store Row Entry → Store Row Entry → Prop
  refl : ∀ store, grows store store
  trans : ∀ {first second third}, grows first second → grows second third → grows first third

/-- A later committed store as a transaction in flight may meet it: the rows the
transaction has written are as they were when it wrote them. -/
structure Rely.Later (rely : Rely Row Entry) (draft : Draft Row Entry)
    (before after : Store Row Entry) : Prop where
  valid : rely.valid after
  grows : rely.grows before after
  held : ∀ key row, draft.rows key = some row → after.rows key = before.rows key

namespace Rely

variable {rely : Rely Row Entry} {draft : Draft Row Entry} {before after last : Store Row Entry}

theorem Later.refl (valid : rely.valid before) : rely.Later draft before before :=
  ⟨valid, rely.refl before, fun _ _ _ => rfl⟩

theorem Later.trans (first : rely.Later draft before after)
    (second : rely.Later draft after last) : rely.Later draft before last where
  valid := second.valid
  grows := rely.trans first.grows second.grows
  held key row written := (second.held key row written).trans (first.held key row written)

/-- What a transaction knows of the committed store and its own draft that no
other transaction can invalidate. -/
def Stable (rely : Rely Row Entry) (known : Store Row Entry → Draft Row Entry → Prop) : Prop :=
  ∀ before after draft, rely.valid before → rely.Later draft before after →
    known before draft → known after draft

end Rely

/-- Whatever commits between the statements, the script ends with an answer and
a draft as promised, unless it fails. -/
def Safe [DecidableEq Key] (rely : Rely Row Entry)
    (promised : Answer → Store Row Entry → Draft Row Entry → Prop) :
    Script Row Entry Failure Answer → Store Row Entry → Draft Row Entry → Prop
  | .done answer, store, draft => ∀ later, rely.Later draft store later → promised answer later draft
  | .fail _, _, _ => True
  | .query next, store, draft => ∀ later, rely.Later draft store later →
      Safe rely promised (next (later.under draft)) later (draft.queried later.log.length)
  | .write key change next, store, draft => ∀ later, rely.Later draft store later →
      match change ((later.under draft).rows key) with
      | none => Safe rely promised (next none) later draft
      | some row => Safe rely promised (next (some row)) later (draft.put key row)
  | .append entry next, store, draft => Safe rely promised next store (draft.add entry)

section Rules

variable [DecidableEq Key] {rely : Rely Row Entry} {store after : Store Row Entry}
  {draft : Draft Row Entry}

theorem Safe.later {promised : Answer → Store Row Entry → Draft Row Entry → Prop}
    {script : Script Row Entry Failure Answer} (safe : Safe rely promised script store draft)
    (passed : rely.Later draft store after) : Safe rely promised script after draft := by
  induction script generalizing draft with
  | done answer => exact fun last after => safe last (passed.trans after)
  | fail failure => trivial
  | query next ih => exact fun last after => safe last (passed.trans after)
  | write key change next ih => exact fun last after => safe last (passed.trans after)
  | append entry next ih =>
      apply ih safe
      exact ⟨passed.valid, passed.grows, passed.held⟩

/-- The rule for a sequence: what follows is safe from wherever the first part
may end. -/
theorem Safe.bind {promised : Second → Store Row Entry → Draft Row Entry → Prop}
    {halfway : First → Store Row Entry → Draft Row Entry → Prop}
    {script : Script Row Entry Failure First} {rest : First → Script Row Entry Failure Second}
    (valid : rely.valid store) (safe : Safe rely halfway script store draft)
    (continued : ∀ answer store draft, rely.valid store → halfway answer store draft →
      Safe rely promised (rest answer) store draft) :
    Safe rely promised (script >>= rest) store draft := by
  change Safe rely promised (script.bind rest) store draft
  induction script generalizing store draft with
  | done answer => exact continued answer store draft valid (safe store (.refl valid))
  | fail failure => trivial
  | query next ih => exact fun later passed => ih _ passed.valid (safe later passed)
  | write key change next ih =>
      intro later passed
      have here := safe later passed
      cases found : change ((later.under draft).rows key) with
      | none =>
          rw [found] at here
          exact ih none passed.valid here
      | some row =>
          rw [found] at here
          exact ih (some row) passed.valid here
  | append entry next ih => exact ih valid safe

theorem Safe.weaken {promised weaker : Answer → Store Row Entry → Draft Row Entry → Prop}
    {script : Script Row Entry Failure Answer} (safe : Safe rely promised script store draft)
    (implies : ∀ answer store draft, rely.valid store → promised answer store draft →
      weaker answer store draft) : Safe rely weaker script store draft := by
  induction script generalizing store draft with
  | done answer => exact fun later passed => implies _ _ _ passed.valid (safe later passed)
  | fail failure => trivial
  | query next ih => exact fun later passed => ih _ (safe later passed)
  | write key change next ih =>
      intro later passed
      have here := safe later passed
      cases found : change ((later.under draft).rows key) with
      | none =>
          rw [found] at here
          exact ih none here
      | some row =>
          rw [found] at here
          exact ih (some row) here
  | append entry next ih => exact ih safe

/-- The frame rule: what is known of the committed database, and stays true as it
grows, still holds at the end. -/
theorem Safe.frame {promised : Answer → Store Row Entry → Draft Row Entry → Prop}
    {known : Store Row Entry → Prop} {script : Script Row Entry Failure Answer}
    (persists : ∀ before after, rely.grows before after → known before → known after)
    (safe : Safe rely promised script store draft) (holds : known store) :
    Safe rely (fun answer store draft => promised answer store draft ∧ known store) script
      store draft := by
  induction script generalizing store draft with
  | done answer => exact fun later passed => ⟨safe later passed, persists _ _ passed.grows holds⟩
  | fail failure => trivial
  | query next ih => exact fun later passed => ih _ (safe later passed) (persists _ _ passed.grows holds)
  | write key change next ih =>
      intro later passed
      have here := safe later passed
      have still := persists _ _ passed.grows holds
      cases found : change ((later.under draft).rows key) with
      | none =>
          rw [found] at here
          exact ih none here still
      | some row =>
          rw [found] at here
          exact ih (some row) here still
  | append entry next ih => exact ih safe holds

theorem Safe.pure {promised : Answer → Store Row Entry → Draft Row Entry → Prop} {answer : Answer}
    (stable : rely.Stable (promised answer)) (valid : rely.valid store)
    (kept : promised answer store draft) :
    Safe rely promised (Pure.pure answer : Script Row Entry Failure Answer) store draft :=
  fun later passed => stable store later draft valid passed kept

theorem Safe.insert {promised : Unit → Store Row Entry → Draft Row Entry → Prop} {entry : Entry}
    (stable : rely.Stable (promised ())) (valid : rely.valid store)
    (kept : promised () store (draft.add entry)) :
    Safe rely promised (Script.insert entry : Script Row Entry Failure Unit) store draft :=
  fun later passed => stable store later _ valid passed kept

theorem Safe.select {Result : Type} {promised : Result → Store Row Entry → Draft Row Entry → Prop}
    {read : Store Row Entry → Result} (stable : ∀ result, rely.Stable (promised result))
    (kept : ∀ later, rely.Later draft store later →
      promised (read (later.under draft)) later (draft.queried later.log.length)) :
    Safe rely promised (Script.select read : Script Row Entry Failure Result) store draft :=
  fun later passed last after => stable _ later last _ passed.valid after (kept later passed)

/-- The rule for a write: what holds if it leaves the row alone, and what if it
writes one, whatever committed row it meets. -/
theorem Safe.execute {key : Key} {change : Option (Row key) → Option (Row key)}
    {promised : Option (Row key) → Store Row Entry → Draft Row Entry → Prop}
    (stable : ∀ result, rely.Stable (promised result))
    (unchanged : ∀ later, rely.Later draft store later →
      change ((later.under draft).rows key) = none → promised none later draft)
    (written : ∀ later row, rely.Later draft store later →
      change ((later.under draft).rows key) = some row →
      promised (some row) later (draft.put key row)) :
    Safe rely promised
      (Script.execute key change : Script Row Entry Failure (Option (Row key))) store draft := by
  intro later passed
  cases found : change ((later.under draft).rows key) with
  | none =>
      intro last after
      exact stable none later last draft passed.valid after (unchanged later passed found)
  | some row =>
      intro last after
      exact stable (some row) later last _ passed.valid after (written later row passed found)

/-- The rule for a batch: every input is answered, and what is known of an answer
survives the inputs after it. -/
theorem Safe.each {Input Result : Type} {script : Input → Script Row Entry Failure Result}
    {invariant : Store Row Entry → Draft Row Entry → Prop}
    {answered : Input → Result → Store Row Entry → Draft Row Entry → Prop}
    (stable : rely.Stable invariant)
    (stable_answered : ∀ input result, rely.Stable (answered input result))
    (inputs : List Input)
    (one : ∀ input ∈ inputs, ∀ store draft, rely.valid store → invariant store draft →
      Safe rely (fun result after done => invariant after done ∧ answered input result after done ∧
        ∀ earlier result, answered earlier result store draft → answered earlier result after done)
        (script input) store draft)
    (valid : rely.valid store) (holds : invariant store draft) :
    Safe rely (fun results after done => invariant after done ∧
        List.Forall₂ (fun input result => answered input result after done) inputs results ∧
        ∀ earlier result, answered earlier result store draft → answered earlier result after done)
      (Script.each script inputs) store draft := by
  induction inputs generalizing store draft with
  | nil =>
      intro later passed
      refine ⟨stable _ _ _ valid passed holds, .nil, ?_⟩
      intro earlier result known
      exact stable_answered earlier result _ _ _ valid passed known
  | cons input rest ih =>
      apply Safe.bind valid (one input (by simp) store draft valid holds)
      rintro result middle halfway valid ⟨holds, answered_here, kept⟩
      have remaining := ih (fun input member => one input (List.mem_cons_of_mem _ member)) valid holds
      apply Safe.bind valid remaining
      rintro results last done valid ⟨holds, answered_rest, kept_rest⟩ later passed
      -- Nothing learnt about an earlier input is lost while the others are served.
      have survives (earlier : Input) (result : Result)
          (known : answered earlier result last done) : answered earlier result later done :=
        stable_answered earlier result _ _ _ valid passed known
      refine ⟨stable _ _ _ valid passed holds, .cons ?_ ?_, ?_⟩
      · exact survives _ _ (kept_rest _ _ answered_here)
      · exact answered_rest.imp fun {earlier result} known => survives earlier result known
      · intro earlier result known
        exact survives _ _ (kept_rest _ _ (kept _ _ known))

end Rules

/-- A service on the database: which requests it serves, what they have done when
they finish, when they may then commit, and what their answers tell of the
database for good. -/
structure Contract {Key : Type} (Row : Key → Type) (Entry Request Answer : Type) extends
    Rely Row Entry where
  admissible : Request → Prop
  finished : Request → Answer → Store Row Entry → Draft Row Entry → Prop
  mayCommit : Request → Answer → Store Row Entry → Draft Row Entry → Prop
  told : Request → Answer → Store Row Entry → Prop
  told_grows : ∀ {request answer before after}, grows before after →
    told request answer before → told request answer after

namespace Contract

variable (contract : Contract Row Entry Request Answer)

/-- What a finished transaction has done, and what it owes where it may commit. -/
def Commits (request : Request) (answer : Answer) (store : Store Row Entry)
    (draft : Draft Row Entry) : Prop :=
  contract.finished request answer store draft ∧
    (contract.mayCommit request answer store draft →
      contract.valid (store.under draft) ∧ contract.grows store (store.under draft) ∧
        contract.told request answer (store.under draft))

/-- A transaction that commits here may commit. -/
def Permits (system : System Row Entry Failure Request Answer) : Action Request → Prop
  | .commit id => ∀ session answer, system.sessions id = some session →
      session.script = .done answer →
      contract.mayCommit session.request answer system.committed session.draft
  | .start _ _ | .advance _ | .rollback _ => True

/-- What commits here meets a condition on what it does to the committed database. -/
def CommitsMeet (condition : Request → Answer → Store Row Entry → Draft Row Entry → Prop)
    (system : System Row Entry Failure Request Answer) : Action Request → Prop
  | .commit id => ∀ session answer, system.sessions id = some session →
      session.script = .done answer →
      condition session.request answer system.committed session.draft
  | .start _ _ | .advance _ | .rollback _ => True

variable [DecidableEq Key]

/-- The invariant of every interleaving. -/
structure Sound (system : System Row Entry Failure Request Answer) : Prop where
  valid : contract.valid system.committed
  held : ∀ id session key row, system.sessions id = some session →
    session.draft.rows key = some row → system.locks key = some id
  admitted : ∀ id session, system.sessions id = some session →
    contract.admissible session.request
  safe : ∀ id session, system.sessions id = some session →
    Safe contract.toRely (contract.Commits session.request) session.script system.committed
      session.draft
  told : ∀ item ∈ system.history, contract.told item.1 item.2 system.committed

/-- A sound system whose database has a property. -/
structure Keeping (property : Store Row Entry → Prop)
    (system : System Row Entry Failure Request Answer) : Prop where
  sound : contract.Sound system
  holds : property system.committed

end Contract

section Statements

variable [DecidableEq Key] {rely : Rely Row Entry} {store : Store Row Entry}
  {draft next : Draft Row Entry} {free : Key → Bool}

theorem Safe.statement {promised : Answer → Store Row Entry → Draft Row Entry → Prop}
    {script rest : Script Row Entry Failure Answer} (valid : rely.valid store)
    (safe : Safe rely promised script store draft)
    (ran : script.statement store free draft = some (next, rest)) :
    Safe rely promised rest store next := by
  cases script with
  | done answer => cases ran
  | fail failure => cases ran
  | query _ =>
      cases ran
      exact safe store (.refl valid)
  | append entry rest =>
      cases ran
      exact safe
  | write key change resumed =>
      -- A write is asked for the state it finds, which is a later one trivially.
      have here := safe store (.refl valid)
      simp only [Script.statement] at ran
      cases found : change ((store.under draft).rows key) with
      | none =>
          rw [found] at ran here
          cases ran
          exact here
      | some row =>
          simp only [found] at ran here
          split at ran
          · cases ran
            exact here
          · cases ran

/-- A statement writes only to rows no other transaction has written. -/
theorem Script.statement_written {script rest : Script Row Entry Failure Answer}
    (ran : script.statement store free draft = some (next, rest)) {key : Key} {row : Row key}
    (written : next.rows key = some row) :
    (∃ row, draft.rows key = some row) ∨ free key = true := by
  cases script with
  | done answer => cases ran
  | fail failure => cases ran
  | query _ =>
      cases ran
      exact .inl ⟨row, written⟩
  | append entry rest =>
      cases ran
      exact .inl ⟨row, written⟩
  | write other change resumed =>
      simp only [Script.statement] at ran
      split at ran
      · cases ran
        exact .inl ⟨row, written⟩
      · split at ran
        · next available =>
            cases ran
            -- Only the row that the statement writes is new, and its lock was free.
            by_cases same : key = other
            · subst same
              exact .inr available
            · rw [Draft.put_rows_of_ne _ same] at written
              exact .inl ⟨row, written⟩
        · cases ran

end Statements

namespace Contract.Sound

variable [DecidableEq Key] {contract : Contract Row Entry Request Answer}
  {system : System Row Entry Failure Request Answer}

theorem idle {store : Store Row Entry} (valid : contract.valid store) :
    contract.Sound (System.idle store : System Row Entry Failure Request Answer) where
  valid := valid
  held _ _ _ _ found := by cases found
  admitted _ _ found := by cases found
  safe _ _ found := by cases found
  told _ member := by cases member

theorem resume (sound : contract.Sound system) {id : Nat}
    {session : Session Row Entry Failure Request Answer}
    (available : ∀ key row, session.draft.rows key = some row → system.free id key = true)
    (admitted : contract.admissible session.request)
    (safe : Safe contract.toRely (contract.Commits session.request) session.script
      system.committed session.draft) : contract.Sound (system.resume id session) where
  valid := sound.valid
  told := sound.told
  held other found key row here written := by
    simp only [System.resume] at here ⊢
    by_cases same : other = id
    · subst same
      rw [Function.update_self] at here
      cases here
      simp [written]
    · rw [Function.update_of_ne same] at here
      have mine := sound.held other found key row here written
      -- A row both have written would be locked by the other already.
      cases taken : session.draft.rows key with
      | none => simpa using mine
      | some row =>
          have := available key row taken
          simp [System.free, mine] at this
          exact absurd this same
  admitted other found here := by
    simp only [System.resume] at here
    by_cases same : other = id
    · subst same
      rw [Function.update_self] at here
      cases here
      exact admitted
    · rw [Function.update_of_ne same] at here
      exact sound.admitted other found here
  safe other found here := by
    simp only [System.resume] at here ⊢
    by_cases same : other = id
    · subst same
      rw [Function.update_self] at here
      cases here
      exact safe
    · rw [Function.update_of_ne same] at here
      exact sound.safe other found here

/-- Who is still in flight after a session ended was before, and is not that session. -/
theorem release_sessions {id other : Nat} {found : Session Row Entry Failure Request Answer}
    (here : (system.release id).sessions other = some found) :
    other ≠ id ∧ system.sessions other = some found := by
  simp only [System.release] at here
  by_cases same : other = id
  · subst same
    rw [Function.update_self] at here
    cases here
  · rw [Function.update_of_ne same] at here
    exact ⟨same, here⟩

theorem release (sound : contract.Sound system) (id : Nat) :
    contract.Sound (system.release id) where
  valid := sound.valid
  told := sound.told
  held other found key row here written := by
    obtain ⟨apart, there⟩ := release_sessions here
    have mine := sound.held other found key row there written
    simp [System.release, mine, apart]
  admitted other found here := sound.admitted other found (release_sessions here).2
  safe other found here := sound.safe other found (release_sessions here).2

/-- What a commit writes leaves alone the rows every other transaction holds. -/
theorem commit_later (sound : contract.Sound system) {id other : Nat} (apart : other ≠ id)
    {session found : Session Row Entry Failure Request Answer}
    (here : system.sessions id = some session) (there : system.sessions other = some found)
    (valid : contract.valid (system.committed.under session.draft))
    (grows : contract.grows system.committed (system.committed.under session.draft)) :
    contract.Later found.draft system.committed (system.committed.under session.draft) where
  valid := valid
  grows := grows
  held key row written := by
    apply Store.under_rows_of_none
    cases mine : session.draft.rows key with
    | none => rfl
    | some row =>
        have locked := sound.held id session key row here mine
        rw [sound.held other found key _ there written] at locked
        exact absurd (Option.some.inj locked) apart

theorem commits (sound : contract.Sound system) {id : Nat} {answer : Answer}
    {session : Session Row Entry Failure Request Answer}
    (here : system.sessions id = some session) (finished : session.script = .done answer) :
    contract.Commits session.request answer system.committed session.draft := by
  have owed := sound.safe id session here
  rw [finished] at owed
  exact owed system.committed (.refl sound.valid)

theorem commit (sound : contract.Sound system) {id : Nat} {answer : Answer}
    {session : Session Row Entry Failure Request Answer}
    (here : system.sessions id = some session) (finished : session.script = .done answer)
    (allowed : contract.mayCommit session.request answer system.committed session.draft) :
    contract.Sound { system.release id with
      committed := system.committed.under session.draft
      history := system.history ++ [(session.request, answer)] } := by
  obtain ⟨-, owed⟩ := sound.commits here finished
  obtain ⟨valid, grows, told⟩ := owed allowed
  have released := sound.release id
  constructor
  · exact valid
  · exact released.held
  · exact released.admitted
  · intro other found still
    obtain ⟨apart, there⟩ := release_sessions still
    exact (sound.safe other found there).later (sound.commit_later apart here there valid grows)
  · intro item member
    rcases List.mem_append.mp member with earlier | last
    · exact contract.told_grows grows (sound.told item earlier)
    · cases List.mem_singleton.mp last
      exact told

/-- One scheduling decision keeps the invariant: the step lemma of every run. -/
theorem step {program : Request → Script Row Entry Failure Answer}
    (serves : ∀ request, contract.admissible request → ∀ store, contract.valid store →
      Safe contract.toRely (contract.Commits request) (program request) store Draft.empty)
    (sound : contract.Sound system) {action : Action Request}
    (started : action.Starts contract.admissible) (permitted : contract.Permits system action) :
    contract.Sound (step program system action) := by
  cases action with
  | start id request =>
      simp only [ReadCommitted.step]
      split
      · exact sound
      · apply sound.resume
        -- A session starts with an empty draft.
        · intro key row written
          cases written
        · exact started
        · exact serves request started system.committed sound.valid
  | advance id =>
      simp only [ReadCommitted.step]
      cases here : system.sessions id with
      | none => exact sound
      | some session =>
          simp only
          cases ran : session.script.statement system.committed (system.free id) session.draft with
          | none => exact sound
          | some result =>
              apply sound.resume
              · intro key row written
                -- The rows of the draft are held, or were locked by this very statement.
                rcases session.script.statement_written ran written with ⟨row, mine⟩ | available
                · simp [System.free, sound.held id session key row here mine]
                · exact available
              · exact sound.admitted id session here
              · exact (sound.safe id session here).statement sound.valid ran
  | commit id =>
      simp only [ReadCommitted.step]
      split
      · exact sound
      · next session here =>
          split
          · next answer finished =>
              exact sound.commit here finished (permitted session answer here finished)
          · exact sound
  | rollback id => exact sound.release id

theorem permits (sound : contract.Sound system)
    (free : ∀ request answer store draft, contract.admissible request →
      contract.mayCommit request answer store draft) (action : Action Request) :
    contract.Permits system action := by
  cases action with
  | commit id =>
      intro session answer here _
      exact free _ _ _ _ (sound.admitted id session here)
  | start id request => trivial
  | advance id => trivial
  | rollback id => trivial

section Run

variable {program : Request → Script Row Entry Failure Answer}
  (serves : ∀ request, contract.admissible request → ∀ store, contract.valid store →
    Safe contract.toRely (contract.Commits request) (program request) store Draft.empty)
  (sound : contract.Sound system) {actions : List (Action Request)}
  (started : ∀ action ∈ actions, action.Starts contract.admissible)

include serves sound started

/-- Where an admitted request may always commit, every interleaving is sound. -/
theorem always (free : ∀ request answer store draft, contract.admissible request →
      contract.mayCommit request answer store draft) :
    Runs.Always (ReadCommitted.step program) contract.Sound system actions := by
  induction actions generalizing system with
  | nil => exact sound
  | cons action rest ih =>
      obtain ⟨here, among⟩ := List.forall_mem_cons.mp started
      exact ⟨sound, ih (sound.step serves here (sound.permits free action)) among⟩

/-- Where requests may always commit, and a commit keeps a property of the database
exactly under a condition, the property holds throughout a run exactly when every
commit meets the condition. -/
theorem always_iff_commits (free : ∀ request answer store draft, contract.admissible request →
      contract.mayCommit request answer store draft)
    {property : Store Row Entry → Prop}
    {condition : Request → Answer → Store Row Entry → Draft Row Entry → Prop}
    (exact_commit : ∀ request answer store draft, contract.valid store → property store →
      contract.Commits request answer store draft →
      (property (store.under draft) ↔ condition request answer store draft))
    (holds : property system.committed) :
    Runs.Always (ReadCommitted.step program) (fun system => property system.committed)
        system actions ↔
      Runs.Guarded (ReadCommitted.step program) (CommitsMeet condition) system actions := by
  have exact_step (system : System Row Entry Failure Request Answer) (action : Action Request)
      (sound : contract.Sound system) (holds : property system.committed) :
      property (ReadCommitted.step program system action).committed ↔
        CommitsMeet condition system action := by
    rcases step_committed program system action with same | ⟨id, session, answer, rfl, here, finished, commits⟩
    · -- A commit that changes nothing has nothing to commit.
      refine iff_of_true (same ▸ holds) ?_
      cases action with
      | start id request => trivial
      | advance id => trivial
      | rollback id => trivial
      | commit id =>
          intro session answer here finished
          have committed : (ReadCommitted.step program system (.commit id)).committed =
              system.committed.under session.draft := by
            simp only [ReadCommitted.step, here, finished]
          rw [same] at committed
          have met := exact_commit _ _ _ _ sound.valid holds (sound.commits here finished)
          exact met.mp (committed ▸ holds)
    · rw [commits, exact_commit _ _ _ _ sound.valid holds (sound.commits here finished)]
      constructor
      · intro met other told found ended
        cases here.symm.trans found
        cases finished.symm.trans ended
        exact met
      · exact fun met => met session answer here finished
  have initial : contract.Keeping property system := ⟨sound, holds⟩
  refine Runs.always_iff_guarded_among _ ?_ ?_ ?_ initial started
  · intro system action starts kept met
    exact ⟨kept.sound.step serves starts (kept.sound.permits free action),
      (exact_step system action kept.sound kept.holds).mpr met⟩
  · exact fun _ kept => kept.holds
  · intro system action _ kept later
    exact (exact_step system action kept.sound kept.holds).mp later

end Run

end Contract.Sound

end ReadCommitted
