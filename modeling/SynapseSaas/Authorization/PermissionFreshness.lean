import SynapseSaas.Authorization.Announced
import SynapseSaas.Foundation.Runs

/-! The cached permission sets while members and roles change. The changes are made one after
the other; reads go on beside them, between any two operations on the cache.

The text of a set of keys determines it, as no key holds a comma, so a body is the set. Bodies
go when their time to live is over; the counters have none. -/

set_option autoImplicit false

namespace SynapseSaas.Tenancy

namespace PermissionCache

/-- How far a call of `permission_keys_for` has come. -/
inductive Phase where
  | started
  | versionRead (version : Nat)
  | missed (version : Nat)
  | selected (version : Nat) (keys : Finset String) (commit : Nat)
  | returned
  deriving DecidableEq

/-- For the record: how many commits had been made and all their bumps too, at its start. -/
structure Reader where
  userId : Nat
  organizationId : Nat
  since : Nat
  phase : Phase := .started
  deriving DecidableEq

/-- A body; the commit its rows were of is for the record. -/
structure Body where
  keys : Finset String
  commit : Nat
  deriving DecidableEq

structure Answer where
  userId : Nat
  organizationId : Nat
  since : Nat
  keys : Finset String
  deriving DecidableEq

/-- A request with the bumps still to be made: within its transaction, then after the commit. -/
inductive Change where
  | executing (request : TenancyRequest) (left : List Invalidation)
  | flushing (left : DeferredBumps)
  deriving DecidableEq

inductive Action where
  | request (request : TenancyRequest)
  | bump
  /-- The end of the transaction, by a commit or by a rollback. -/
  | conclude
  | flushBump
  | permissionKeysFor (userId organizationId : Nat)
  | readVersion (reader : Nat)
  | readBody (reader : Nat)
  | select (reader : Nat)
  | set (reader : Nat)
  | expire (userId organizationId version : Nat)

end PermissionCache

/-- The rows after each commit and the cache. For the record: which commit the last bump
that followed one was of, up to each version of a counter. -/
structure PermissionCache where
  history : Nat → Database
  commits : Nat := 0
  counters : String → Nat := fun _ => 0
  floors : String → Nat → Nat := fun _ _ => 0
  bodies : Nat → Nat → Nat → Option PermissionCache.Body := fun _ _ _ => none
  readers : List PermissionCache.Reader := []
  change : Option PermissionCache.Change := none
  answers : List PermissionCache.Answer := []

namespace PermissionCache

open AuthorizationService (permCache permKey)

def counterOf (invalidation : Invalidation) : String :=
  invalidation.1.space.versionKey invalidation.2

/-- The counter of a user's keys. -/
def permCounter (userId organizationId : Nat) : String :=
  counterOf (permCache, permKey userId organizationId)

/-- The bumps a session has queued after these invalidations. -/
def queued (told : List Invalidation) : DeferredBumps :=
  told.foldl (fun pending invalidation => deferBump pending invalidation.1 invalidation.2) []

variable (mailbox : String → String) (state : PermissionCache)

def rows : Database := state.history state.commits

/-- How many of the commits have been made and all their bumps too. -/
def settled : Nat :=
  match state.change with
  | some (.flushing (_ :: _)) => state.commits - 1
  | _ => state.commits

def bumped (counter : String) (floor : Nat) : PermissionCache :=
  { state with
    counters := Function.update state.counters counter (state.counters counter + 1)
    floors := Function.update state.floors counter
      (Function.update (state.floors counter) (state.counters counter + 1) floor) }

def enter (index : Nat) (reader : Reader) (phase : Phase) : PermissionCache :=
  { state with readers := state.readers.set index { reader with phase } }

def answer (index : Nat) (reader : Reader) (keys : Finset String) : PermissionCache :=
  { state.enter index reader .returned with
    answers := state.answers ++ [⟨reader.userId, reader.organizationId, reader.since, keys⟩] }

def keep (userId organizationId version : Nat) (body : Option Body) : PermissionCache :=
  { state with
    bodies := fun user organization under =>
      if user = userId ∧ organization = organizationId ∧ under = version then body
      else state.bodies user organization under }

def step (state : PermissionCache) : Action → PermissionCache
  | .request request =>
      match state.change with
      | none =>
          { state with
            change := some (.executing request ((request.proc mailbox).effects state.rows)) }
      | some _ => state
  | .bump =>
      match state.change with
      | some (.executing request (invalidation :: left)) =>
          let counter := counterOf invalidation
          { state.bumped counter (state.floors counter (state.counters counter)) with
            change := some (.executing request left) }
      | _ => state
  | .conclude =>
      match state.change with
      | some (.executing request []) =>
          match (request.proc mailbox).alone state.rows with
          | .ok (_, after) =>
              { state with
                history := Function.update state.history (state.commits + 1) after
                commits := state.commits + 1
                change := some (.flushing (queued ((request.proc mailbox).effects state.rows))) }
          | .error _ => { state with change := none }
      | _ => state
  | .flushBump =>
      match state.change with
      | some (.flushing (invalidation :: left)) =>
          { state.bumped (counterOf invalidation) state.commits with
            change := some (.flushing left) }
      | some (.flushing []) => { state with change := none }
      | _ => state
  | .permissionKeysFor userId organizationId =>
      { state with
        readers := state.readers ++ [{ userId, organizationId, since := state.settled }] }
  | .readVersion index =>
      match state.readers[index]? with
      | some ⟨userId, organizationId, since, .started⟩ =>
          state.enter index ⟨userId, organizationId, since, .started⟩
            (.versionRead (state.counters (permCounter userId organizationId)))
      | _ => state
  | .readBody index =>
      match state.readers[index]? with
      | some ⟨userId, organizationId, since, .versionRead version⟩ =>
          let reader := ⟨userId, organizationId, since, .versionRead version⟩
          match (state.bodies userId organizationId version).filter (·.keys ≠ ∅) with
          | some body => state.answer index reader body.keys
          | none => state.enter index reader (.missed version)
      | _ => state
  | .select index =>
      match state.readers[index]? with
      | some ⟨userId, organizationId, since, .missed version⟩ =>
          state.enter index ⟨userId, organizationId, since, .missed version⟩
            (.selected version (state.rows.keysFor userId organizationId) state.commits)
      | _ => state
  | .set index =>
      match state.readers[index]? with
      | some ⟨userId, organizationId, since, .selected version keys commit⟩ =>
          (state.keep userId organizationId version (some ⟨keys, commit⟩)).answer index
            ⟨userId, organizationId, since, .selected version keys commit⟩ keys
      | _ => state
  | .expire userId organizationId version => state.keep userId organizationId version none

/-- What was returned to a reader is what the rows said at some commit since the last one
before its start whose bumps had all been made. -/
def Current : Prop :=
  ∀ answer ∈ state.answers, ∃ commit, answer.since ≤ commit ∧ commit ≤ state.commits ∧
    answer.keys = (state.history commit).keysFor answer.userId answer.organizationId

/-- No user with keys is removed. -/
def Spares (state : PermissionCache) : Action → Prop
  | .request request => request.removesHolder state.rows = false
  | _ => True

instance sparesDecidable (state : PermissionCache) : (action : Action) → Decidable (state.Spares action)
  | .request request => inferInstanceAs (Decidable (request.removesHolder state.rows = false))
  | .bump | .conclude | .flushBump | .permissionKeysFor _ _ | .readVersion _ | .readBody _
  | .select _ | .set _ | .expire _ _ _ => inferInstanceAs (Decidable True)

/-! What holds of the cache. -/

/-- The commit after this one took keys from the user, or gave others for them. -/
def Changed (history : Nat → Database) (userId organizationId commit : Nat) : Prop :=
  (history commit).keysFor userId organizationId ≠ ∅ ∧
    (history (commit + 1)).keysFor userId organizationId ≠
      (history commit).keysFor userId organizationId

/-- Versions and commits go on from one state to a later one. -/
structure Later (state after : PermissionCache) : Prop where
  commits : state.commits ≤ after.commits
  history : ∀ commit ≤ state.commits, after.history commit = state.history commit
  counters : ∀ counter, state.counters counter ≤ after.counters counter
  floors : ∀ counter version, version ≤ state.counters counter →
    after.floors counter version = state.floors counter version
  rising : ∀ counter, state.floors counter (state.counters counter) ≤
    after.floors counter (after.counters counter)

/-- Every change before this commit was flushed by this version of the user's counter. -/
def FlushedBy (state : PermissionCache) (userId organizationId version since : Nat) : Prop :=
  ∀ commit < since, Changed state.history userId organizationId commit →
    commit + 1 ≤ state.floors (permCounter userId organizationId) version

/-- What is under a version was read from rows no older than the changes flushed by it. -/
structure Dated (state : PermissionCache) (userId organizationId version : Nat)
    (keys : Finset String) (commit : Nat) : Prop where
  known : version ≤ state.counters (permCounter userId organizationId)
  after : state.floors (permCounter userId organizationId) version ≤ commit
  before : commit ≤ state.commits
  read : keys = (state.history commit).keysFor userId organizationId

/-- What a reader has seen so far will do. -/
def Reader.Fine (state : PermissionCache) (reader : Reader) : Prop :=
  reader.since ≤ state.commits ∧
    match reader.phase with
    | .started => state.FlushedBy reader.userId reader.organizationId
        (state.counters (permCounter reader.userId reader.organizationId)) reader.since
    | .versionRead version | .missed version =>
        version ≤ state.counters (permCounter reader.userId reader.organizationId) ∧
          state.FlushedBy reader.userId reader.organizationId version reader.since
    | .selected version keys commit =>
        state.Dated reader.userId reader.organizationId version keys commit ∧
          reader.since ≤ commit
    | .returned => True

/-- The changes up to now have been flushed, or the last one is being flushed. -/
def Flushed (state : PermissionCache) : Prop :=
  ∀ userId organizationId commit, commit < state.commits →
    Changed state.history userId organizationId commit →
      commit + 1 ≤ state.floors (permCounter userId organizationId)
          (state.counters (permCounter userId organizationId)) ∨
        ∃ left, state.change = some (.flushing left) ∧
          (permCache, permKey userId organizationId) ∈ left ∧ commit + 1 = state.commits

structure Fresh (state : PermissionCache) : Prop where
  ordered : ∀ counter version, version ≤ state.counters counter →
    state.floors counter version ≤ state.floors counter (state.counters counter)
  past : ∀ counter, state.floors counter (state.counters counter) ≤ state.commits
  sparing : ∀ request left, state.change = some (.executing request left) →
    request.removesHolder state.rows = false
  flushed : state.Flushed
  bodies : ∀ userId organizationId version body,
    state.bodies userId organizationId version = some body →
      state.Dated userId organizationId version body.keys body.commit
  readers : ∀ reader ∈ state.readers, reader.Fine state
  answers : state.Current

section Steps

variable {mailbox : String → String} {state after : PermissionCache} {reader : Reader}
  {index userId organizationId version commit since floor : Nat} {counter : String}
  {keys : Finset String} {phase : Phase}

/-- The commits up to a state change in a later one what they changed before. -/
theorem Later.changed (later : Later state after) (before : commit < state.commits) :
    Changed after.history userId organizationId commit ↔
      Changed state.history userId organizationId commit := by
  unfold Changed
  rw [later.history commit (by omega), later.history (commit + 1) (by omega)]

theorem FlushedBy.later (flushed : state.FlushedBy userId organizationId version since)
    (later : Later state after) (known : version ≤ state.counters (permCounter userId organizationId))
    (past : since ≤ state.commits) : after.FlushedBy userId organizationId version since := by
  intro commit before changed
  rw [later.floors _ _ known]
  exact flushed commit before ((later.changed (by omega)).mp changed)

/-- Who has read no version yet will read one no older. -/
theorem FlushedBy.rise
    (flushed : state.FlushedBy userId organizationId
      (state.counters (permCounter userId organizationId)) since)
    (later : Later state after) (past : since ≤ state.commits) :
    after.FlushedBy userId organizationId (after.counters (permCounter userId organizationId))
      since := by
  intro commit before changed
  have flushed := flushed commit before ((later.changed (by omega)).mp changed)
  exact flushed.trans (later.rising _)

theorem Dated.later (dated : state.Dated userId organizationId version keys commit)
    (later : Later state after) : after.Dated userId organizationId version keys commit where
  known := dated.known.trans (later.counters _)
  after := by
    rw [later.floors _ _ dated.known]
    exact dated.after
  before := dated.before.trans later.commits
  read := by
    rw [later.history commit dated.before]
    exact dated.read

theorem Reader.Fine.later (fine : reader.Fine state) (later : Later state after) :
    reader.Fine after := by
  obtain ⟨past, fine⟩ := fine
  refine ⟨past.trans later.commits, ?_⟩
  cases stage : reader.phase with
  | started =>
      rw [stage] at fine
      exact fine.rise later past
  | versionRead version | missed version =>
      rw [stage] at fine
      obtain ⟨known, fine⟩ := fine
      exact ⟨known.trans (later.counters _), fine.later later known past⟩
  | selected version keys commit =>
      rw [stage] at fine
      exact ⟨fine.1.later later, fine.2⟩
  | returned => trivial

theorem Current.later (current : state.Current) (later : Later state after)
    (same : after.answers = state.answers) : after.Current := by
  intro answer here
  rw [same] at here
  obtain ⟨commit, start, past, keys⟩ := current answer here
  refine ⟨commit, start, past.trans later.commits, ?_⟩
  rw [later.history commit past]
  exact keys

theorem Later.of_eq (commits : after.commits = state.commits) (history : after.history = state.history)
    (counters : after.counters = state.counters) (floors : after.floors = state.floors) :
    Later state after where
  commits := by rw [commits]
  history := fun _ _ => by rw [history]
  counters := fun _ => by rw [counters]
  floors := fun _ _ _ => by rw [floors]
  rising := fun _ => by rw [counters, floors]

/-- How far the change has come is no matter to the readers. -/
theorem Later.changing (later : Later state after) (change : Option Change) :
    Later state { after with change } :=
  ⟨later.commits, later.history, later.counters, later.floors, later.rising⟩

/-- A version that is bumped past what its counter had goes on. -/
theorem later_bumped (rising : state.floors counter (state.counters counter) ≤ floor) :
    Later state (state.bumped counter floor) where
  commits := Nat.le_refl _
  history := fun _ _ => rfl
  counters := by
    intro other
    simp only [bumped, Function.update_apply]
    split
    · next same => rw [same]; omega
    · exact Nat.le_refl _
  floors := by
    intro other version known
    simp only [bumped, Function.update_apply]
    split
    · next same =>
        subst same
        rw [Function.update_of_ne (by omega)]
    · rfl
  rising := by
    intro other
    by_cases same : other = counter
    · subst same
      simpa [bumped] using rising
    · simp [bumped, same]

theorem floors_bumped : (state.bumped counter floor).floors counter
    ((state.bumped counter floor).counters counter) = floor := by
  simp [bumped]

theorem ordered_bumped
    (ordered : ∀ version ≤ state.counters counter,
      state.floors counter version ≤ state.floors counter (state.counters counter))
    (rising : state.floors counter (state.counters counter) ≤ floor) :
    ∀ version ≤ state.counters counter + 1,
      (state.bumped counter floor).floors counter version ≤ floor := by
  intro version known
  simp only [bumped, Function.update_self, Function.update_apply]
  split
  · exact Nat.le_refl _
  · exact (ordered version (by omega)).trans rising

/-- The counters of a state stay in order when one is bumped up to the last commit. -/
theorem Fresh.bumped (fresh : state.Fresh)
    (rising : state.floors counter (state.counters counter) ≤ floor) (past : floor ≤ state.commits) :
    (∀ other version, version ≤ (state.bumped counter floor).counters other →
        (state.bumped counter floor).floors other version ≤
          (state.bumped counter floor).floors other ((state.bumped counter floor).counters other)) ∧
      ∀ other, (state.bumped counter floor).floors other
        ((state.bumped counter floor).counters other) ≤ state.commits := by
  constructor
  · intro other version known
    by_cases same : other = counter
    · subst same
      rw [floors_bumped]
      refine ordered_bumped (fresh.ordered other) rising version ?_
      simpa [PermissionCache.bumped] using known
    · simp only [PermissionCache.bumped, Function.update_of_ne same] at known ⊢
      exact fresh.ordered other version known
  · intro other
    by_cases same : other = counter
    · subst same
      rw [floors_bumped]
      exact past
    · simp only [PermissionCache.bumped, Function.update_of_ne same]
      exact fresh.past other

/-- A step of the change goes on from where the readers are. -/
theorem Fresh.later (fresh : state.Fresh) (later : Later state after)
    (bodies : after.bodies = state.bodies) (readers : after.readers = state.readers)
    (answers : after.answers = state.answers)
    (ordered : ∀ counter version, version ≤ after.counters counter →
      after.floors counter version ≤ after.floors counter (after.counters counter))
    (past : ∀ counter, after.floors counter (after.counters counter) ≤ after.commits)
    (sparing : ∀ request left, after.change = some (.executing request left) →
      request.removesHolder after.rows = false)
    (flushed : after.Flushed) : after.Fresh where
  ordered := ordered
  past := past
  sparing := sparing
  flushed := flushed
  bodies := by
    intro userId organizationId version body found
    rw [bodies] at found
    exact (fresh.bodies userId organizationId version body found).later later
  readers := by
    intro reader here
    rw [readers] at here
    exact (fresh.readers reader here).later later
  answers := fresh.answers.later later answers

theorem later_enter : Later state (state.enter index reader phase) := .of_eq rfl rfl rfl rfl

theorem later_keep {kept : Option Body} :
    Later state (state.keep userId organizationId version kept) := .of_eq rfl rfl rfl rfl

theorem Fresh.enter (fresh : state.Fresh) (fine : Reader.Fine state { reader with phase }) :
    (state.enter index reader phase).Fresh where
  ordered := fresh.ordered
  past := fresh.past
  sparing := fresh.sparing
  flushed := fresh.flushed
  bodies := fun userId organizationId version body found =>
    (fresh.bodies userId organizationId version body found).later later_enter
  readers := by
    intro other here
    rcases List.mem_or_eq_of_mem_set here with before | rfl
    · exact (fresh.readers other before).later later_enter
    · exact fine.later later_enter
  answers := fresh.answers

/-- An answer is current when its keys are those of a commit since the start. -/
theorem Fresh.answer (fresh : state.Fresh) (past : reader.since ≤ state.commits)
    (current : ∃ commit, reader.since ≤ commit ∧ commit ≤ state.commits ∧
      keys = (state.history commit).keysFor reader.userId reader.organizationId) :
    (state.answer index reader keys).Fresh := by
  have returned : (state.enter index reader .returned).Fresh := fresh.enter ⟨past, trivial⟩
  have later : Later (state.enter index reader .returned) (state.answer index reader keys) :=
    .of_eq rfl rfl rfl rfl
  refine ⟨returned.ordered, returned.past, returned.sparing, returned.flushed, ?_, ?_, ?_⟩
  · exact fun userId organizationId version body found =>
      (returned.bodies userId organizationId version body found).later later
  · exact fun other here => (returned.readers other here).later later
  · intro answer here
    rcases List.mem_append.mp here with before | new
    · exact fresh.answers answer before
    · rw [List.mem_singleton.mp new]
      exact current

theorem Fresh.keep (fresh : state.Fresh) (kept : Option Body)
    (dated : ∀ body ∈ kept, state.Dated userId organizationId version body.keys body.commit) :
    (state.keep userId organizationId version kept).Fresh where
  ordered := fresh.ordered
  past := fresh.past
  sparing := fresh.sparing
  flushed := fresh.flushed
  bodies := by
    intro user organization under body found
    simp only [PermissionCache.keep] at found
    split at found
    · next same =>
        obtain ⟨rfl, rfl, rfl⟩ := same
        exact (dated body found).later later_keep
    · exact (fresh.bodies user organization under body found).later later_keep
  readers := fun other here => (fresh.readers other here).later later_keep
  answers := fresh.answers

/-- Keys that were read before and that no commit since has changed are still those. -/
theorem keysFor_unchanged {history : Nat → Database} {first last : Nat} (order : first ≤ last)
    (held : (history first).keysFor userId organizationId ≠ ∅)
    (unchanged : ∀ commit, first ≤ commit → commit < last →
      ¬ Changed history userId organizationId commit) :
    (history last).keysFor userId organizationId =
      (history first).keysFor userId organizationId := by
  induction last, order using Nat.le_induction with
  | base => rfl
  | succ last order ih =>
      have same := ih fun commit start before => unchanged commit start (by omega)
      by_contra other
      refine unchanged last order (by omega) ⟨?_, ?_⟩
      · rw [same]
        exact held
      · rw [same]
        exact other

/-- A body under a version that flushed everything before the start is current. -/
theorem current_of_hit {body : Body} (fine : state.FlushedBy userId organizationId version since)
    (past : since ≤ state.commits) (held : body.keys ≠ ∅)
    (dated : state.Dated userId organizationId version body.keys body.commit) :
    ∃ commit, since ≤ commit ∧ commit ≤ state.commits ∧
      body.keys = (state.history commit).keysFor userId organizationId := by
  by_cases recent : since ≤ body.commit
  · exact ⟨body.commit, recent, dated.before, dated.read⟩
  · refine ⟨since, Nat.le_refl _, past, ?_⟩
    rw [keysFor_unchanged (show body.commit ≤ since by omega)]
    · exact dated.read
    · rw [← dated.read]
      exact held
    · intro commit start before changed
      have flushed := fine commit before changed
      have aged := dated.after
      omega

theorem mem_deferBump {invalidation other : Invalidation} {pending : DeferredBumps} :
    invalidation ∈ deferBump pending other.1 other.2 ↔
      invalidation ∈ pending ∨ invalidation = other := by
  unfold deferBump
  split
  · next already =>
      constructor
      · exact .inl
      · rintro (before | rfl)
        · exact before
        · exact already
  · rw [List.mem_append, List.mem_singleton]

theorem mem_foldl_deferBump {invalidation : Invalidation} {pending : DeferredBumps}
    {told : List Invalidation} :
    invalidation ∈ told.foldl (fun pending other => deferBump pending other.1 other.2) pending ↔
      invalidation ∈ pending ∨ invalidation ∈ told := by
  induction told generalizing pending with
  | nil => simp
  | cons other rest ih => rw [List.foldl_cons, ih, mem_deferBump, List.mem_cons, or_assoc]

/-- What was told of in the transaction is flushed after it. -/
theorem mem_queued {invalidation : Invalidation} {told : List Invalidation}
    (here : invalidation ∈ told) : invalidation ∈ queued told :=
  mem_foldl_deferBump.mpr (.inr here)

end Steps

section Run

variable {mailbox : String → String} {state : PermissionCache} {request : TenancyRequest}
  {left : List Invalidation} {invalidation : Invalidation}

theorem settled_le : state.settled ≤ state.commits := by
  unfold settled
  split <;> omega

/-- The counters know of the commits whose bumps have all been made. -/
theorem Flushed.settled (flushed : state.Flushed) {userId organizationId commit : Nat}
    (before : commit < state.settled) (changed : Changed state.history userId organizationId commit) :
    commit + 1 ≤ state.floors (permCounter userId organizationId)
      (state.counters (permCounter userId organizationId)) := by
  rcases flushed userId organizationId commit (before.trans_le settled_le) changed with
    done | ⟨left, flushing, waiting, last⟩
  · exact done
  · obtain ⟨first, rest, rfl⟩ := List.exists_cons_of_ne_nil (List.ne_nil_of_mem waiting)
    simp only [PermissionCache.settled, flushing] at before
    omega

/-- Bumps within the transaction flush no commit, and leave what was flushed. -/
theorem Fresh.bumpWithin (fresh : state.Fresh)
    (executing : state.change = some (.executing request (invalidation :: left))) :
    Fresh { state.bumped (counterOf invalidation)
        (state.floors (counterOf invalidation) (state.counters (counterOf invalidation))) with
      change := some (.executing request left) } := by
  have rising : state.floors (counterOf invalidation) (state.counters (counterOf invalidation)) ≤
      state.floors (counterOf invalidation) (state.counters (counterOf invalidation)) :=
    Nat.le_refl _
  have later := (later_bumped rising).changing (some (.executing request left))
  obtain ⟨ordered, past⟩ := fresh.bumped rising (fresh.past _)
  apply fresh.later later rfl rfl rfl ordered past
  · intro other rest changing
    cases changing
    exact fresh.sparing request _ executing
  · intro userId organizationId commit before changed
    have settled : state.settled = state.commits := by rw [PermissionCache.settled, executing]
    have flushed := fresh.flushed.settled (settled.symm ▸ before) changed
    exact .inl (flushed.trans (later.rising _))

/-- What the commit changes is to be flushed. -/
theorem Fresh.commit (fresh : state.Fresh) {rows : Database} {answer : Unit × IdentityMap}
    (executing : state.change = some (.executing request []))
    (ended : (request.proc mailbox).alone state.rows = .ok (answer, rows)) :
    Fresh { state with
      history := Function.update state.history (state.commits + 1) rows
      commits := state.commits + 1
      change := some (.flushing (queued ((request.proc mailbox).effects state.rows))) } := by
  have spares := fresh.sparing request [] executing
  have covers : Covers state.rows nobody rows ((request.proc mailbox).effects state.rows) :=
    (announces_request mailbox spares IdentityMap.empty).alone ended
  have kept (commit : Nat) (before : commit ≤ state.commits) :
      Function.update state.history (state.commits + 1) rows commit = state.history commit :=
    Function.update_of_ne (by omega) _ _
  have later : Later state { state with
      history := Function.update state.history (state.commits + 1) rows
      commits := state.commits + 1
      change := some (.flushing (queued ((request.proc mailbox).effects state.rows))) } :=
    ⟨Nat.le_succ _, kept, fun _ => Nat.le_refl _, fun _ _ _ => rfl, fun _ => Nat.le_refl _⟩
  apply fresh.later later rfl rfl rfl fresh.ordered
  · exact fun counter => (fresh.past counter).trans (Nat.le_succ _)
  · intro other rest changing
    cases changing
  · intro userId organizationId commit before changed
    have before : commit < state.commits + 1 := before
    by_cases last : commit = state.commits
    · subst last
      obtain ⟨held, other⟩ : Changed (Function.update state.history (state.commits + 1) rows)
        userId organizationId state.commits := changed
      rw [kept _ (Nat.le_refl _)] at held
      rw [kept _ (Nat.le_refl _), Function.update_self] at other
      rcases covers userId organizationId held with owed | told | same
      · exact owed.elim
      · exact .inr ⟨_, rfl, mem_queued told, rfl⟩
      · exact absurd same other
    · have earlier : commit < state.commits := by omega
      have settled : state.settled = state.commits := by rw [PermissionCache.settled, executing]
      exact .inl (fresh.flushed.settled (settled.symm ▸ earlier) ((later.changed earlier).mp changed))

/-- A bump after the commit flushes it for the user it is of. -/
theorem Fresh.flush (fresh : state.Fresh)
    (flushing : state.change = some (.flushing (invalidation :: left))) :
    Fresh { state.bumped (counterOf invalidation) state.commits with
      change := some (.flushing left) } := by
  have rising := fresh.past (counterOf invalidation)
  have later := (later_bumped rising).changing (some (.flushing left))
  obtain ⟨ordered, past⟩ := fresh.bumped rising (Nat.le_refl _)
  apply fresh.later later rfl rfl rfl ordered past
  · intro other rest changing
    cases changing
  · intro userId organizationId commit before changed
    rcases fresh.flushed userId organizationId commit before changed with
      done | ⟨queue, same, here, last⟩
    · exact .inl (done.trans (later.rising _))
    · rw [flushing] at same
      cases same
      rcases List.mem_cons.mp here with rfl | waiting
      · left
        rw [last]
        unfold permCounter
        generalize counterOf (permCache, permKey userId organizationId) = counter
        exact floors_bumped.ge
      · exact .inr ⟨left, rfl, waiting, last⟩

/-- Where no change goes on from here, all of its commits have been flushed. -/
theorem Fresh.settle (fresh : state.Fresh)
    (settled : ∀ left, state.change = some (.flushing left) → left = [])
    (change : Option Change)
    (sparing : ∀ request left, change = some (.executing request left) →
      request.removesHolder state.rows = false) : Fresh { state with change } := by
  have later : Later state { state with change } := .of_eq rfl rfl rfl rfl
  apply fresh.later later rfl rfl rfl fresh.ordered fresh.past sparing
  intro userId organizationId commit before changed
  rcases fresh.flushed userId organizationId commit before changed with done | ⟨left, same, here, -⟩
  · exact .inl done
  · rw [settled left same] at here
    cases here

/-- A reader that starts finds a version that flushed all that is settled. -/
theorem Fresh.begin (fresh : state.Fresh) (userId organizationId : Nat) :
    Fresh (state.step mailbox (.permissionKeysFor userId organizationId)) := by
  have fine : Reader.Fine state { userId, organizationId, since := state.settled } :=
    ⟨settled_le, fun _ before changed => fresh.flushed.settled before changed⟩
  have later : Later state (state.step mailbox (.permissionKeysFor userId organizationId)) :=
    .of_eq rfl rfl rfl rfl
  refine ⟨fresh.ordered, fresh.past, fresh.sparing, fresh.flushed, ?_, ?_, fresh.answers⟩
  · exact fun user organization version body found =>
      (fresh.bodies user organization version body found).later later
  · intro other here
    rcases List.mem_append.mp here with before | new
    · exact (fresh.readers other before).later later
    · rw [List.mem_singleton.mp new]
      exact fine.later later

/-- The cache stays fresh, whatever is done next that removes no user with keys. -/
theorem Fresh.step (fresh : state.Fresh) (action : Action) (spares : state.Spares action) :
    (state.step mailbox action).Fresh := by
  cases action with
  | request request =>
      dsimp only [PermissionCache.step]
      split
      · next quiet =>
          refine fresh.settle (fun left other => by rw [quiet] at other; cases other) _ ?_
          intro other left same
          cases same
          exact spares
      · exact fresh
  | bump =>
      dsimp only [PermissionCache.step]
      split
      · next executing => exact fresh.bumpWithin executing
      · exact fresh
  | conclude =>
      dsimp only [PermissionCache.step]
      split
      · next request executing =>
          split
          · next ended => exact fresh.commit executing ended
          · exact fresh.settle (fun left other => by simp [executing] at other) none
              (fun _ _ same => by cases same)
      · exact fresh
  | flushBump =>
      dsimp only [PermissionCache.step]
      split
      · next flushing => exact fresh.flush flushing
      · next flushing =>
          refine fresh.settle (fun left other => ?_) none (fun _ _ same => by cases same)
          rw [flushing] at other
          cases other
          rfl
      · exact fresh
  | permissionKeysFor userId organizationId => exact fresh.begin userId organizationId
  | readVersion index =>
      dsimp only [PermissionCache.step]
      split
      · next here =>
          obtain ⟨past, fine⟩ := fresh.readers _ (List.mem_of_getElem? here)
          exact fresh.enter ⟨past, Nat.le_refl _, fine⟩
      · exact fresh
  | readBody index =>
      dsimp only [PermissionCache.step]
      split
      · next userId organizationId since version here =>
          obtain ⟨past, known, fine⟩ := fresh.readers _ (List.mem_of_getElem? here)
          split
          · next body found =>
              obtain ⟨stored, held⟩ := Option.filter_eq_some_iff.mp found
              have dated := fresh.bodies userId organizationId version body stored
              exact fresh.answer past (current_of_hit fine past (of_decide_eq_true held) dated)
          · exact fresh.enter ⟨past, known, fine⟩
      · exact fresh
  | select index =>
      dsimp only [PermissionCache.step]
      split
      · next userId organizationId since version here =>
          obtain ⟨past, known, -⟩ := fresh.readers _ (List.mem_of_getElem? here)
          have dated : state.Dated userId organizationId version
              (state.rows.keysFor userId organizationId) state.commits :=
            ⟨known, (fresh.ordered _ version known).trans (fresh.past _), Nat.le_refl _, rfl⟩
          exact fresh.enter ⟨past, dated, past⟩
      · exact fresh
  | set index =>
      dsimp only [PermissionCache.step]
      split
      · next userId organizationId since version keys commit here =>
          obtain ⟨past, dated, start⟩ := fresh.readers _ (List.mem_of_getElem? here)
          have kept : (state.keep userId organizationId version (some ⟨keys, commit⟩)).Fresh := by
            apply fresh.keep
            intro body same
            cases same
            exact dated
          exact kept.answer past ⟨commit, start, dated.before, dated.read⟩
      · exact fresh
  | expire userId organizationId version => exact fresh.keep none fun _ none_ => by cases none_

end Run

/-- Nothing cached, and no call under way. -/
def opening (rows : Database) : PermissionCache := { history := fun _ => rows }

theorem Fresh.opening (rows : Database) : (opening rows).Fresh where
  ordered := fun _ _ _ => Nat.le_refl _
  past := fun _ => Nat.le_refl _
  sparing := fun _ _ none_ => by cases none_
  flushed := fun _ _ _ before _ => absurd before (Nat.not_lt_zero _)
  bodies := fun _ _ _ _ none_ => by cases none_
  readers := fun _ here => by cases here
  answers := fun _ here => by cases here

/-- A call that starts after a change and its bumps returns keys committed with it or since,
unless a user with keys has been removed. -/
theorem current_of_spares (mailbox : String → String) (rows : Database) {actions : List Action}
    (spares : Runs.Guarded (step mailbox) Spares (opening rows) actions) :
    Runs.Always (step mailbox) Current (opening rows) actions :=
  (Runs.always_of_guarded (step mailbox) (fun _ action fresh met => fresh.step action met)
    (Fresh.opening rows) spares).mono _ fun _ fresh => fresh.answers

/-- An owner and a member. -/
def employed : Database where
  users := ⟨[⟨1, "founder@globex.test"⟩, ⟨2, "ann@globex.test"⟩], 3, by decide⟩
  organizations := ⟨[⟨1, "globex", "Globex", some 1, false⟩], 2, by decide⟩
  memberships := ⟨[⟨10, 1, some 1, none, none, .active, ["org:read"]⟩,
    ⟨11, 1, some 2, none, none, .active, ["org:read"]⟩], 12, by decide⟩
  roles := .empty
  permissions := .empty
  rolePermissions := ∅
  membershipRoles := ∅
  references := by decide

/-- The member's keys are read, and read again after the change and its bumps. -/
def readAround (request : TenancyRequest) : List Action :=
  [.permissionKeysFor 2 1, .readVersion 0, .readBody 0, .select 0, .set 0,
    .request request, .bump, .bump, .conclude, .flushBump, .flushBump, .flushBump,
    .permissionKeysFor 2 1, .readVersion 1, .readBody 1, .select 1, .set 1]

theorem current_suspended :
    Runs.Always (step id) Current (opening employed)
        (readAround (.updateMembership 11 none (some .suspended))) ∧
      (Runs.run (step id) (opening employed)
        (readAround (.updateMembership 11 none (some .suspended)))).answers =
        [⟨2, 1, 0, {"org:read"}⟩, ⟨2, 1, 1, ∅⟩] :=
  ⟨current_of_spares id employed (by decide +kernel), by decide +kernel⟩

/-- The keys of the removed member are served from the cache. -/
theorem removed_keys_served :
    ¬ Runs.Always (step id) Current (opening employed) (readAround (.removeMember 11)) ∧
      (Runs.run (step id) (opening employed) (readAround (.removeMember 11))).answers =
        [⟨2, 1, 0, {"org:read"}⟩, ⟨2, 1, 1, {"org:read"}⟩] ∧
      (Runs.run (step id) (opening employed) (readAround (.removeMember 11))).rows.keysFor 2 1 = ∅ := by
  have answers : (Runs.run (step id) (opening employed) (readAround (.removeMember 11))).answers =
      [⟨2, 1, 0, {"org:read"}⟩, ⟨2, 1, 1, {"org:read"}⟩] := by decide +kernel
  refine ⟨fun always => ?_, answers, by decide +kernel⟩
  have served : (⟨2, 1, 1, {"org:read"}⟩ : Answer) ∈ (Runs.run (step id) (opening employed)
      (readAround (.removeMember 11))).answers := by
    rw [answers]
    exact List.mem_cons_of_mem _ List.mem_cons_self
  obtain ⟨commit, start, past, keys⟩ := always.last _ _ served
  have commits : (Runs.run (step id) (opening employed)
      (readAround (.removeMember 11))).commits = 1 := by decide +kernel
  have only : commit = 1 := Nat.le_antisymm (commits ▸ past) start
  subst only
  revert keys
  decide +kernel

end PermissionCache

end SynapseSaas.Tenancy
