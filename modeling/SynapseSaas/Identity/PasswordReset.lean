import SynapseSaas.Identity.Rotation

/-! What a password reset ends: every session begun before it, and every session
that goes on from one. -/

set_option autoImplicit false

namespace SynapseSaas.Identity

open ReadCommitted IdentityService

/-- Issued before a reset of its user was committed, or descended by rotation from
a token that was. -/
inductive Condemned (log : List IdentityEntry) : String → Prop where
  | before {earlier later : List IdentityEntry} {userId : Nat} {reset hash : String}
      {presented : Option String} (completed : log = earlier ++ .resetCompleted userId reset :: later)
      (issued : .issued hash userId presented ∈ earlier) : Condemned log hash
  | rotated {presented hash : String} (condemned : Condemned log presented)
      (succeeds : Succeeds log presented hash) : Condemned log hash

def SessionsEnded (store : IdentityStore) : Prop :=
  ∀ hash, Condemned store.log hash → ¬Unrevoked store hash

/-- A rotation that commits presented no token a reset has condemned since, and a
reset that commits revokes every token its user has by then. -/
structure EndsSessions (request : SessionRequest) (answer : SessionAnswer) (store : IdentityStore)
    (draft : IdentityDraft) : Prop where
  rotation : ∀ presented, answer.presented? = some presented → ¬Condemned store.log presented
  reset : ∀ userId token, answer.reset? = some (userId, token) →
    ∀ hash, Owns userId hash store → Unrevoked store hash →
      ∃ row, draft.rows (.refreshToken hash) = some row

theorem SessionAnswer.unpresented_of_reset {answer : SessionAnswer} {reset : Nat × String}
    (completed : answer.reset? = some reset) : answer.presented? = none := by
  cases answer with
  | reset userId token hash => rfl
  | issued hash userId => cases completed
  | rotated presented hash userId => cases completed
  | reuseDetected => cases completed
  | loggedOut => cases completed
  | resetRequested => cases completed

theorem SessionAnswer.entries_of_reset {answer : SessionAnswer} {userId : Nat} {token : String}
    (completed : answer.reset? = some (userId, token)) :
    ∃ rest, answer.entries = .resetCompleted userId token :: rest := by
  unfold entries
  rw [completed]
  exact ⟨_, rfl⟩

/-- Nothing is on record before the reset that a request records. -/
theorem SessionAnswer.reset_first {answer : SessionAnswer} {earlier later : List IdentityEntry}
    {userId : Nat} {token : String}
    (split : answer.entries = earlier ++ .resetCompleted userId token :: later) : earlier = [] := by
  cases earlier with
  | nil => rfl
  | cons head rest =>
      have late : .resetCompleted userId token ∈ answer.entries.tail := by simp [split]
      cases answer <;> simp [entries, token?, presented?, reset?] at late

section Records

variable {log more : List IdentityEntry} {hash : String}

theorem Condemned.mono (condemned : Condemned log hash) : Condemned (log ++ more) hash := by
  induction condemned with
  | before completed issued =>
      rw [completed, List.append_assoc, List.cons_append]
      exact .before rfl issued
  | rotated _ succeeds ih =>
      obtain ⟨userId, member⟩ := succeeds
      exact ih.rotated ⟨userId, List.mem_append_left more member⟩

theorem Condemned.recorded (condemned : Condemned log hash) :
    ∃ userId presented, .issued hash userId presented ∈ log := by
  cases condemned with
  | before completed issued =>
      rw [completed]
      exact ⟨_, _, List.mem_append_left _ issued⟩
  | rotated _ succeeds =>
      obtain ⟨userId, member⟩ := succeeds
      exact ⟨userId, _, member⟩

end Records

section Commit

variable {store : IdentityStore} {draft : IdentityDraft} {answer : SessionAnswer}

/-- Who succeeds whom after a commit. -/
theorem Drafted.succeeds (drafted : Drafted answer store draft) {presented hash : String}
    (succeeds : Succeeds (store.under draft).log presented hash) :
    Succeeds store.log presented hash ∨
      answer.presented? = some presented ∧ ∃ userId, answer.token? = some (hash, userId) := by
  obtain ⟨userId, member⟩ := succeeds
  rcases drafted.mem_log.mp member with old | new
  · exact .inl ⟨userId, old⟩
  · obtain ⟨issued, same⟩ := SessionAnswer.issued_mem_entries.mp new
    exact .inr ⟨same.symm, userId, issued⟩

theorem WellFormed.owns_successor (well : WellFormed store) {presented hash : String} {userId : Nat}
    (owns : Owns userId presented store) (succeeds : Succeeds store.log presented hash) :
    Owns userId hash store := by
  obtain ⟨owner, member⟩ := succeeds
  obtain ⟨old, found, user, -⟩ := well.presented hash owner presented member
  obtain ⟨token, here, same⟩ := well.stored hash owner (some presented) member
  obtain ⟨other, there, mine⟩ := owns
  cases there.symm.trans found
  exact ⟨token, here, by rw [same, ← user, mine]⟩

/-- What a commit condemns: the successor of a condemned token, and by a reset all
its user has. -/
theorem Drafted.condemned (drafted : Drafted answer store draft) (well : WellFormed store)
    {hash : String} (condemned : Condemned (store.under draft).log hash) :
    Condemned store.log hash ∨
      (∃ presented userId, answer.presented? = some presented ∧ Condemned store.log presented ∧
        answer.token? = some (hash, userId)) ∨
      ∃ userId token, answer.reset? = some (userId, token) ∧ Owns userId hash store := by
  induction condemned with
  | @before earlier later userId reset hash presented completed issued =>
      rw [Store.under_log, drafted.entries] at completed
      rcases List.append_eq_append_iff.mp completed with ⟨others, rfl, split⟩ | ⟨others, old, split⟩
      · -- The reset is the one that commits here, and the token was issued before.
        cases SessionAnswer.reset_first split
        have reset_here : .resetCompleted userId reset ∈ answer.entries := by simp [split]
        rw [List.append_nil] at issued
        obtain ⟨token, here, user⟩ := well.stored hash userId presented issued
        exact .inr (.inr ⟨userId, reset, SessionAnswer.reset_mem_entries.mp reset_here,
          token, here, user⟩)
      · cases others with
        | nil =>
            have first : answer.entries = .resetCompleted userId reset :: later := split.symm
            have reset_here : .resetCompleted userId reset ∈ answer.entries := by simp [first]
            rw [List.append_nil] at old
            obtain ⟨token, here, user⟩ := well.stored hash userId presented (old ▸ issued)
            exact .inr (.inr ⟨userId, reset, SessionAnswer.reset_mem_entries.mp reset_here,
              token, here, user⟩)
        | cons head rest =>
            cases split
            exact .inl (.before old issued)
  | @rotated presented hash _ succeeds ih =>
      rcases drafted.succeeds succeeds with past | ⟨rotates, owner, issued⟩
      · rcases ih with condemned | ⟨_, userId, _, _, new⟩ | ⟨userId, token, reset, owns⟩
        · exact .inl (condemned.rotated past)
        · -- What is issued only now has no successor on record.
          obtain ⟨user, member⟩ := past
          obtain ⟨old, found, -⟩ := well.presented hash user presented member
          rw [(drafted.issued presented userId new).1] at found
          cases found
        · exact .inr (.inr ⟨userId, token, reset, well.owns_successor owns past⟩)
      · rcases ih with condemned | ⟨_, userId, _, _, new⟩ | ⟨userId, token, reset, -⟩
        · exact .inr (.inl ⟨presented, owner, rotates, condemned, issued⟩)
        · obtain ⟨was, -, found, -⟩ := drafted.presented presented hash owner rotates issued
          rw [(drafted.issued presented userId new).1] at found
          cases found
        · rw [SessionAnswer.unpresented_of_reset reset] at rotates
          cases rotates

/-- A token that is unrevoked after a commit was before, unless it is new. -/
theorem Drafted.unrevoked (drafted : Drafted answer store draft) {hash : String}
    (unrevoked : Unrevoked (store.under draft) hash) :
    draft.rows (.refreshToken hash) = none ∧ Unrevoked store hash ∨
      ∃ userId, answer.token? = some (hash, userId) := by
  obtain ⟨token, found, active⟩ := unrevoked
  rcases Store.under_rows_eq_some found with own | ⟨unwritten, here⟩
  · rcases drafted.tokens hash token own with ⟨old, -, overwrites, -⟩ | ⟨issued, -⟩
    · have revoked := overwrites.revoked
      rw [active] at revoked
      cases revoked
    · exact .inr issued
  · exact .inl ⟨unwritten, token, here, active⟩

theorem sessionsEnded_commit_iff (request : SessionRequest) (well : WellFormed store)
    (ended : SessionsEnded store) (drafted : Drafted answer store draft) :
    SessionsEnded (store.under draft) ↔ EndsSessions request answer store draft := by
  constructor
  · intro after
    refine ⟨fun presented rotates condemned => ?_, fun userId token reset hash owns active => ?_⟩
    · obtain ⟨hash, userId, issued⟩ := SessionAnswer.token_of_presented rotates
      obtain ⟨-, new, written, -, active⟩ := drafted.issued hash userId issued
      have member : .issued hash userId (some presented) ∈ (store.under draft).log :=
        drafted.mem_log.mpr (.inr (SessionAnswer.issued_mem_entries.mpr ⟨issued, rotates.symm⟩))
      have inherited : Condemned (store.under draft).log hash :=
        Condemned.rotated condemned.mono ⟨userId, member⟩
      exact after hash inherited ⟨new, Store.under_rows_of_some written, active⟩
    · cases written : draft.rows (.refreshToken hash) with
      | some row => exact ⟨row, rfl⟩
      | none =>
          exfalso
          obtain ⟨old, found, user⟩ := owns
          obtain ⟨presented, issued⟩ := well.logged hash old found
          obtain ⟨rest, first⟩ := SessionAnswer.entries_of_reset reset
          have condemned : Condemned (store.under draft).log hash := by
            rw [Store.under_log, drafted.entries, first]
            exact .before rfl (user ▸ issued)
          obtain ⟨token, here, unrevoked⟩ := active
          exact after hash condemned
            ⟨token, (Store.under_rows_of_none written).trans here, unrevoked⟩
  · rintro ⟨rotation, reset⟩ hash condemned active
    rcases drafted.unrevoked active with ⟨unwritten, active⟩ | ⟨owner, new⟩
    · rcases drafted.condemned well condemned with past | ⟨_, _, rotates, doomed, _⟩ |
        ⟨userId, token, completed, owns⟩
      · exact ended hash past active
      · exact rotation _ rotates doomed
      · obtain ⟨row, written⟩ := reset userId token completed hash owns active
        rw [unwritten] at written
        cases written
    · have vacant := (drafted.issued hash owner new).1
      rcases drafted.condemned well condemned with past | ⟨_, _, rotates, doomed, _⟩ |
        ⟨userId, token, completed, old, found, -⟩
      · obtain ⟨userId, presented, member⟩ := past.recorded
        obtain ⟨old, found, -⟩ := well.stored hash userId presented member
        rw [vacant] at found
        cases found
      · exact rotation _ rotates doomed
      · rw [vacant] at found
        cases found

/-- No session survives a reset, throughout a run of requests, exactly if neither a
rotation nor a reset commits past the other. -/
theorem reset_ends_sessions_iff (settings : IdentitySettings) (well : WellFormed store)
    (ended : SessionsEnded store) (actions : List (Action SessionRequest)) :
    (Runs.Always (sessionStep settings) (fun system => SessionsEnded system.committed)
        (System.idle store) actions ↔
      Runs.Guarded (sessionStep settings) (Contract.CommitsMeet EndsSessions)
        (System.idle store) actions) ∧
    (Runs.Guarded (sessionStep settings) (Contract.CommitsMeet EndsSessions)
        (System.idle store) actions →
      Runs.Always (sessionStep settings) (fun system => system.Quiet → SessionsEnded system.committed)
        (System.idle store) actions) := by
  have sound : sessionContract.Sound (System.idle store : SessionSystem) := .idle well
  have started : ∀ action ∈ actions, action.Starts sessionContract.admissible := by
    intro action _
    cases action <;> trivial
  have exactly : Runs.Always (sessionStep settings) (fun system => SessionsEnded system.committed)
      (System.idle store) actions ↔ Runs.Guarded (sessionStep settings)
        (Contract.CommitsMeet EndsSessions) (System.idle store) actions := by
    refine sound.always_iff_commits (sessionContract_serves settings) started ?_ ?_ ended
    · exact fun _ _ _ _ _ => trivial
    · exact fun request answer store draft valid ended commits =>
        sessionsEnded_commit_iff request valid ended commits.1
  exact ⟨exactly, fun met => (exactly.mpr met).mono _ fun _ ended _ => ended⟩

end Commit

/-! One user with one session, who resets the password. -/

theorem signedIn_sessionsEnded : SessionsEnded signedIn := by
  intro hash condemned
  exfalso
  induction condemned with
  | @before earlier later userId reset hash presented completed issued =>
      have member : .resetCompleted userId reset ∈ signedIn.log := by simp [completed]
      exact absurd member (by simp [signedIn, signingIn, noSessions])
  | rotated _ _ ih => exact ih

theorem signedIn_rows_of_ne {hash : String} (other : hash ≠ "first") :
    signedIn.rows (.refreshToken hash) = none := by
  simp [signedIn, signingIn, noSessions, Store.under, put_token_other _ _ other]

/-- The reset commits before anyone refreshes again. -/
def resetRun : List (Action SessionRequest) :=
  [.start 1 (.requestPasswordReset 1 "reset" 5), .advance 1, .commit 1,
    .start 2 (.resetPassword "reset" "password" "second" 10), .advance 2, .advance 2, .advance 2,
    .advance 2, .advance 2, .advance 2, .advance 2, .advance 2, .advance 2, .commit 2,
    .start 3 (.refresh "first" "third" 20), .advance 3, .advance 3, .advance 3, .commit 3]

theorem reset_ends_sessions_iff_alone :
    Runs.Always (sessionStep sampleSettings) (fun system => system.Quiet →
      SessionsEnded system.committed) (System.idle signedIn) resetRun := by
  apply (reset_ends_sessions_iff sampleSettings signedIn_wellFormed signedIn_sessionsEnded _).2
  refine ⟨trivial, trivial, ?_, trivial, trivial, trivial, trivial, trivial, trivial, trivial,
    trivial, trivial, trivial, ?_, trivial, trivial, trivial, trivial, ?_, trivial⟩
  · intro session answer here finished
    cases here
    cases finished
    exact ⟨fun _ rotates => (by cases rotates), fun _ _ completed => (by cases completed)⟩
  · intro session answer here finished
    cases here
    cases finished
    refine ⟨fun _ rotates => (by cases rotates), fun userId token completed hash owns active => ?_⟩
    by_cases first : hash = "first"
    · subst first
      exact ⟨_, rfl⟩
    · obtain ⟨token, found, -⟩ := active
      have nobody := signedIn_rows_of_ne first
      exact absurd (nobody.symm.trans found) (by simp)
  · intro session answer here finished
    cases here
    cases finished
    exact ⟨fun _ rotates => (by cases rotates), fun _ _ completed => (by cases completed)⟩

/-! The refresh has inserted the successor before the reset reads the sessions it
revokes; it waits for the reset's lock on the presented token and then commits. -/

def racingReset : List (Action SessionRequest) :=
  [.start 1 (.requestPasswordReset 1 "reset" 5), .advance 1, .commit 1,
    .start 3 (.refresh "first" "third" 10), .advance 3, .advance 3, .advance 3, .advance 3,
    .advance 3,
    .start 2 (.resetPassword "reset" "password" "second" 10), .advance 2, .advance 2, .advance 2,
    .advance 2, .advance 2, .advance 2, .advance 2, .advance 2, .advance 2, .commit 2,
    .advance 3, .commit 3]

theorem session_survives_reset :
    WellFormed signedIn ∧ SessionsEnded signedIn ∧
      ¬Runs.Always (sessionStep sampleSettings) (fun system => system.Quiet →
        SessionsEnded system.committed) (System.idle signedIn) racingReset := by
  refine ⟨signedIn_wellFormed, signedIn_sessionsEnded, fun always => ?_⟩
  have last := always.last (sessionStep sampleSettings)
  have quiet :
      (Runs.run (sessionStep sampleSettings) (System.idle signedIn) racingReset).Quiet := by
    intro id
    by_cases first : id = 1
    · subst first
      rfl
    by_cases second : id = 2
    · subst second
      rfl
    by_cases third : id = 3
    · subst third
      rfl
    apply run_vacant
    · simp [racingReset, Ne.symm first, Ne.symm second, Ne.symm third]
    · rfl
  have log : (Runs.run (sessionStep sampleSettings) (System.idle signedIn)
      racingReset).committed.log =
        [.issued "first" 1 none, .resetCompleted 1 "reset", .issued "second" 1 none,
          .issued "third" 1 (some "first")] := by
    decide +kernel
  have begun : Condemned [.issued "first" 1 none, .resetCompleted 1 "reset",
      .issued "second" 1 none, .issued "third" 1 (some "first")] "first" :=
    @Condemned.before _ [.issued "first" 1 none] _ 1 "reset" "first" none rfl (by simp)
  refine last quiet "third" ?_ ⟨_, rfl, rfl⟩
  rw [log]
  exact begun.rotated ⟨1, by simp⟩

end SynapseSaas.Identity
