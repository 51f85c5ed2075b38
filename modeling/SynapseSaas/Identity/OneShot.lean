import SynapseSaas.Identity.LoginState
import SynapseSaas.Identity.Rotation

/-! Credentials that are good for one use: the token of a password reset and the
state of a single sign-on. -/

set_option autoImplicit false

namespace SynapseSaas.Identity

open ReadCommitted IdentityService

def IdentityEntry.reset? : IdentityEntry → Option String
  | .issued .. => none
  | .resetCompleted _ hash => some hash

/-- No reset token was used twice. -/
def SpentOnce (store : IdentityStore) : Prop := (store.log.filterMap IdentityEntry.reset?).Nodup

/-- The token of a reset is not used yet where the reset commits. -/
def SpendsUnused (_ : SessionRequest) (answer : SessionAnswer) (store : IdentityStore)
    (_ : IdentityDraft) : Prop :=
  ∀ userId token, answer.reset? = some (userId, token) →
    ∀ row : PasswordResetToken, store.rows (.resetToken token) = some row → row.usedAt = none

theorem SessionAnswer.reset_entries (answer : SessionAnswer) :
    answer.entries.filterMap IdentityEntry.reset? = (answer.reset?.map (·.2)).toList := by
  cases answer <;> rfl

section Resets

variable {store : IdentityStore}

theorem WellFormed.spent_iff (well : WellFormed store) {hash : String} :
    hash ∈ store.log.filterMap IdentityEntry.reset? ↔
      ∃ row : PasswordResetToken, store.rows (.resetToken hash) = some row ∧ row.usedAt.isSome := by
  constructor
  · intro spent
    obtain ⟨entry, member, same⟩ := List.mem_filterMap.mp spent
    cases entry with
    | issued other userId presented => cases same
    | resetCompleted userId other =>
        cases same
        exact well.consumed userId hash member
  · rintro ⟨row, found, used⟩
    obtain ⟨userId, member⟩ := well.used hash row found used
    exact List.mem_filterMap.mpr ⟨_, member, rfl⟩

theorem spentOnce_commit_iff (request : SessionRequest) {answer : SessionAnswer}
    {draft : IdentityDraft} (well : WellFormed store) (spent : SpentOnce store)
    (drafted : Drafted answer store draft) :
    SpentOnce (store.under draft) ↔ SpendsUnused request answer store draft := by
  rw [SpentOnce, Store.under_log, drafted.entries, List.filterMap_append, answer.reset_entries,
    List.nodup_append]
  cases completed : answer.reset? with
  | none =>
      refine iff_of_true ⟨spent, List.nodup_nil, fun _ _ _ member => by cases member⟩ ?_
      intro userId token impossible
      rw [completed] at impossible
      cases impossible
  | some reset =>
      obtain ⟨userId, token⟩ := reset
      have unused_iff : SpendsUnused request answer store draft ↔
          token ∉ store.log.filterMap IdentityEntry.reset? := by
        rw [well.spent_iff]
        constructor
        · rintro unused ⟨row, found, used⟩
          rw [unused userId token completed row found] at used
          cases used
        · intro unspent owner other same row found
          rw [completed] at same
          cases same
          by_contra used
          exact unspent ⟨row, found, Option.isSome_iff_ne_none.mpr used⟩
      rw [unused_iff]
      constructor
      · rintro ⟨-, -, apart⟩ earlier
        exact apart token earlier token (by simp) rfl
      · intro new
        refine ⟨spent, by simp, ?_⟩
        intro old earlier other here same
        rw [same, List.mem_singleton.mp here] at earlier
        exact new earlier

/-- A reset token is used at most once, throughout a run of requests, exactly if
every reset commits before any other with its token. -/
theorem spentOnce_iff (settings : IdentitySettings) (well : WellFormed store)
    (spent : SpentOnce store) (actions : List (Action SessionRequest)) :
    Runs.Always (sessionStep settings) (fun system => SpentOnce system.committed)
        (System.idle store) actions ↔
      Runs.Guarded (sessionStep settings) (Contract.CommitsMeet SpendsUnused)
        (System.idle store) actions := by
  have sound : sessionContract.Sound (System.idle store : SessionSystem) := .idle well
  have started : ∀ action ∈ actions, action.Starts sessionContract.admissible := by
    intro action _
    cases action <;> trivial
  refine sound.always_iff_commits (sessionContract_serves settings) started ?_ ?_ spent
  · exact fun _ _ _ _ _ => trivial
  · exact fun request answer store draft valid spent commits =>
      spentOnce_commit_iff request valid spent commits.1

/-- Both kinds of credential are good for one use exactly in the runs in which no
two requests that passed the check consume one between them. -/
theorem credentials_one_shot_iff (settings : IdentitySettings) (well : WellFormed store)
    (spent : SpentOnce store) {redis : Redis} (stored : StatesStored redis) :
    (∀ actions, Runs.Always (sessionStep settings) (fun system => SpentOnce system.committed)
        (System.idle store) actions ↔
      Runs.Guarded (sessionStep settings) (Contract.CommitsMeet SpendsUnused)
        (System.idle store) actions) ∧
    ∀ moves, Runs.Always loginStep LoginSystem.OneShot ⟨redis, []⟩ moves ↔
      Runs.Guarded loginStep (fun system move => move.Undisturbed system) ⟨redis, []⟩ moves :=
  ⟨spentOnce_iff settings well spent, oneShot_iff stored⟩

end Resets

/-! One user who has asked for a reset, and one pending login. -/

def sampleLogins : Redis :=
  ((oidcStart redisBackend "state" "pending").run (World.initial ())).2.redis

theorem sampleLogins_stored : StatesStored sampleLogins := by
  have nothing : StatesStored (World.initial ()).redis :=
    ⟨fun _ _ found => (by cases found), fun _ _ _ found => (by cases found)⟩
  exact nothing.start "state" "pending"

def sampleReturn : OidcReturn := ⟨some "code", some "state", none⟩

/-- The second reset starts when the first has committed. -/
def repeatedReset : List (Action SessionRequest) :=
  [.start 1 (.requestPasswordReset 1 "reset" 5), .advance 1, .commit 1,
    .start 2 (.resetPassword "reset" "password" "second" 10), .advance 2, .advance 2, .advance 2,
    .advance 2, .advance 2, .advance 2, .advance 2, .advance 2, .advance 2, .commit 2,
    .start 3 (.resetPassword "reset" "another" "third" 11), .advance 3, .commit 3]

/-- The second callback arrives when the first has its login. -/
def repeatedCallback : List LoginMove :=
  [.arrive sampleReturn, .advance 0, .advance 0, .advance 0,
    .arrive sampleReturn, .advance 1, .advance 1]

theorem credentials_one_shot_iff_repeated :
    Runs.Always (sessionStep sampleSettings) (fun system => SpentOnce system.committed)
        (System.idle signedIn) repeatedReset ∧
      Runs.Always loginStep LoginSystem.OneShot ⟨sampleLogins, []⟩ repeatedCallback := by
  have spent : SpentOnce signedIn := by unfold SpentOnce; decide
  obtain ⟨resets, callbacks⟩ := credentials_one_shot_iff sampleSettings signedIn_wellFormed spent
    sampleLogins_stored
  constructor
  · apply (resets repeatedReset).mpr
    refine ⟨trivial, trivial, ?_, trivial, trivial, trivial, trivial, trivial, trivial, trivial,
      trivial, trivial, trivial, ?_, trivial, trivial, ?_, trivial⟩
    · intro session answer here finished userId token completed
      cases here
      cases finished
      cases completed
    · intro session answer here finished userId token completed row found
      cases here
      cases finished
      cases completed
      cases found
      rfl
    · intro session answer here finished
      cases here
      cases finished
  · apply (callbacks repeatedCallback).mpr
    refine ⟨trivial, ?_, ?_, ?_, trivial, ?_, ?_, trivial⟩
    · intro state version raw here
      cases here
    · intro state version raw here
      cases here
    · intro state version raw here
      cases here
      rfl
    · intro state version raw here
      cases here
    · intro state version raw here
      cases here

/-! Both requests pass the check before either consumes the credential. -/

def racingResets : List (Action SessionRequest) :=
  [.start 1 (.requestPasswordReset 1 "reset" 5), .advance 1, .commit 1,
    .start 2 (.resetPassword "reset" "password" "second" 10), .advance 2, .advance 2, .advance 2,
    .start 3 (.resetPassword "reset" "another" "third" 10), .advance 3, .advance 3, .advance 3,
    .advance 2, .advance 2, .advance 2, .advance 2, .advance 2, .advance 2, .commit 2,
    .advance 3, .advance 3, .advance 3, .advance 3, .advance 3, .advance 3, .commit 3]

def racingCallbacks : List LoginMove :=
  [.arrive sampleReturn, .arrive sampleReturn, .advance 0, .advance 0, .advance 1, .advance 1,
    .advance 0, .advance 1]

theorem credentials_spent_twice :
    WellFormed signedIn ∧ SpentOnce signedIn ∧ StatesStored sampleLogins ∧
      ¬Runs.Always (sessionStep sampleSettings) (fun system => SpentOnce system.committed)
        (System.idle signedIn) racingResets ∧
      ¬Runs.Always loginStep LoginSystem.OneShot ⟨sampleLogins, []⟩ racingCallbacks := by
  have spent : SpentOnce signedIn := by unfold SpentOnce; decide
  refine ⟨signedIn_wellFormed, spent, sampleLogins_stored, fun always => ?_, fun always => ?_⟩
  · have last := always.last (sessionStep sampleSettings)
    unfold SpentOnce at last
    exact absurd last (by decide +kernel)
  · have last := always.last loginStep "state"
    exact absurd last (by decide +kernel)

end SynapseSaas.Identity
