import SynapseSaas.Identity.SessionSafety
import Mathlib.Data.List.Pairwise
import Mathlib.Logic.Relation

/-! Rotation chains: a token is followed by the one it was presented for. -/

set_option autoImplicit false

namespace SynapseSaas.Identity

open ReadCommitted IdentityService Relation

/-- The token that was redeemed for the one an entry issues. -/
def IdentityEntry.presented? : IdentityEntry → Option String
  | .issued _ _ presented => presented
  | .resetCompleted .. => none

theorem IdentityEntry.presented_eq_some {entry : IdentityEntry} {presented : String}
    (redeemed : entry.presented? = some presented) :
    ∃ hash userId, entry = .issued hash userId (some presented) := by
  cases entry with
  | issued hash userId old =>
      cases redeemed
      exact ⟨hash, userId, rfl⟩
  | resetCompleted userId hash => cases redeemed

/-- The token was issued to whoever presented the other. -/
def Succeeds (log : List IdentityEntry) (presented hash : String) : Prop :=
  ∃ userId, .issued hash userId (some presented) ∈ log

def Unrevoked (store : IdentityStore) (hash : String) : Prop :=
  ∃ token, store.rows (.refreshToken hash) = some token ∧ token.revokedAt = none

/-- No token was redeemed twice, and of the tokens that descend from one at most
one is unrevoked. -/
structure SingleUse (store : IdentityStore) : Prop where
  redeemed : (store.log.filterMap IdentityEntry.presented?).Nodup
  chains : ∀ root first second, ReflTransGen (Succeeds store.log) root first →
    ReflTransGen (Succeeds store.log) root second →
    Unrevoked store first → Unrevoked store second → first = second

/-- The token a rotation presented is not replaced yet where the rotation commits. -/
def RotatesCurrent (_ : SessionRequest) (answer : SessionAnswer) (store : IdentityStore)
    (_ : IdentityDraft) : Prop :=
  ∀ presented, answer.presented? = some presented →
    ∀ token, store.rows (.refreshToken presented) = some token → token.replacedBy = none

theorem SessionAnswer.presented_entries (answer : SessionAnswer) :
    answer.entries.filterMap IdentityEntry.presented? = answer.presented?.toList := by
  cases answer <;> rfl

section Chains

variable {store : IdentityStore}

/-- A stored token is on record as redeemed exactly if its row names a successor. -/
theorem WellFormed.redeemed_iff (well : WellFormed store) {hash : String} :
    hash ∈ store.log.filterMap IdentityEntry.presented? ↔
      ∃ token, store.rows (.refreshToken hash) = some token ∧ token.replacedBy.isSome := by
  constructor
  · intro redeemed
    obtain ⟨entry, member, same⟩ := List.mem_filterMap.mp redeemed
    obtain ⟨successor, userId, rfl⟩ := IdentityEntry.presented_eq_some same
    obtain ⟨token, found, -, -, replaced⟩ := well.presented successor userId hash member
    exact ⟨token, found, replaced⟩
  · rintro ⟨token, found, replaced⟩
    obtain ⟨successor, userId, member⟩ := well.replaced hash token found replaced
    exact List.mem_filterMap.mpr ⟨_, member, rfl⟩

theorem WellFormed.revoked_of_succeeds (well : WellFormed store) {presented hash : String}
    (succeeds : Succeeds store.log presented hash) : ¬Unrevoked store presented := by
  obtain ⟨userId, member⟩ := succeeds
  obtain ⟨token, found, -, revoked, -⟩ := well.presented hash userId presented member
  rintro ⟨other, here, unrevoked⟩
  cases here.symm.trans found
  rw [unrevoked] at revoked
  cases revoked

/-- A token redeemed once has one successor. -/
theorem succeeds_rightUnique {log : List IdentityEntry}
    (redeemed : (log.filterMap IdentityEntry.presented?).Nodup) :
    Relator.RightUnique (Succeeds log) := by
  rintro presented first second ⟨user, left⟩ ⟨owner, right⟩
  have apart := List.pairwise_filterMap.mp redeemed
  by_contra distinct
  have different : IdentityEntry.issued first user (some presented) ≠
      .issued second owner (some presented) := by simp [distinct]
  have symmetric : Std.Symm fun entry other : IdentityEntry =>
      ∀ old, entry.presented? = some old → ∀ new, other.presented? = some new → old ≠ new :=
    ⟨fun _ _ apart old here new there => (apart new there old here).symm⟩
  exact apart.forall left right different presented rfl presented rfl rfl

/-- The chain of a token is a line, and only its end may be unrevoked. -/
theorem WellFormed.singleUse (well : WellFormed store)
    (redeemed : (store.log.filterMap IdentityEntry.presented?).Nodup) : SingleUse store where
  redeemed := redeemed
  chains root first second left right active other := by
    have last {earlier later : String} (chain : ReflTransGen (Succeeds store.log) earlier later)
        (unrevoked : Unrevoked store earlier) : earlier = later := by
      rcases chain.cases_head with same | ⟨next, succeeds, -⟩
      · exact same
      · exact absurd unrevoked (well.revoked_of_succeeds succeeds)
    rcases ReflTransGen.total_of_right_unique (succeeds_rightUnique redeemed) left right with
      chain | chain
    · exact last chain active
    · exact (last chain other).symm

/-- A commit keeps tokens single-use exactly if it redeems none that is replaced. -/
theorem singleUse_commit_iff (request : SessionRequest) {answer : SessionAnswer}
    {draft : IdentityDraft} (well : WellFormed store) (single : SingleUse store)
    (drafted : Drafted answer store draft) :
    SingleUse (store.under draft) ↔ RotatesCurrent request answer store draft := by
  have redeemed_after : ((store.under draft).log.filterMap IdentityEntry.presented?).Nodup ↔
      ∀ presented, answer.presented? = some presented →
        presented ∉ store.log.filterMap IdentityEntry.presented? := by
    rw [Store.under_log, drafted.entries, List.filterMap_append, answer.presented_entries,
      List.nodup_append]
    cases answer.presented? with
    | none => simp [single.redeemed]
    | some presented =>
        constructor
        · rintro ⟨-, -, apart⟩ old same earlier
          cases same
          exact apart presented earlier presented (by simp) rfl
        · intro new
          refine ⟨single.redeemed, by simp, ?_⟩
          intro old earlier other here same
          rw [same, List.mem_singleton.mp here] at earlier
          exact new presented rfl earlier
  constructor
  · intro after presented rotated token found
    have new := redeemed_after.mp after.redeemed presented rotated
    rw [well.redeemed_iff] at new
    by_contra replaced
    exact new ⟨token, found, Option.isSome_iff_ne_none.mpr replaced⟩
  · intro current
    apply (well.commit drafted).singleUse
    refine redeemed_after.mpr fun presented rotated redeemed => ?_
    obtain ⟨token, found, replaced⟩ := well.redeemed_iff.mp redeemed
    rw [current presented rotated token found] at replaced
    cases replaced

/-- Tokens stay single-use throughout a run of requests exactly if every rotation
commits before any other of the same token. -/
theorem refresh_single_use_iff (settings : IdentitySettings) (well : WellFormed store)
    (single : SingleUse store) (actions : List (Action SessionRequest)) :
    Runs.Always (sessionStep settings) (fun system => SingleUse system.committed)
        (System.idle store) actions ↔
      Runs.Guarded (sessionStep settings) (Contract.CommitsMeet RotatesCurrent)
        (System.idle store) actions := by
  have sound : sessionContract.Sound (System.idle store : SessionSystem) := .idle well
  have started : ∀ action ∈ actions, action.Starts sessionContract.admissible := by
    intro action _
    cases action <;> trivial
  refine sound.always_iff_commits (sessionContract_serves settings) started ?_ ?_ single
  · exact fun _ _ _ _ _ => trivial
  · exact fun request answer store draft valid single commits =>
      singleUse_commit_iff request valid single commits.1

end Chains

/-! One user with one session. -/

def sampleSettings : IdentitySettings := ⟨2592000, 10, 1800⟩

def noSessions : IdentityStore := ⟨fun _ => none, []⟩

theorem noSessions_wellFormed : WellFormed noSessions where
  issuedOnce := List.nodup_nil
  stored _ _ _ member := by cases member
  logged _ _ found := by cases found
  presented _ _ _ member := by cases member
  replaced _ _ found := by cases found
  consumed _ _ member := by cases member
  used _ _ found := by cases found

def sampleToken : RefreshToken := ⟨1, none, 1000, none, none⟩

def signingIn : IdentityDraft :=
  ((Draft.empty.put (.user 1) ⟨none, true⟩).put (.refreshToken "first") sampleToken).add
    (.issued "first" 1 none)

def signedIn : IdentityStore := noSessions.under signingIn

theorem signedIn_wellFormed : WellFormed signedIn := by
  have account : Written none none none noSessions (Draft.empty.put (.user 1) ⟨none, true⟩) :=
    (Written.blank fun _ => rfl).account 1 _
  have written : Written (some ("first", 1)) none none noSessions
      ((Draft.empty.put (.user 1) ⟨none, true⟩).put (.refreshToken "first") sampleToken) :=
    account.issue rfl rfl ⟨rfl, rfl⟩
  have drafted : Drafted (.issued "first" 1) noSessions signingIn := by
    refine ⟨⟨written.tokens, written.issued, written.resets, written.completed⟩, rfl, ?_⟩
    intro old hash userId presented
    cases presented
  exact noSessions_wellFormed.commit drafted

theorem signedIn_singleUse : SingleUse signedIn :=
  signedIn_wellFormed.singleUse (by decide)

/-- The second refresh starts when the first has committed. -/
def turnTakingRun : List (Action SessionRequest) :=
  [.start 1 (.refresh "first" "second" 10), .advance 1, .advance 1, .advance 1, .advance 1,
    .advance 1, .advance 1, .commit 1,
    .start 2 (.refresh "first" "third" 11), .advance 2, .commit 2]

theorem refresh_single_use_iff_turnTaking :
    Runs.Always (sessionStep sampleSettings) (fun system => SingleUse system.committed)
      (System.idle signedIn) turnTakingRun := by
  apply (refresh_single_use_iff sampleSettings signedIn_wellFormed signedIn_singleUse _).mpr
  refine ⟨trivial, trivial, trivial, trivial, trivial, trivial, trivial, ?_, trivial, trivial, ?_,
    trivial⟩
  · intro session answer here finished presented rotated token found
    cases here
    cases finished
    cases rotated
    cases found
    rfl
  · intro session answer here finished
    cases here
    cases finished

/-! Both requests read the token before either has committed; the second waits for
the first's lock and then overwrites what it left. -/

def racingRefreshes : List (Action SessionRequest) :=
  [.start 1 (.refresh "first" "second" 10), .advance 1, .advance 1,
    .start 2 (.refresh "first" "third" 10), .advance 2, .advance 2,
    .advance 1, .advance 1, .advance 1, .advance 1, .commit 1,
    .advance 2, .advance 2, .advance 2, .advance 2, .commit 2]

theorem refresh_token_redeemed_twice :
    WellFormed signedIn ∧ SingleUse signedIn ∧
      ¬Runs.Always (sessionStep sampleSettings) (fun system => SingleUse system.committed)
        (System.idle signedIn) racingRefreshes := by
  refine ⟨signedIn_wellFormed, signedIn_singleUse, fun always => ?_⟩
  have last := always.last (sessionStep sampleSettings)
  exact absurd last.redeemed (by decide +kernel)

end SynapseSaas.Identity
