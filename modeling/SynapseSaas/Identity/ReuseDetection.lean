import SynapseSaas.Foundation.Alone
import SynapseSaas.Identity.Rotation

/-! Whom the detection of reuse punishes. A revoked token is taken for a stolen one unless
it was replaced a moment ago, whatever it was that revoked it. -/

set_option autoImplicit false

namespace SynapseSaas.Identity

open ReadCommitted IdentityService

/-- One request after another. -/
def requestStep (settings : IdentitySettings) (store : IdentityStore) (request : SessionRequest) :
    IdentityStore :=
  (request.script settings).after .wide store

/-- The token was rotated, longer ago than the grace period. -/
def ReusedLate (settings : IdentitySettings) (store : IdentityStore) (presented : String)
    (now : Int) : Prop :=
  ∃ token revokedAt, store.rows (.refreshToken presented) = some token ∧
    token.revokedAt = some revokedAt ∧ token.replacedBy.isSome ∧
    settings.refreshReuseGrace < now - revokedAt

/-- A refresh revokes other tokens than the one it rotates only where it detects reuse. -/
def PunishesReuseOnly (settings : IdentitySettings) (store : IdentityStore) :
    SessionRequest → Prop
  | .refresh presented successor now => ∀ hash, hash ≠ presented → Unrevoked store hash →
      ¬ Unrevoked (requestStep settings store (.refresh presented successor now)) hash →
      ReusedLate settings store presented now
  | _ => True

/-- A token without a successor is presented revoked only when its user has no session left. -/
def LeavesSessions (store : IdentityStore) : SessionRequest → Prop
  | .refresh presented _ now => ∀ token, store.rows (.refreshToken presented) = some token →
      now ≤ token.expiresAt → token.revokedAt.isSome → token.replacedBy = none →
      unrevokedTokens token.userId store = []
  | _ => True

section Statements

variable {committed : IdentityStore} {draft : IdentityDraft} {key : IdentityKey}

theorem alone_update {change : key.Row → key.Row} {row : key.Row}
    (found : (committed.under draft).rows key = some row) :
    (update key change).alone .wide committed draft = .ok ((), draft.put key (change row)) := by
  have changed : Option.map change ((committed.under draft).rows key) = some (change row) := by
    rw [found]
    rfl
  rw [update, Script.alone_bind, Script.alone_execute_some rfl changed rfl]
  rfl

theorem alone_insert {row : key.Row} :
    (insert key row).alone .wide committed draft =
      if ((committed.under draft).rows key).isSome then .error (.other .integrity)
      else .ok ((), draft.put key row) := by
  unfold IdentityService.insert
  rw [Script.alone_bind]
  split
  · rename_i taken
    rw [Script.alone_execute_none rfl (by rw [if_pos taken])]
    rfl
  · rename_i free
    rw [Script.alone_execute_some rfl (by rw [if_neg free]) rfl]
    rfl

theorem alone_issueTokens {settings : IdentitySettings} {userId : Nat} {organizationId : Option Nat}
    {hash : String} {now : Int} {presented : Option String} :
    (issueTokens settings userId organizationId hash now presented).alone .wide committed draft =
      if ((committed.under draft).rows (.refreshToken hash)).isSome then .error (.other .integrity)
      else .ok ((), (draft.put (.refreshToken hash)
        ⟨userId, organizationId, now + settings.refreshTokenTtl, none, none⟩).add
          (.issued hash userId presented)) := by
  rw [issueTokens, Script.alone_bind, alone_insert]
  split <;> rfl

/-- Revoking tokens that are there revokes them, and no other row is written. -/
theorem alone_revokeEach {now : Int} {hashes : List String}
    (stored : ∀ hash ∈ hashes, ∃ token, (committed.under draft).rows (.refreshToken hash) = some token) :
    ∃ results after, (Script.each (fun hash => update (.refreshToken hash) (revoke now)) hashes).alone
        .wide committed draft = .ok (results, after) ∧
      ∀ hash, (committed.under after).rows (.refreshToken hash) =
        if hash ∈ hashes then ((committed.under draft).rows (.refreshToken hash)).map (revoke now)
        else (committed.under draft).rows (.refreshToken hash) := by
  induction hashes generalizing draft with
  | nil => exact ⟨[], draft, rfl, fun _ => by simp⟩
  | cons first rest ih =>
      obtain ⟨⟨token, found⟩, stored⟩ := List.forall_mem_cons.mp stored
      have rows (hash : String) :
          (committed.under (draft.put (.refreshToken first) (revoke now token))).rows
            (.refreshToken hash) =
          if hash = first then some (revoke now token)
          else (committed.under draft).rows (.refreshToken hash) := by
        split
        · rename_i same
          subst same
          exact Store.under_rows_of_some (put_token_self ..)
        · rename_i apart
          simp only [Store.under, put_token_other draft _ apart]
      obtain ⟨results, after, ran, revoked⟩ := @ih
        (draft.put (.refreshToken first) (revoke now token)) (by
          intro hash member
          rw [rows]
          split
          · exact ⟨_, rfl⟩
          · exact stored hash member)
      refine ⟨() :: results, after, ?_, fun hash => ?_⟩
      · rw [Script.each, Script.alone_bind, alone_update found]
        change (_ >>= _ : IdentityScript _).alone _ _ _ = _
        rw [Script.alone_bind, ran]
        rfl
      · rw [revoked, rows]
        by_cases same : hash = first
        · subst same
          simp [found, revoke]
        · simp [same]

theorem mem_unrevokedTokens {userId : Nat} {store : IdentityStore} {hash : String}
    (member : hash ∈ unrevokedTokens userId store) : Unrevoked store hash := by
  obtain ⟨-, unrevoked⟩ := List.mem_filter.mp member
  obtain ⟨token, found, none⟩ := (Option.any_eq_true _ _).mp unrevoked
  exact ⟨token, found, Option.isNone_iff_eq_none.mp none⟩

end Statements

section Refresh

variable {settings : IdentitySettings} {store : IdentityStore} {presented successor : String}
  {now : Int} {token : RefreshToken}

theorem requestStep_of_error {request : SessionRequest} (failure : Failure)
    (failed : (request.script settings).alone .wide store Draft.empty = .error failure) :
    requestStep settings store request = store :=
  Script.after_of_error failed

theorem alone_selectRefreshToken {committed : IdentityStore} {draft : IdentityDraft} :
    (selectRefreshToken presented).alone .wide committed draft =
      .ok ((committed.under draft).rows (.refreshToken presented),
        draft.queried committed.log.length) := rfl

/-- What a refresh with a revoked token does. -/
theorem requestStep_revoked (found : store.rows (.refreshToken presented) = some token)
    (current : now ≤ token.expiresAt) {revokedAt : Int} (revoked : token.revokedAt = some revokedAt) :
    if token.replacedBy.isSome ∧ now - revokedAt ≤ settings.refreshReuseGrace then
      requestStep settings store (.refresh presented successor now) = store
    else ∀ hash, (requestStep settings store (.refresh presented successor now)).rows
        (.refreshToken hash) =
      if hash ∈ unrevokedTokens token.userId store then
        (store.rows (.refreshToken hash)).map (revoke now)
      else store.rows (.refreshToken hash) := by
  obtain ⟨userId, organizationId, expiresAt, revoking, replacedBy⟩ := token
  cases revoked
  have read : (store.under Draft.empty).rows (.refreshToken presented) =
      some ⟨userId, organizationId, expiresAt, some revokedAt, replacedBy⟩ := found
  have reaches : ((SessionRequest.refresh presented successor now).script settings).alone .wide store
      Draft.empty =
        (if replacedBy.isSome ∧ now - revokedAt ≤ settings.refreshReuseGrace then
          refuse .authentication "Refresh token already used"
        else do
          revokeChain userId now
          return .reuseDetected : IdentityScript SessionAnswer).alone .wide store
            (Draft.empty.queried store.log.length) := by
    rw [SessionRequest.script, IdentityService.refresh, Script.alone_bind, alone_selectRefreshToken,
      read]
    change Script.alone _ _ (if expiresAt < now then _ else _) _ = _
    rw [if_neg (not_lt.mpr current)]
  split
  · rename_i recent
    refine requestStep_of_error
      (.domain ⟨.authentication, "Refresh token already used", []⟩) (reaches.trans ?_)
    rw [if_pos recent]
    rfl
  · rename_i late
    rw [if_neg late] at reaches
    obtain ⟨results, after, ran, rows⟩ := @alone_revokeEach store
      ((Draft.empty.queried store.log.length).queried store.log.length) now
      (unrevokedTokens userId store) (by
        intro hash member
        obtain ⟨token, found, -⟩ := mem_unrevokedTokens member
        exact ⟨token, found⟩)
    have ended : ((SessionRequest.refresh presented successor now).script settings).alone .wide store
        Draft.empty = .ok (.reuseDetected, after) := by
      rw [reaches, Script.alone_bind, revokeChain, Script.alone_bind, Script.alone_select]
      have same : unrevokedTokens userId (store.under (Draft.empty.queried store.log.length)) =
          unrevokedTokens userId store := by
        simp [unrevokedTokens, Store.under]
      rw [same]
      change (Script.alone _ _ (_ >>= _) _ >>= _) = _
      rw [Script.alone_bind, ran]
      rfl
    intro hash
    rw [requestStep, Script.after_of_ok ended]
    exact rows hash

/-- A rotation leaves every other token of the store as it is. -/
theorem requestStep_rotation (found : store.rows (.refreshToken presented) = some token)
    (unrevoked : token.revokedAt = none) {hash : String} (apart : hash ≠ presented)
    {other : RefreshToken} (here : store.rows (.refreshToken hash) = some other) :
    (requestStep settings store (.refresh presented successor now)).rows (.refreshToken hash) =
      some other := by
  have keeps : ∀ answer after,
      ((SessionRequest.refresh presented successor now).script settings).alone .wide store
        Draft.empty = .ok (answer, after) →
      (store.under after).rows (.refreshToken hash) = some other := by
    intro answer after ran
    obtain ⟨userId, organizationId, expiresAt, revoking, replacedBy⟩ := token
    cases unrevoked
    have read : (store.under Draft.empty).rows (.refreshToken presented) =
        some ⟨userId, organizationId, expiresAt, none, replacedBy⟩ := found
    rw [SessionRequest.script, IdentityService.refresh, Script.alone_bind, alone_selectRefreshToken,
      read] at ran
    change Script.alone _ _ (if expiresAt < now then _ else _) _ = _ at ran
    split at ran
    · cases ran
    · dsimp only at ran
      rw [Script.alone_bind, Script.alone_select] at ran
      change Script.alone _ _ _ _ = _ at ran
      dsimp only at ran
      split at ran
      · rw [Script.alone_bind, alone_issueTokens] at ran
        split at ran
        · cases ran
        · rename_i free
          have vacant : store.rows (.refreshToken successor) = none := by
            rw [Bool.not_eq_true, Option.isSome_eq_false_iff, Option.isNone_iff_eq_none] at free
            exact (Store.under_rows_eq_none free).2
          have apart_successor : presented ≠ successor := by
            rintro rfl
            cases vacant.symm.trans found
          have apart_other : hash ≠ successor := by
            rintro rfl
            cases vacant.symm.trans here
          change Script.alone _ _ _ _ = _ at ran
          rw [Script.alone_bind, alone_selectRefreshToken] at ran
          change Script.alone _ _ _ _ = _ at ran
          split at ran
          · cases ran
          · have still : (store.under (((((Draft.empty.queried store.log.length).queried
                store.log.length).put (.refreshToken successor)
                  ⟨userId, organizationId, now + settings.refreshTokenTtl, none, none⟩).add
                    (.issued successor userId (some presented))).queried
                      store.log.length)).rows (.refreshToken presented) =
                some ⟨userId, organizationId, expiresAt, none, replacedBy⟩ := by
              rw [Store.under_rows_of_none, found]
              exact put_token_other _ _ apart_successor
            rw [Script.alone_bind, alone_update still] at ran
            cases ran
            rw [Store.under_rows_of_none, here]
            rw [put_token_other _ _ apart]
            exact put_token_other _ _ apart_other
      · cases ran
  rw [requestStep, Script.after]
  split
  · rename_i answer after ran
    exact keeps answer after ran
  · exact here

theorem requestStep_unknown (unknown : store.rows (.refreshToken presented) = none) :
    requestStep settings store (.refresh presented successor now) = store := by
  have read : (store.under Draft.empty).rows (.refreshToken presented) = none := unknown
  apply requestStep_of_error (.domain ⟨.authentication, "Invalid refresh token", []⟩)
  rw [SessionRequest.script, IdentityService.refresh, Script.alone_bind, alone_selectRefreshToken,
    read]
  rfl

theorem requestStep_expired (found : store.rows (.refreshToken presented) = some token)
    (expired : token.expiresAt < now) :
    requestStep settings store (.refresh presented successor now) = store := by
  have read : (store.under Draft.empty).rows (.refreshToken presented) = some token := found
  apply requestStep_of_error (.domain ⟨.authentication, "Refresh token expired", []⟩)
  rw [SessionRequest.script, IdentityService.refresh, Script.alone_bind, alone_selectRefreshToken,
    read]
  change Script.alone _ _ (if token.expiresAt < now then _ else _) _ = _
  rw [if_pos expired]
  rfl

theorem leavesSessions_of_punishes
    (punishes : PunishesReuseOnly settings store (.refresh presented successor now)) :
    LeavesSessions store (.refresh presented successor now) := by
  intro token found current revoked lone
  obtain ⟨revokedAt, revoked⟩ := Option.isSome_iff_exists.mp revoked
  by_contra left
  obtain ⟨hash, member⟩ := List.exists_mem_of_ne_nil _ left
  have chain := @requestStep_revoked settings store presented successor now token found
    current revokedAt revoked
  rw [if_neg (by simp [lone])] at chain
  have before := mem_unrevokedTokens member
  have apart : hash ≠ presented := by
    rintro rfl
    obtain ⟨other, here, none⟩ := before
    cases found.symm.trans here
    cases none.symm.trans revoked
  have ended : ¬ Unrevoked (requestStep settings store (.refresh presented successor now)) hash := by
    rintro ⟨later, here, none⟩
    rw [chain, if_pos member] at here
    obtain ⟨old, -, rfl⟩ := Option.map_eq_some_iff.mp here
    cases none
  obtain ⟨other, _, here, -, replaced, -⟩ := punishes hash apart before ended
  cases found.symm.trans here
  rw [lone] at replaced
  cases replaced

theorem punishes_of_leavesSessions
    (leaves : LeavesSessions store (.refresh presented successor now)) :
    PunishesReuseOnly settings store (.refresh presented successor now) := by
  intro hash apart before ended
  have kept (same : (requestStep settings store (.refresh presented successor now)).rows
      (.refreshToken hash) = store.rows (.refreshToken hash)) :
      ReusedLate settings store presented now := by
    obtain ⟨token, here, none⟩ := before
    exact absurd ⟨token, same.trans here, none⟩ ended
  cases found : store.rows (.refreshToken presented) with
  | none => exact kept (by rw [requestStep_unknown found])
  | some token =>
      by_cases expired : token.expiresAt < now
      · exact kept (by rw [requestStep_expired found expired])
      · have current := not_lt.mp expired
        cases revoked : token.revokedAt with
        | none =>
            obtain ⟨other, here, none⟩ := before
            exact kept ((requestStep_rotation found revoked apart here).trans here.symm)
        | some revokedAt =>
            have chain := @requestStep_revoked settings store presented successor now token
              found current revokedAt revoked
            split at chain
            · exact kept (by rw [chain])
            · rename_i late
              cases replaced : token.replacedBy with
              | none =>
                  have none_left := leaves token found current (by rw [revoked]; rfl) replaced
                  refine kept ?_
                  rw [chain, none_left]
                  exact if_neg List.not_mem_nil
              | some next =>
                  refine ⟨token, revokedAt, found, revoked, by rw [replaced]; rfl, ?_⟩
                  rw [replaced, not_and, not_le] at late
                  exact late rfl

/-- A refresh punishes reuse only exactly where no session is left to punish for less. -/
theorem punishesReuseOnly_iff (settings : IdentitySettings) (store : IdentityStore)
    (request : SessionRequest) :
    PunishesReuseOnly settings store request ↔ LeavesSessions store request := by
  cases request with
  | signIn userId organizationId hash now => exact Iff.rfl
  | logout presented now => exact Iff.rfl
  | requestPasswordReset userId hash now => exact Iff.rfl
  | resetPassword token passwordHash successor now => exact Iff.rfl
  | refresh presented successor now =>
      exact ⟨leavesSessions_of_punishes, punishes_of_leavesSessions⟩

end Refresh

/-- In every history, each refresh revokes the sessions of its user only for a token rotated
longer ago than the grace period exactly if no token that was revoked without being rotated
is presented while its user has a session. -/
theorem reuse_detection_exact_iff (settings : IdentitySettings) (start : IdentityStore)
    (history : List SessionRequest) :
    Runs.Guarded (requestStep settings) (PunishesReuseOnly settings) start history ↔
      Runs.Guarded (requestStep settings) LeavesSessions start history :=
  Runs.guarded_congr _ fun store request => punishesReuseOnly_iff settings store request

/-! A user with two sessions who has logged out of one of them. -/

def twoSessions : List SessionRequest :=
  [.signIn 4 none "laptop" 0, .signIn 4 none "phone" 1, .logout "laptop" 2]

def quickSettings : IdentitySettings := ⟨1000, 5, 100⟩

def loggedOutOnce : IdentityStore :=
  Runs.run (requestStep quickSettings) ⟨fun _ => none, []⟩ twoSessions

/-- The token of the session logged out is presented again, and the other session ends. -/
theorem logout_punished :
    ¬ Runs.Guarded (requestStep quickSettings) (PunishesReuseOnly quickSettings)
      ⟨fun _ => none, []⟩ (twoSessions ++ [.refresh "laptop" "next" 3]) := by
  rintro ⟨-, -, -, punishes, -⟩
  have before : Unrevoked loggedOutOnce "phone" :=
    ⟨⟨4, none, 1001, none, none⟩, by decide +kernel, rfl⟩
  have revoked : (requestStep quickSettings loggedOutOnce (.refresh "laptop" "next" 3)).rows
      (.refreshToken "phone") = some ⟨4, none, 1001, some 3, none⟩ := by decide +kernel
  have ended : ¬ Unrevoked (requestStep quickSettings loggedOutOnce (.refresh "laptop" "next" 3))
      "phone" := by
    rintro ⟨token, here, none⟩
    cases here.symm.trans revoked
    cases none
  obtain ⟨token, revokedAt, found, -, replaced, -⟩ := punishes "phone" (by decide) before ended
  have logged_out : loggedOutOnce.rows (.refreshToken "laptop") =
      some ⟨4, none, 1000, some 2, none⟩ := by decide +kernel
  cases found.symm.trans logged_out
  cases replaced

end SynapseSaas.Identity
