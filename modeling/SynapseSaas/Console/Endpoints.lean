import SynapseSaas.Identity.ReuseDetection

/-! What the endpoints of the sessions answer, and the rows after them, where the server takes one
request after another. -/

set_option autoImplicit false

namespace SynapseSaas.Console

open ReadCommitted Identity IdentityService

/-- The answer of a request, none where it fails. -/
def answer (settings : IdentitySettings) (store : IdentityStore) (request : SessionRequest) :
    Option SessionAnswer :=
  ((request.script settings).alone .wide store Draft.empty).toOption.map Prod.fst

/-- The refresh token a response sets as the cookie. -/
def setCookie : Option SessionAnswer → Option String
  | some (.issued hash _) => some hash
  | some (.rotated _ hash _) => some hash
  | _ => none

/-- `POST /v1/auth/refresh` with an empty body: the token it sets and the rows after it. -/
def refreshEndpoint (settings : IdentitySettings) (store : IdentityStore) (now : Int)
    (successor : String) : Option String → Option String × IdentityStore
  -- "Missing refresh token"
  | none => (none, store)
  | some presented =>
      let request := SessionRequest.refresh presented successor now
      (setCookie (answer settings store request), requestStep settings store request)

/-- The token was rotated, at that instant. -/
def Replaced (store : IdentityStore) (hash : String) (instant : Int) : Prop :=
  ∃ token, store.rows (.refreshToken hash) = some token ∧ token.revokedAt = some instant ∧
    token.replacedBy.isSome

section Endpoints

variable {settings : IdentitySettings} {store : IdentityStore} {presented successor : String}
  {now : Int} {token : RefreshToken}

/-- A refresh with a token that is not revoked fails or rotates it. -/
theorem alone_refresh_current (found : store.rows (.refreshToken presented) = some token)
    (unrevoked : token.revokedAt = none) :
    (∃ failure, ((SessionRequest.refresh presented successor now).script settings).alone .wide store
        Draft.empty = .error failure) ∨
      store.rows (.refreshToken successor) = none ∧ ∃ userId draft,
        ((SessionRequest.refresh presented successor now).script settings).alone .wide store
          Draft.empty = .ok (.rotated presented successor userId, draft) ∧
        ∀ hash, (store.under draft).rows (.refreshToken hash) =
          if hash = presented then some (replace now successor token)
          else if hash = successor then some ⟨token.userId, token.organizationId,
            now + settings.refreshTokenTtl, none, none⟩
          else store.rows (.refreshToken hash) := by
  obtain ⟨userId, organizationId, expiresAt, revoking, replacedBy⟩ := token
  cases unrevoked
  have read : (store.under Draft.empty).rows (.refreshToken presented) =
      some ⟨userId, organizationId, expiresAt, none, replacedBy⟩ := found
  rw [SessionRequest.script, IdentityService.refresh, Script.alone_bind, alone_selectRefreshToken,
    read]
  change (∃ failure, Script.alone _ _ (if expiresAt < now then _ else _) _ = _) ∨
    _ ∧ ∃ _ _, Script.alone _ _ (if expiresAt < now then _ else _) _ = _ ∧ _
  split
  · exact .inl ⟨_, rfl⟩
  · dsimp only
    rw [Script.alone_bind, Script.alone_select]
    change (∃ failure, Script.alone _ _ _ _ = _) ∨ _ ∧ ∃ _ _, Script.alone _ _ _ _ = _ ∧ _
    dsimp only
    split
    · rw [Script.alone_bind, alone_issueTokens]
      split
      · exact .inl ⟨_, rfl⟩
      · rename_i free
        have vacant : store.rows (.refreshToken successor) = none := by
          rw [Bool.not_eq_true, Option.isSome_eq_false_iff, Option.isNone_iff_eq_none] at free
          exact (Store.under_rows_eq_none free).2
        have apart : presented ≠ successor := by
          rintro rfl
          cases vacant.symm.trans found
        change (∃ failure, Script.alone _ _ _ _ = _) ∨ _ ∧ ∃ _ _, Script.alone _ _ _ _ = _ ∧ _
        rw [Script.alone_bind, alone_selectRefreshToken]
        change (∃ failure, Script.alone _ _ _ _ = _) ∨ _ ∧ ∃ _ _, Script.alone _ _ _ _ = _ ∧ _
        split
        · exact .inl ⟨_, rfl⟩
        · have still : (store.under (((((Draft.empty.queried store.log.length).queried
              store.log.length).put (.refreshToken successor)
                ⟨userId, organizationId, now + settings.refreshTokenTtl, none, none⟩).add
                  (.issued successor userId (some presented))).queried
                    store.log.length)).rows (.refreshToken presented) =
              some ⟨userId, organizationId, expiresAt, none, replacedBy⟩ := by
            rw [Store.under_rows_of_none, found]
            exact put_token_other _ _ apart
          rw [Script.alone_bind, alone_update still]
          refine .inr ⟨vacant, userId, _, rfl, fun hash => ?_⟩
          by_cases own : hash = presented
          · rw [if_pos own, own]
            exact Store.under_rows_of_some (put_token_self ..)
          · rw [if_neg own]
            by_cases new : hash = successor
            · rw [if_pos new, new]
              apply Store.under_rows_of_some
              rw [put_token_other _ _ (Ne.symm apart)]
              exact put_token_self ..
            · rw [if_neg new]
              apply Store.under_rows_of_none
              rw [put_token_other _ _ own]
              exact put_token_other _ _ new
    · exact .inl ⟨_, rfl⟩

/-- A refresh with a token rotated a moment ago fails. -/
theorem alone_refresh_recent (found : store.rows (.refreshToken presented) = some token)
    {revokedAt : Int} (revoked : token.revokedAt = some revokedAt)
    (replaced : token.replacedBy.isSome) (recent : now - revokedAt ≤ settings.refreshReuseGrace) :
    ∃ failure, ((SessionRequest.refresh presented successor now).script settings).alone .wide store
      Draft.empty = .error failure := by
  obtain ⟨userId, organizationId, expiresAt, revoking, replacedBy⟩ := token
  cases revoked
  have read : (store.under Draft.empty).rows (.refreshToken presented) =
      some ⟨userId, organizationId, expiresAt, some revokedAt, replacedBy⟩ := found
  rw [SessionRequest.script, IdentityService.refresh, Script.alone_bind, alone_selectRefreshToken,
    read]
  change ∃ failure, Script.alone _ _ (if expiresAt < now then _ else _) _ = _
  split
  · exact ⟨_, rfl⟩
  · dsimp only
    rw [if_pos ⟨replaced, recent⟩]
    exact ⟨_, rfl⟩

theorem answer_of_error {request : SessionRequest} {failure : Failure}
    (failed : (request.script settings).alone .wide store Draft.empty = .error failure) :
    answer settings store request = none ∧ requestStep settings store request = store := by
  rw [answer, failed]
  exact ⟨rfl, requestStep_of_error failure failed⟩

theorem answer_of_ok {request : SessionRequest} {given : SessionAnswer} {draft : IdentityDraft}
    (ran : (request.script settings).alone .wide store Draft.empty = .ok (given, draft)) :
    answer settings store request = some given ∧
      requestStep settings store request = store.under draft := by
  rw [answer, ran]
  exact ⟨rfl, Script.after_of_ok ran⟩

/-- What became of a refresh with a token that is not revoked. -/
theorem refresh_current (unrevoked : Unrevoked store presented) :
    answer settings store (.refresh presented successor now) = none ∧
        requestStep settings store (.refresh presented successor now) = store ∨
      (∃ userId, answer settings store (.refresh presented successor now) =
        some (.rotated presented successor userId)) ∧
      store.rows (.refreshToken successor) = none ∧
      Replaced (requestStep settings store (.refresh presented successor now)) presented now ∧
      Unrevoked (requestStep settings store (.refresh presented successor now)) successor ∧
      ∀ hash, hash ≠ presented → hash ≠ successor →
        (requestStep settings store (.refresh presented successor now)).rows (.refreshToken hash) =
          store.rows (.refreshToken hash) := by
  obtain ⟨token, found, current⟩ := unrevoked
  rcases @alone_refresh_current settings store presented successor now token found current with
    ⟨failure, failed⟩ | ⟨vacant, userId, draft, ran, rows⟩
  · exact .inl (answer_of_error failed)
  · obtain ⟨told, after⟩ := answer_of_ok ran
    have apart : successor ≠ presented := by
      rintro rfl
      cases vacant.symm.trans found
    rw [after]
    refine .inr ⟨⟨userId, told⟩, vacant, ⟨_, (rows presented).trans (if_pos rfl), rfl, rfl⟩,
      ⟨_, (rows successor).trans ((if_neg apart).trans (if_pos rfl)), rfl⟩, ?_⟩
    intro hash other new
    rw [rows, if_neg other, if_neg new]

theorem refresh_recent {revokedAt : Int} (replaced : Replaced store presented revokedAt)
    (recent : now - revokedAt ≤ settings.refreshReuseGrace) :
    answer settings store (.refresh presented successor now) = none ∧
      requestStep settings store (.refresh presented successor now) = store := by
  obtain ⟨token, found, revoked, successors⟩ := replaced
  obtain ⟨failure, failed⟩ := @alone_refresh_recent settings store presented successor now token
    found revokedAt revoked successors recent
  exact answer_of_error failed

/-- A sign-in issues the token drawn for it, which no other had. -/
theorem signIn_issued {userId : Nat} {organizationId : Option Nat} {hash : String} :
    answer settings store (.signIn userId organizationId hash now) = none ∧
        requestStep settings store (.signIn userId organizationId hash now) = store ∨
      answer settings store (.signIn userId organizationId hash now) = some (.issued hash userId) ∧
      store.rows (.refreshToken hash) = none ∧
      Unrevoked (requestStep settings store (.signIn userId organizationId hash now)) hash ∧
      ∀ other, other ≠ hash →
        (requestStep settings store (.signIn userId organizationId hash now)).rows
          (.refreshToken other) = store.rows (.refreshToken other) := by
  cases taken : store.rows (.refreshToken hash) with
  | some token =>
      have failed : ((SessionRequest.signIn userId organizationId hash now).script settings).alone
          .wide store Draft.empty = .error (.other .integrity) := by
        have occupied : ((store.under Draft.empty).rows (.refreshToken hash)).isSome :=
          Option.isSome_of_eq_some taken
        rw [SessionRequest.script, IdentityService.signIn, Script.alone_bind, alone_issueTokens,
          if_pos occupied]
        rfl
      exact .inl (answer_of_error failed)
  | none =>
      have ran : ((SessionRequest.signIn userId organizationId hash now).script settings).alone
          .wide store Draft.empty = .ok (.issued hash userId,
            ((Draft.empty : IdentityDraft).put (.refreshToken hash)
              ⟨userId, organizationId, now + settings.refreshTokenTtl, none, none⟩).add
                (.issued hash userId none)) := by
        rw [SessionRequest.script, IdentityService.signIn, Script.alone_bind, alone_issueTokens,
          if_neg (by simp [Store.under, Draft.empty, taken])]
        rfl
      obtain ⟨told, after⟩ := answer_of_ok ran
      rw [after]
      refine .inr ⟨told, rfl, ⟨_, Store.under_rows_of_some (put_token_self ..), rfl⟩, ?_⟩
      intro other apart
      exact Store.under_rows_of_none (put_token_other _ _ apart)

/-- A logout revokes the token presented and no other. -/
theorem logout_rows {hash other : String} (apart : other ≠ hash) :
    (requestStep settings store (.logout hash now)).rows (.refreshToken other) =
      store.rows (.refreshToken other) := by
  have leaves : ∀ given draft,
      ((SessionRequest.logout hash now).script settings).alone .wide store Draft.empty =
        .ok (given, draft) → draft.rows (.refreshToken other) = none := by
    intro given draft ran
    rw [SessionRequest.script, IdentityService.logout, Script.alone_bind, alone_selectRefreshToken]
      at ran
    change Script.alone _ _ _ _ = _ at ran
    dsimp only at ran
    split at ran
    · rename_i found
      have still : (store.under ((Draft.empty : IdentityDraft).queried store.log.length)).rows
          (.refreshToken hash) = some _ := found
      rw [Script.alone_bind, alone_update still] at ran
      cases ran
      exact put_token_other _ _ apart
    · cases ran
      rfl
  cases ran : ((SessionRequest.logout hash now).script settings).alone .wide store Draft.empty with
  | error failure => rw [(answer_of_error ran).2]
  | ok ended =>
      rw [(answer_of_ok ran).2]
      exact Store.under_rows_of_none (leaves ended.1 ended.2 ran)

end Endpoints

end SynapseSaas.Console
