import SynapseSaas.Core.Errors
import SynapseSaas.Core.Time
import SynapseSaas.Foundation.ReadCommitted

/-! Sessions as chains of refresh tokens: issuing, rotation, logout and password
resets, each the script of the statements it sends in its transaction. -/

set_option autoImplicit false

namespace SynapseSaas.Identity

open ReadCommitted

/-! The rows. A refresh or reset token is known by its hash, which is unique. -/

structure Account where
  passwordHash : Option String
  isActive : Bool
  deriving DecidableEq

structure RefreshToken where
  userId : Nat
  organizationId : Option Nat
  expiresAt : Int
  revokedAt : Option Int
  replacedBy : Option String
  deriving DecidableEq

structure PasswordResetToken where
  userId : Nat
  expiresAt : Int
  usedAt : Option Int
  deriving DecidableEq

inductive IdentityKey where
  | user (id : Nat)
  | refreshToken (hash : String)
  | resetToken (hash : String)
  deriving DecidableEq

@[reducible] def IdentityKey.Row : IdentityKey → Type
  | .user _ => Account
  | .refreshToken _ => RefreshToken
  | .resetToken _ => PasswordResetToken

/-- The record of what was issued and reset, in the order of the commits: which
token a refresh presented for its successor, and which reset token was consumed. -/
inductive IdentityEntry where
  | issued (hash : String) (userId : Nat) (presented : Option String)
  | resetCompleted (userId : Nat) (hash : String)
  deriving DecidableEq

abbrev IdentityStore := Store IdentityKey.Row IdentityEntry
abbrev IdentityDraft := Draft IdentityKey.Row IdentityEntry
abbrev IdentityScript := Script IdentityKey.Row IdentityEntry Failure

section Puts

variable (draft : IdentityDraft) {userId : Nat} {hash other : String}

@[simp] theorem put_user_token (account : Account) :
    (draft.put (.user userId) account).rows (.refreshToken hash) =
      draft.rows (.refreshToken hash) := by
  simp [Draft.put]

@[simp] theorem put_user_reset (account : Account) :
    (draft.put (.user userId) account).rows (.resetToken hash) = draft.rows (.resetToken hash) := by
  simp [Draft.put]

@[simp] theorem put_token_self (token : RefreshToken) :
    (draft.put (.refreshToken hash) token).rows (.refreshToken hash) = some token :=
  Function.update_self ..

theorem put_token_other (token : RefreshToken) (apart : other ≠ hash) :
    (draft.put (.refreshToken hash) token).rows (.refreshToken other) =
      draft.rows (.refreshToken other) :=
  Function.update_of_ne (by simpa using apart) ..

@[simp] theorem put_token_reset (token : RefreshToken) :
    (draft.put (.refreshToken hash) token).rows (.resetToken other) =
      draft.rows (.resetToken other) := by
  simp [Draft.put]

@[simp] theorem put_reset_self (row : PasswordResetToken) :
    (draft.put (.resetToken hash) row).rows (.resetToken hash) = some row :=
  Function.update_self ..

theorem put_reset_other (row : PasswordResetToken) (apart : other ≠ hash) :
    (draft.put (.resetToken hash) row).rows (.resetToken other) = draft.rows (.resetToken other) :=
  Function.update_of_ne (by simpa using apart) ..

@[simp] theorem put_reset_token (row : PasswordResetToken) :
    (draft.put (.resetToken hash) row).rows (.refreshToken other) =
      draft.rows (.refreshToken other) := by
  simp [Draft.put]

end Puts

/-- The refresh tokens of a user, by their hashes. -/
def IdentityEntry.hashOf (userId : Nat) : IdentityEntry → Option String
  | .issued hash owner _ => if owner = userId then some hash else none
  | .resetCompleted .. => none

def unrevokedTokens (userId : Nat) (store : IdentityStore) : List String :=
  (store.log.filterMap (IdentityEntry.hashOf userId)).filter fun hash =>
    (store.rows (.refreshToken hash)).any fun token => token.revokedAt.isNone

/-- What a request has done when it ends well. -/
inductive SessionAnswer where
  | issued (hash : String) (userId : Nat)
  | rotated (presented hash : String) (userId : Nat)
  | reuseDetected
  | loggedOut
  | resetRequested
  | reset (userId : Nat) (token hash : String)
  deriving DecidableEq

structure IdentitySettings where
  refreshTokenTtl : Int
  refreshReuseGrace : Int
  resetTokenTtl : Int

namespace IdentityService

variable (settings : IdentitySettings)

def refuse {α : Type} (cls : ErrorClass) (message : String) : IdentityScript α :=
  .fail (.domain ⟨cls, message, []⟩)

def selectRefreshToken (hash : String) : IdentityScript (Option RefreshToken) :=
  Script.select fun store : IdentityStore => store.rows (.refreshToken hash)

/-- UPDATE by primary key, whatever the row has become since it was read. -/
def update (key : IdentityKey) (change : key.Row → key.Row) : IdentityScript Unit := do
  match ← Script.execute key (Option.map change) with
  | some _ => return ()
  | none => .fail (.other .noResult)

/-- INSERT, refused where the key is taken. -/
def insert (key : IdentityKey) (row : key.Row) : IdentityScript Unit := do
  match ← Script.execute key fun found => if found.isSome then none else some row with
  | some _ => return ()
  | none => .fail (.other .integrity)

/-- The new token is known by the hash of the secret drawn for it. -/
def issueTokens (userId : Nat) (organizationId : Option Nat) (hash : String) (now : Int)
    (presented : Option String) : IdentityScript Unit := do
  insert (.refreshToken hash)
    { userId, organizationId, expiresAt := now + settings.refreshTokenTtl
      revokedAt := none, replacedBy := none }
  Script.insert (.issued hash userId presented)

def revoke (now : Int) (token : RefreshToken) : RefreshToken :=
  { token with revokedAt := some now }

def replace (now : Int) (successor : String) (token : RefreshToken) : RefreshToken :=
  { token with revokedAt := some now, replacedBy := some successor }

/-- Every token of the user that is not revoked as this statement sees them. -/
def revokeChain (userId : Nat) (now : Int) : IdentityScript Unit := do
  let hashes ← Script.select (unrevokedTokens userId)
  let _ ← Script.each (fun hash => update (.refreshToken hash) (revoke now)) hashes
  return ()

def refresh (presented successor : String) (now : Int) : IdentityScript SessionAnswer := do
  match ← selectRefreshToken presented with
  | none => refuse .authentication "Invalid refresh token"
  | some token =>
      if token.expiresAt < now then refuse .authentication "Refresh token expired"
      else
        match token.revokedAt with
        | some revokedAt =>
            if token.replacedBy.isSome ∧ now - revokedAt ≤ settings.refreshReuseGrace then
              refuse .authentication "Refresh token already used"
            else
              -- The revocation is committed before the request raises.
              revokeChain token.userId now
              return .reuseDetected
        | none =>
            match ← Script.select fun store : IdentityStore => store.rows (.user token.userId) with
            | some ⟨_, true⟩ =>
                issueTokens settings token.userId token.organizationId successor now (some presented)
                match ← selectRefreshToken successor with
                | none => .fail (.other .noResult)
                | some _ =>
                    update (.refreshToken presented) (replace now successor)
                    return .rotated presented successor token.userId
            | _ => refuse .authentication "Invalid refresh token"

def logout (presented : String) (now : Int) : IdentityScript SessionAnswer := do
  match ← selectRefreshToken presented with
  | some ⟨_, _, _, none, _⟩ =>
      update (.refreshToken presented) (revoke now)
      return .loggedOut
  | _ => return .loggedOut

def requestPasswordReset (userId : Nat) (hash : String) (now : Int) : IdentityScript SessionAnswer := do
  insert (.resetToken hash) ⟨userId, now + settings.resetTokenTtl, none⟩
  return .resetRequested

/-- The endpoint: the service's reads first, then what the flush of `issue_tokens`
writes. -/
def resetPassword (token passwordHash successor : String) (now : Int) :
    IdentityScript SessionAnswer := do
  let found ← Script.select fun store : IdentityStore => store.rows (.resetToken token)
  match found with
  | some ⟨userId, expiresAt, none⟩ =>
      if expiresAt < now then refuse .authentication "Invalid or expired reset token"
      else
        match ← Script.select fun store : IdentityStore => store.rows (.user userId) with
        | none => refuse .userNotFound "User not found"
        | some _ =>
            let hashes ← Script.select (unrevokedTokens userId)
            update (.user userId) fun account => { account with passwordHash := some passwordHash }
            update (.resetToken token) fun row => { row with usedAt := some now }
            let _ ← Script.each (fun hash => update (.refreshToken hash) (revoke now)) hashes
            Script.insert (.resetCompleted userId token)
            issueTokens settings userId none successor now none
            return .reset userId token successor
  | _ => refuse .authentication "Invalid or expired reset token"

/-- A sign-in of any kind, after its checks, and the switch of the organization. -/
def signIn (userId : Nat) (organizationId : Option Nat) (hash : String) (now : Int) :
    IdentityScript SessionAnswer := do
  issueTokens settings userId organizationId hash now none
  return .issued hash userId

end IdentityService

/-- The requests that touch sessions, with the hashes of the secrets they draw. -/
inductive SessionRequest where
  | signIn (userId : Nat) (organizationId : Option Nat) (hash : String) (now : Int)
  | refresh (presented successor : String) (now : Int)
  | logout (presented : String) (now : Int)
  | requestPasswordReset (userId : Nat) (hash : String) (now : Int)
  | resetPassword (token passwordHash successor : String) (now : Int)
  deriving DecidableEq

def SessionRequest.script (settings : IdentitySettings) :
    SessionRequest → IdentityScript SessionAnswer
  | .signIn userId organizationId hash now =>
      IdentityService.signIn settings userId organizationId hash now
  | .refresh presented successor now => IdentityService.refresh settings presented successor now
  | .logout presented now => IdentityService.logout presented now
  | .requestPasswordReset userId hash now =>
      IdentityService.requestPasswordReset settings userId hash now
  | .resetPassword token passwordHash successor now =>
      IdentityService.resetPassword settings token passwordHash successor now

abbrev SessionSystem := System IdentityKey.Row IdentityEntry Failure SessionRequest SessionAnswer

def sessionStep (settings : IdentitySettings) :
    SessionSystem → Action SessionRequest → SessionSystem :=
  step (SessionRequest.script settings)

end SynapseSaas.Identity
