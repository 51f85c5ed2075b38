import SynapseSaas.Core.Errors
import SynapseSaas.Foundation.Runs

/-! The audit of a login. What a login writes stands in its transaction, and what becomes
of the transaction is decided by how the login ends. -/

set_option autoImplicit false

namespace SynapseSaas.LoginAudit

/-- A user as a login sees it. -/
structure LoginAccount where
  id : Nat
  email : String
  passwordHash : Option String
  isActive : Bool
  identityProvider : String
  lastLoginAt : Option Int
  deriving DecidableEq, Repr

structure AuditRow where
  eventType : String
  actorUserId : Option Nat
  actorType : String
  diff : List (String × String)
  deriving DecidableEq, Repr

structure LoginTables where
  users : List LoginAccount
  auditLog : List AuditRow
  deriving DecidableEq, Repr

/-- What a login is run with: the settings it reads, the clock, the comparison of emails,
the password hash in use and the credentials check of the identity provider. -/
structure LoginSetting where
  identityProvider : String
  allowPasswordGrant : Bool
  now : Int
  sameEmail : String → String → Bool
  verifyPassword : String → String → Bool
  verifyCredentials : String → String → Option Nat

/-- Statements of one session: what they have written is there also where they raise. -/
abbrev LoginM := ExceptT Failure (StateM LoginTables)

section Login

variable (setting : LoginSetting)

/-- An explicit actor is written as it is. -/
def audit (eventType : String) (userId : Nat) (diff : List (String × String)) : LoginM Unit :=
  modify fun tables => { tables with
    auditLog := tables.auditLog ++ [⟨eventType, some userId, "user", diff⟩] }

def raise {α : Type} (cls : ErrorClass) (message : String)
    (extras : List (String × Value) := []) : LoginM α :=
  throw (.domain ⟨cls, message, extras⟩)

def markSignedIn (user : LoginAccount) : LoginM Unit :=
  modify fun tables => { tables with
    users := tables.users.map fun row =>
      if row.id = user.id then { row with lastLoginAt := some setting.now } else row }

/-- `_login_via_password_grant`. -/
def loginViaPasswordGrant (email password : String) : LoginM LoginAccount := do
  match setting.verifyCredentials email password with
  | none => raise .invalidCredentials "Invalid email or password"
  | some verified =>
      match (← get).users.find? (·.id = verified) with
      | some user =>
          if user.isActive then
            markSignedIn setting user
            audit "user.login_succeeded" user.id [("via", "keycloak_password_grant")]
            return user
          else raise .invalidCredentials "Invalid email or password"
      | none => raise .invalidCredentials "Invalid email or password"

def login (email password : String) : LoginM LoginAccount := do
  let found := (← get).users.find? fun user => setting.sameEmail user.email email
  let ssoOnly := found.any fun user => user.identityProvider ≠ "local" ∧ user.passwordHash.isNone
  if setting.identityProvider = "keycloak" ∧ setting.allowPasswordGrant ∧
      (found.isNone ∨ ssoOnly) then
    loginViaPasswordGrant setting email password
  else
    match found with
    | none => raise .invalidCredentials "Invalid email or password"
    | some user =>
        if ssoOnly then
          raise .authentication "This account signs in with single sign-on"
            [("sso_url", .str "/v1/auth/oidc/start"),
              ("identity_provider", .str user.identityProvider)]
        else
          match user.passwordHash with
          | none => raise .invalidCredentials "Invalid email or password"
          | some hash =>
              if ¬ user.isActive then raise .invalidCredentials "Invalid email or password"
              else if setting.verifyPassword password hash then
                markSignedIn setting user
                audit "user.login_succeeded" user.id []
                return user
              else
                audit "user.login_failed" user.id [("email", email)]
                raise .invalidCredentials "Invalid email or password"

/-- `get_session` around a request: commit, or roll back and raise again. -/
def getSession {α : Type} (request : LoginM α) (committed : LoginTables) :
    Except Failure α × LoginTables :=
  match request.run.run committed with
  | (.ok answer, session) => (.ok answer, session)
  | (.error (.domain error), _) => (.error (.domain error), committed)
  | (.error (.other error), _) => (.error (.other error), committed)

end Login

structure LoginAttempt where
  email : String
  password : String
  deriving DecidableEq, Repr

/-- A login that comes alone: the tables after its response. -/
def attemptStep (setting : LoginSetting) (tables : LoginTables) (attempt : LoginAttempt) : LoginTables :=
  (getSession (login setting attempt.email attempt.password) tables).2

/-- The attempt finds an active account with a password of its own, and another password. -/
def WrongPassword (setting : LoginSetting) (tables : LoginTables) (attempt : LoginAttempt)
    (user : LoginAccount) : Prop :=
  tables.users.find? (fun row => setting.sameEmail row.email attempt.email) = some user ∧
  user.isActive ∧ ∃ hash, user.passwordHash = some hash ∧
    setting.verifyPassword attempt.password hash = false

def failures (userId : Nat) (tables : LoginTables) : Nat :=
  tables.auditLog.countP fun row =>
    row.eventType = "user.login_failed" ∧ row.actorUserId = some userId

/-- A wrong password leaves one more row for its account. -/
def Audited (setting : LoginSetting) (tables : LoginTables) (attempt : LoginAttempt) : Prop :=
  ∀ user, WrongPassword setting tables attempt user →
    failures user.id (attemptStep setting tables attempt) = failures user.id tables + 1

section Attempts

variable {setting : LoginSetting} {tables : LoginTables} {attempt : LoginAttempt}
  {user : LoginAccount}

/-- The row is written, and the session raises with it. -/
theorem login_of_wrongPassword (wrong : WrongPassword setting tables attempt user) :
    (login setting attempt.email attempt.password).run.run tables =
      (.error (.domain ⟨.invalidCredentials, "Invalid email or password", []⟩),
        { tables with auditLog := tables.auditLog ++
          [⟨"user.login_failed", some user.id, "user", [("email", attempt.email)]⟩] }) := by
  obtain ⟨found, active, hash, hashed, refused⟩ := wrong
  have local_account : (some user).any (fun user : LoginAccount =>
      decide (user.identityProvider ≠ "local" ∧ user.passwordHash.isNone)) = false := by
    simp [hashed]
  unfold login
  change ((if _ then _ else _ : LoginM LoginAccount).run.run tables) = _
  rw [found, local_account, if_neg (by simp)]
  dsimp only
  rw [if_neg Bool.false_ne_true, hashed]
  dsimp only
  rw [if_neg (not_not.mpr active), if_neg (by rw [refused]; exact Bool.false_ne_true)]
  rfl

/-- The rollback takes the row with it. -/
theorem attemptStep_of_wrongPassword (wrong : WrongPassword setting tables attempt user) :
    attemptStep setting tables attempt = tables := by
  rw [attemptStep, getSession, login_of_wrongPassword wrong]

end Attempts

/-- No attempt with a wrong password is audited, in any number and order of them. -/
theorem failed_logins_never_audited (setting : LoginSetting) (tables : LoginTables) :
    (∀ attempt user, WrongPassword setting tables attempt user →
      ¬ Audited setting tables attempt) ∧
    ∀ attempts : List LoginAttempt,
      (∀ attempt ∈ attempts, ∃ user, WrongPassword setting tables attempt user) →
      Runs.run (attemptStep setting) tables attempts = tables := by
  constructor
  · intro attempt user wrong audited
    have counted := audited user wrong
    rw [attemptStep_of_wrongPassword wrong] at counted
    omega
  · intro attempts wrong
    induction attempts with
    | nil => rfl
    | cons attempt rest ih =>
        obtain ⟨⟨user, here⟩, wrong⟩ := List.forall_mem_cons.mp wrong
        rw [Runs.run_cons, attemptStep_of_wrongPassword here]
        exact ih wrong

/-! One account, and a guess at its password. -/

def localLogins : LoginSetting where
  identityProvider := "local"
  allowPasswordGrant := false
  now := 12
  sameEmail first second := first = second
  verifyPassword password hash := hash = "hash of " ++ password
  verifyCredentials _ _ := none

def eve : LoginAccount := ⟨7, "eve@example.com", some "hash of pass", true, "local", none⟩

def eveOnly : LoginTables := ⟨[eve], []⟩

theorem eve_wrongPassword (password : String) (wrong : "hash of pass" ≠ "hash of " ++ password) :
    WrongPassword localLogins eveOnly ⟨"eve@example.com", password⟩ eve :=
  ⟨by simp [localLogins, eveOnly, eve], rfl, "hash of pass", rfl, by simpa [localLogins] using wrong⟩

/-- The guess is refused and leaves no trace. -/
theorem guess_unaudited :
    WrongPassword localLogins eveOnly ⟨"eve@example.com", "guess"⟩ eve ∧
    ¬ Audited localLogins eveOnly ⟨"eve@example.com", "guess"⟩ := by
  have wrong := eve_wrongPassword "guess" (by decide)
  exact ⟨wrong, fun audited => absurd (audited eve wrong) (by decide)⟩

/-- Nor do two of them. -/
theorem failed_logins_never_audited_twice :
    ¬ Audited localLogins eveOnly ⟨"eve@example.com", "first"⟩ ∧
    Runs.run (attemptStep localLogins) eveOnly
      [⟨"eve@example.com", "first"⟩, ⟨"eve@example.com", "second"⟩] = eveOnly := by
  have first := eve_wrongPassword "first" (by decide)
  have second := eve_wrongPassword "second" (by decide)
  refine ⟨(failed_logins_never_audited localLogins eveOnly).1 _ eve first,
    (failed_logins_never_audited localLogins eveOnly).2 _ ?_⟩
  simp only [List.mem_cons, List.not_mem_nil, or_false, forall_eq_or_imp, forall_eq]
  exact ⟨⟨eve, first⟩, eve, second⟩

end SynapseSaas.LoginAudit
