import SynapseSaas.Core.Db
import SynapseSaas.Foundation.Runs

/-! Signing in through OpenID Connect: which user the claims resolve to. -/

set_option autoImplicit false

namespace SynapseSaas.Identity

/-- A row of `users`. Two emails are one to the database when the CITEXT column
compares them equal, which is a comparison of what `citext` makes of them. -/
structure User (citext : String → String) where
  id : Nat
  email : String
  passwordHash : Option String
  displayName : String
  avatarUrl : Option String
  isPlatformAdmin : Bool
  isActive : Bool
  lastLoginAt : Option Int
  identityProvider : String
  providerSubject : Option String
  deriving DecidableEq

variable {citext : String → String}

instance : Keyed (User citext) where
  Key := String
  decEq := inferInstance
  id user := user.id
  keys user := [citext user.email]

/-- The value of a claim: what `str()`, truth and `is True` make of it. A number,
list or object is told from others by no more than that. -/
inductive ClaimValue where
  | none
  | bool (value : Bool)
  | text (value : String)
  | other (truthy : Bool) (shown : String)
  deriving DecidableEq

namespace ClaimValue

def truthy : ClaimValue → Bool
  | .none => false
  | .bool value => value
  | .text value => value ≠ ""
  | .other truthy _ => truthy

def str : ClaimValue → String
  | .none => "None"
  | .bool true => "True"
  | .bool false => "False"
  | .text value => value
  | .other _ shown => shown

/-- `str(value or "")`. -/
def strOrEmpty (value : ClaimValue) : String := if value.truthy then value.str else ""

end ClaimValue

/-- `claims.get`, which is None where there is no such claim. -/
abbrev Claims := String → ClaimValue

namespace Claims

variable (normalize : String → String) (claims : Claims)

def subject : String := (claims "sub").strOrEmpty

/-- `normalize` is `strip().lower()`. -/
def email : String := normalize (claims "email").strOrEmpty

def displayName : String :=
  if (claims "name").truthy then (claims "name").str
  else if (claims "preferred_username").truthy then (claims "preferred_username").str
  else if claims.email normalize ≠ "" then claims.email normalize
  else claims.subject

def Verified : Prop := claims "email_verified" = .bool true

instance : Decidable claims.Verified := inferInstanceAs (Decidable (_ = _))

end Claims

/-- `scalar_one_or_none()`. -/
def scalarOneOrNone {Row : Type} : List Row → Result (Option Row)
  | [] => .ok none
  | [row] => .ok (some row)
  | _ => .error (.other .multipleResults)

/-- VARCHAR(size). -/
def checkLength (size : Nat) (text : String) : Result Unit :=
  if text.length ≤ size then .ok () else .error (.other .invalidData)

/-- The columns identity_provider and provider_subject. -/
def checkLink (provider subject : String) : Result Unit := do
  checkLength 32 provider
  checkLength 255 subject

namespace IdentityService

variable (normalize : String → String) (table : Table (User citext)) (claims : Claims)
  (provider : String) (now : Int)

def LinkedTo (provider subject : String) (user : User citext) : Prop :=
  user.identityProvider = provider ∧ user.providerSubject = some subject

instance (provider subject : String) (user : User citext) :
    Decidable (LinkedTo provider subject user) :=
  inferInstanceAs (Decidable (_ ∧ _))

def usersLinked (subject : String) : List (User citext) :=
  table.rows.filter fun user => LinkedTo provider subject user

def usersWithEmail (email : String) : List (User citext) :=
  table.rows.filter fun user => citext user.email = citext email

def requireActive (user : User citext) : Result Unit :=
  if user.isActive then .ok () else raise .authentication "User is inactive"

def save (user : User citext) : Result (User citext × Table (User citext)) := do
  let after ← accepted (table.put user)
  return (user, after)

def createOidcUser : Result (User citext × Table (User citext)) := do
  let email := claims.email normalize
  if email = "" then
    raise .authentication "OIDC claims carry no email; cannot create a user"
  match ← scalarOneOrNone (usersWithEmail table email) with
  | some _ =>
      raise .authentication
        "An account with this email exists; verify the email at your identity provider first"
        [("reason", .str "email_unverified")]
  | none =>
      let make (id : Nat) : User citext :=
        { id, email, passwordHash := none, displayName := claims.displayName normalize
          avatarUrl := none, isPlatformAdmin := false, isActive := true, lastLoginAt := none
          identityProvider := provider, providerSubject := some claims.subject }
      checkLength 200 (claims.displayName normalize)
      checkLink provider claims.subject
      let after ← accepted (table.insert make)
      return (make table.next, after)

def linkOrCreateOidcUser : Result (User citext × Table (User citext)) := do
  let subject := claims.subject
  if subject = "" then raise .authentication "OIDC claims carry no subject"
  let email := claims.email normalize
  match ← scalarOneOrNone (usersLinked table provider subject) with
  | some bySubject =>
      requireActive bySubject
      save table { bySubject with lastLoginAt := some now }
  | none =>
      if email ≠ "" ∧ claims.Verified then
        match ← scalarOneOrNone (usersWithEmail table email) with
        | some byEmail =>
            requireActive byEmail
            checkLink provider subject
            save table
              { byEmail with
                identityProvider := provider
                providerSubject := some subject
                lastLoginAt := some now }
        | none => createOidcUser normalize table claims provider
      else createOidcUser normalize table claims provider

/-- The request: a login that raises is rolled back. -/
def committedAfter : Table (User citext) :=
  Transaction.commit table ((linkOrCreateOidcUser normalize table claims provider now).map (·.2))

/-- What a login may come to: the linked user, the user whose email is verified,
or a user with an email nobody has. -/
inductive Resolution : User citext → Prop where
  | linked (before : User citext) : before ∈ table.rows → before.isActive = true →
      LinkedTo provider claims.subject before → Resolution { before with lastLoginAt := some now }
  | verified (before : User citext) : claims.Verified → before ∈ table.rows →
      before.isActive = true → citext before.email = citext (claims.email normalize) →
      (∀ row ∈ table.rows, ¬LinkedTo provider claims.subject row) →
      Resolution { before with
        identityProvider := provider
        providerSubject := some claims.subject
        lastLoginAt := some now }
  | created (user : User citext) : (∀ row ∈ table.rows, row.id ≠ user.id) →
      user.email = claims.email normalize →
      (∀ row ∈ table.rows, citext row.email ≠ citext user.email) →
      (∀ row ∈ table.rows, ¬LinkedTo provider claims.subject row) →
      LinkedTo provider claims.subject user → user.passwordHash = none →
      user.isPlatformAdmin = false → Resolution user

/-- The table with this user written, and every other row as it was. -/
structure Writes (user : User citext) (after : Table (User citext)) : Prop where
  written : user ∈ after.rows
  others : ∀ row, row.id ≠ user.id → (row ∈ after.rows ↔ row ∈ table.rows)

section Lookups

variable {table}

theorem scalarOneOrNone_eq_some {Row : Type} {rows : List Row} {row : Row} :
    scalarOneOrNone rows = .ok (some row) ↔ rows = [row] := by
  cases rows with
  | nil => simp [scalarOneOrNone]
  | cons first rest =>
      cases rest with
      | nil => simp [scalarOneOrNone]
      | cons second rest => simp [scalarOneOrNone]

theorem scalarOneOrNone_eq_none {Row : Type} {rows : List Row} :
    scalarOneOrNone rows = .ok none ↔ rows = [] := by
  cases rows with
  | nil => simp [scalarOneOrNone]
  | cons first rest =>
      cases rest with
      | nil => simp [scalarOneOrNone]
      | cons second rest => simp [scalarOneOrNone]

theorem mem_of_found {test : User citext → Prop} [DecidablePred test] {user : User citext}
    (found : scalarOneOrNone (table.rows.filter fun row => test row) = .ok (some user)) :
    user ∈ table.rows ∧ test user := by
  have member : user ∈ table.rows.filter fun row => test row := by
    rw [scalarOneOrNone_eq_some.mp found]
    exact List.mem_singleton_self user
  simpa using member

theorem none_of_missing {test : User citext → Prop} [DecidablePred test]
    (missing : scalarOneOrNone (table.rows.filter fun row => test row) = .ok none) :
    ∀ row ∈ table.rows, ¬test row := by
  have nobody := List.filter_eq_nil_iff.mp (scalarOneOrNone_eq_none.mp missing)
  simpa using nobody

/-- The unique index on emails: whoever has the email is the one found. -/
theorem usersWithEmail_of_mem {user : User citext} (member : user ∈ table.rows) {email : String}
    (same : citext user.email = citext email) :
    scalarOneOrNone (usersWithEmail table email) = .ok (some user) := by
  rw [scalarOneOrNone_eq_some]
  obtain ⟨before, after, partition, -⟩ := table.split member
  have pairwise := table.pairwise
  have apart (row : User citext) (here : row ∈ table.rows) (distinct : row ≠ user) :
      ¬citext row.email = citext email := by
    intro taken
    apply distinct
    have mine : citext email ∈ Keyed.keys row := by simp [Keyed.keys, taken]
    have yours : citext email ∈ Keyed.keys user := by simp [Keyed.keys, same]
    exact table.eq_of_key here member mine yours
  rw [partition, List.pairwise_append, List.pairwise_cons] at pairwise
  obtain ⟨-, ⟨later, -⟩, earlier⟩ := pairwise
  have no_before : before.filter (fun row => citext row.email = citext email) = [] := by
    rw [List.filter_eq_nil_iff]
    intro row here
    have distinct : row ≠ user := fun eq => (earlier row here user (by simp)).1 (by rw [eq])
    simpa using apart row (by simp [partition, here]) distinct
  have no_after : after.filter (fun row => citext row.email = citext email) = [] := by
    rw [List.filter_eq_nil_iff]
    intro row here
    have distinct : row ≠ user := fun eq => (later row here).1 (by rw [eq])
    simpa using apart row (by simp [partition, here]) distinct
  rw [usersWithEmail, partition, List.filter_append, List.filter_cons_of_pos (by simp [same]),
    no_before, no_after]
  rfl

end Lookups

/-- The user returned is new where no row is linked and the email is not verified. -/
theorem Resolution.fresh_of_unlinked {normalize : String → String} {table : Table (User citext)}
    {claims : Claims} {provider : String} {now : Int} {user : User citext}
    (resolution : Resolution normalize table claims provider now user)
    (unverified : ¬claims.Verified)
    (unlinked : ∀ row ∈ table.rows, ¬LinkedTo provider claims.subject row) :
    ∀ row ∈ table.rows, row.id ≠ user.id := by
  cases resolution with
  | linked before here active same => exact absurd same (unlinked before here)
  | verified before verified here active same none => exact absurd verified unverified
  | created _ fresh email taken none linked password role => exact fresh

section Operations

variable {table} {user result : User citext} {after : Table (User citext)}

theorem requireActive_eq_ok {answer : Unit} :
    requireActive user = .ok answer ↔ user.isActive = true := by
  unfold requireActive
  split <;> simp_all [raise]

theorem save_eq_ok :
    save table user = .ok (result, after) ↔ table.put user = some after ∧ result = user := by
  simp only [save, write_eq_ok, Prod.mk.injEq]
  constructor
  · rintro ⟨written, put, rfl, rfl⟩
    exact ⟨put, rfl⟩
  · rintro ⟨put, rfl⟩
    exact ⟨after, put, rfl, rfl⟩

theorem Writes.of_put {before : User citext} (member : before ∈ table.rows)
    (same : user.id = before.id) (put : table.put user = some after) :
    Writes table user after where
  written := (Table.mem_put member same put user).mpr (.inl rfl)
  others row other := by
    rw [Table.mem_put member same put row]
    constructor
    · rintro (rfl | ⟨here, -⟩)
      · exact absurd rfl other
      · exact here
    · intro here
      refine .inr ⟨here, ?_⟩
      rintro rfl
      exact other same.symm

theorem Writes.of_insert {make : Nat → User citext}
    (inserted : table.insert make = some after) : Writes table (make table.next) after where
  written := by
    rw [Table.insert_rows inserted]
    exact List.mem_append_right _ (List.mem_singleton_self _)
  others row other := by
    rw [Table.insert_rows inserted, List.mem_append, List.mem_singleton]
    constructor
    · rintro (here | rfl)
      · exact here
      · exact absurd rfl other
    · exact .inl

variable {normalize claims provider now}

theorem createOidcUser_resolves
    (unlinked : ∀ row ∈ table.rows, ¬LinkedTo provider claims.subject row)
    (created : createOidcUser normalize table claims provider = .ok (user, after)) :
    Resolution normalize table claims provider now user ∧ Writes table user after := by
  simp only [createOidcUser] at created
  split at created
  · cases created
  · simp only [Result.bind_eq_ok] at created
    obtain ⟨taken, found, rest⟩ := created
    cases taken with
    | some other => cases rest
    | none =>
        simp only [Result.bind_eq_ok, accepted_eq_ok] at rest
        obtain ⟨-, -, -, -, written, inserted, rfl, rfl⟩ := rest
        refine ⟨.created _ ?_ rfl (none_of_missing found) unlinked ⟨rfl, rfl⟩ rfl rfl,
          .of_insert inserted⟩
        exact fun row member => Nat.ne_of_lt (table.id_lt_next member)

/-- What a login that succeeds has done. -/
theorem linkOrCreateOidcUser_resolves
    (signed_in : linkOrCreateOidcUser normalize table claims provider now = .ok (user, after)) :
    Resolution normalize table claims provider now user ∧ Writes table user after := by
  simp only [linkOrCreateOidcUser] at signed_in
  split at signed_in
  · cases signed_in
  · simp only [Result.bind_eq_ok] at signed_in
    obtain ⟨linked, lookup, rest⟩ := signed_in
    cases linked with
    | some bySubject =>
        obtain ⟨here, same⟩ := mem_of_found lookup
        simp only [Result.bind_eq_ok, requireActive_eq_ok, save_eq_ok] at rest
        obtain ⟨-, active, put, rfl⟩ := rest
        exact ⟨.linked bySubject here active same, .of_put here rfl put⟩
    | none =>
        have unlinked := none_of_missing lookup
        simp only at rest
        split at rest
        case isFalse unverified => exact createOidcUser_resolves unlinked rest
        case isTrue verified =>
          rw [Result.bind_eq_ok] at rest
          obtain ⟨found, by_email, rest⟩ := rest
          cases found with
          | none => exact createOidcUser_resolves unlinked rest
          | some byEmail =>
              obtain ⟨here, same⟩ := mem_of_found by_email
              simp only [Result.bind_eq_ok, requireActive_eq_ok, save_eq_ok] at rest
              obtain ⟨-, active, -, -, put, rfl⟩ := rest
              exact ⟨.verified byEmail verified.2 here active same unlinked, .of_put here rfl put⟩

/-- An active user with the verified email is the one returned, unless another is
linked already. -/
theorem linkOrCreateOidcUser_of_verified (verified : claims.Verified) (subject : claims.subject ≠ "")
    (fits : checkLink provider claims.subject = .ok ()) (email : claims.email normalize ≠ "")
    (unlinked : ∀ row ∈ table.rows, ¬LinkedTo provider claims.subject row)
    (here : user ∈ table.rows) (active : user.isActive = true)
    (same : citext user.email = citext (claims.email normalize)) :
    ∃ after, linkOrCreateOidcUser normalize table claims provider now = .ok
      ({ user with
          identityProvider := provider
          providerSubject := some claims.subject
          lastLoginAt := some now }, after) := by
  have nobody : scalarOneOrNone (usersLinked table provider claims.subject) = .ok none := by
    rw [scalarOneOrNone_eq_none, usersLinked, List.filter_eq_nil_iff]
    simpa using unlinked
  let signedIn : User citext := { user with
    identityProvider := provider
    providerSubject := some claims.subject
    lastLoginAt := some now }
  have same_id : Keyed.id signedIn = Keyed.id user := rfl
  obtain ⟨after, put⟩ := table.put_accepted here same_id fun key member => member
  refine ⟨after, ?_⟩
  simp only [linkOrCreateOidcUser, if_neg subject, nobody, Result.ok_bind]
  rw [if_pos ⟨email, verified⟩, usersWithEmail_of_mem here same]
  have admitted : requireActive user = .ok () := requireActive_eq_ok.mpr active
  simp only [Result.ok_bind, admitted, fits]
  exact save_eq_ok.mpr ⟨put, rfl⟩

/-- Without a verified email, a login that returns an account there was depends on
the claims through the subject alone. -/
theorem linkOrCreateOidcUser_of_unverified (unverified : ¬claims.Verified)
    (signed_in : linkOrCreateOidcUser normalize table claims provider now = .ok (user, after))
    {before : User citext} (here : before ∈ table.rows) (same : before.id = user.id)
    {other : Claims} (alike : other.subject = claims.subject) :
    LinkedTo provider claims.subject before ∧
      linkOrCreateOidcUser normalize table other provider now = .ok (user, after) := by
  simp only [linkOrCreateOidcUser, alike] at signed_in ⊢
  split at signed_in
  · cases signed_in
  · case isFalse subject =>
    simp only [if_neg subject]
    rw [Result.bind_eq_ok] at signed_in
    obtain ⟨linked, lookup, rest⟩ := signed_in
    rw [lookup, Result.ok_bind]
    cases linked with
    | some bySubject =>
        obtain ⟨found, is_linked⟩ := mem_of_found lookup
        have result := rest
        simp only [Result.bind_eq_ok, requireActive_eq_ok, save_eq_ok] at rest
        obtain ⟨-, -, -, rfl⟩ := rest
        have eq : before = bySubject := table.eq_of_id here found same
        exact ⟨eq ▸ is_linked, result⟩
    | none =>
        -- A new user has an id of its own.
        rw [if_neg fun both => unverified both.2] at rest
        have resolution : Resolution normalize table claims provider now user :=
          (createOidcUser_resolves (none_of_missing lookup) rest).1
        exact absurd same (resolution.fresh_of_unlinked unverified (none_of_missing lookup) before here)

end Operations

/-- A login either raises and leaves the users as they were, or it returns the
active user linked to the subject, or, exactly when the email is verified, the
active user with that email, or a new user with an email nobody has; nobody else
is touched. What an unverified email says has no influence on which account
there already was is returned. -/
theorem oidc_never_takes_over :
    (∀ failure, linkOrCreateOidcUser normalize table claims provider now = .error failure →
      committedAfter normalize table claims provider now = table) ∧
    (∀ user after, linkOrCreateOidcUser normalize table claims provider now = .ok (user, after) →
      committedAfter normalize table claims provider now = after ∧
        Resolution normalize table claims provider now user ∧ Writes table user after) ∧
    (∀ user ∈ table.rows, claims.Verified → claims.subject ≠ "" → claims.email normalize ≠ "" →
      checkLink provider claims.subject = .ok () →
      (∀ row ∈ table.rows, ¬LinkedTo provider claims.subject row) → user.isActive = true →
      citext user.email = citext (claims.email normalize) →
      ∃ after, linkOrCreateOidcUser normalize table claims provider now = .ok
        ({ user with
            identityProvider := provider
            providerSubject := some claims.subject
            lastLoginAt := some now }, after)) ∧
    (∀ other : Claims, (∀ name ≠ "email", other name = claims name) → ¬claims.Verified →
      ∀ user after, linkOrCreateOidcUser normalize table claims provider now = .ok (user, after) →
      ∀ before ∈ table.rows, before.id = user.id →
        LinkedTo provider claims.subject before ∧
          linkOrCreateOidcUser normalize table other provider now = .ok (user, after)) := by
  refine ⟨?_, ?_, ?_, ?_⟩
  · intro failure raised
    rw [committedAfter, raised]
    rfl
  · intro user after signed_in
    refine ⟨?_, linkOrCreateOidcUser_resolves signed_in⟩
    rw [committedAfter, signed_in]
    rfl
  · intro user here verified subject email fits unlinked active same
    exact linkOrCreateOidcUser_of_verified verified subject fits email unlinked here active same
  · intro other alike unverified user after signed_in before here same
    have subjects : other.subject = claims.subject := by
      rw [Claims.subject, Claims.subject, alike "sub" (by decide)]
    exact linkOrCreateOidcUser_of_unverified unverified signed_in here same subjects

end IdentityService

end SynapseSaas.Identity
