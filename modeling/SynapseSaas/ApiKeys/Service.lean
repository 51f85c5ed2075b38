import SynapseSaas.Authorization.Permissions
import SynapseSaas.Core.Db
import SynapseSaas.Core.Time
import SynapseSaas.Foundation.Runs
import SynapseSaas.Tenancy.Models

/-! API keys: who may create one, what it may do, and the requests that create,
present and revoke them. -/

set_option autoImplicit false

namespace SynapseSaas.ApiKeys

open Tenancy (MembershipStatus)

/-! What the rest of the system says about users and organizations. -/

structure Account where
  isActive : Bool
  isPlatformAdmin : Bool
  deriving DecidableEq

/-- A membership, whose permissions are those of its roles and so in the catalog. -/
structure Member where
  status : MembershipStatus
  permissionKeys : List String
  catalogued : ∀ key ∈ permissionKeys, key ∈ PERMISSION_KEYS

structure OrganizationState where
  deleted : Bool
  isActive : Bool
  deriving DecidableEq

/-- Users, organizations, memberships, and the answers of the OpenFGA store where
that is the authorization backend. -/
structure Directory where
  user : Nat → Option Account
  organization : Nat → Option OrganizationState
  membership : (organization user : Nat) → Option Member
  openFga : Option (Nat → String → Nat → Bool)

/-- The value in the database, which the cache in front of it is taken to return. -/
def Directory.permissionKeysFor (directory : Directory) (user organization : Nat) : Finset String :=
  match directory.membership organization user with
  | some member => if member.status = .active then member.permissionKeys.toFinset else ∅
  | none => ∅

/-! The keys. -/

/-- For the record only: who created a key, and, where it was a user, the
permissions the user held then. -/
inductive Issuer where
  | user (id : Nat) (held : Finset String)
  | key (id : Nat)
  deriving DecidableEq

structure ApiKey where
  id : Nat
  organizationId : Nat
  name : String
  keyPrefix : String
  keyHash : String
  scopes : List String
  expiresAt : Option Int
  revokedAt : Option Int
  createdByUserId : Option Nat
  mintedBy : Issuer
  deriving DecidableEq

inductive ApiKeyIndex where
  | prefix_ (text : String)
  | hash (text : String)
  deriving DecidableEq

instance : Keyed ApiKey where
  Key := ApiKeyIndex
  decEq := inferInstance
  id key := key.id
  keys key := [.prefix_ key.keyPrefix, .hash key.keyHash]

def ApiKey.isActive (key : ApiKey) (now : Int) : Bool :=
  key.revokedAt.isNone ∧ ∀ expiry ∈ key.expiresAt, now < expiry

structure KeyWorld where
  directory : Directory
  keys : Table ApiKey

/-! The request context. -/

structure TenantContext where
  organizationId : Nat
  deriving DecidableEq

/-- The acting principal: a user with the permissions bound for the request, or a
key with its scopes and its recorded creator. -/
inductive UserContext where
  | user (userId : Nat) (isPlatformAdmin : Bool) (permissionKeys : Finset String)
  | apiKey (apiKeyId : Nat) (apiKeyScopes : Finset String) (apiKeyCreatorId : Option Nat)

def UserContext.permissionKeys : UserContext → Finset String
  | .user _ _ permissionKeys => permissionKeys
  | .apiKey _ scopes _ => scopes

/-- `Authorization: Bearer`, the token of a user (with the organization it asks
for) or the plaintext of a key. -/
inductive Credential where
  | jwt (userId organizationId : Nat)
  | apiKey (plaintext : String)
  deriving DecidableEq

def KEY_PREFIX : String := "sk_"
def PREFIX_DISPLAY_LENGTH : Nat := 8

section Requests

variable (hashKey : String → String)

def userCan (directory : Directory) (user organization : Nat) (permission : String) : Bool :=
  match directory.openFga with
  | some check => check user permission organization
  | none => permission ∈ directory.permissionKeysFor user organization

/-- The key of a plaintext, if it is active. -/
def verify (world : KeyWorld) (plaintext : String) (now : Int) : Option ApiKey :=
  if plaintext.startsWith KEY_PREFIX then
    (world.keys.rows.find? fun key => key.keyHash = hashKey plaintext).filter fun key =>
      key.isActive now
  else none

def bindApiKeyContext (key : ApiKey) : UserContext :=
  .apiKey key.id key.scopes.toFinset key.createdByUserId

/-- The principal and the tenant of a request. -/
def authenticate (world : KeyWorld) (now : Int) : Credential → Result (UserContext × TenantContext)
  | .apiKey plaintext =>
      match verify hashKey world plaintext now with
      | none => raise .authentication "Invalid API key"
      | some key =>
          match world.directory.organization key.organizationId with
          | some ⟨false, true⟩ => .ok (bindApiKeyContext key, ⟨key.organizationId⟩)
          | _ => raise .authentication "Invalid API key"
  | .jwt userId organizationId =>
      match world.directory.user userId with
      | some ⟨true, admin⟩ =>
          match world.directory.organization organizationId with
          | some ⟨false, active⟩ =>
              let member := (world.directory.membership organizationId userId).any
                fun member => member.status = .active
              if ¬member ∧ ¬admin then raise .tenantNotResolved "Organization not found"
              else if ¬active ∧ ¬admin then raise .organizationSuspended "Organization is suspended"
              else .ok (.user userId admin ∅, ⟨organizationId⟩)
          | _ => raise .tenantNotResolved "Organization not found"
      | _ => raise .authentication "User not found or inactive"

/-- The permission check, with the context it binds. -/
def requirePermission (directory : Directory) (permission : String) (tenant : TenantContext) :
    UserContext → Result UserContext
  | .apiKey keyId scopes creator =>
      let extras := [("permission", Value.str permission), ("auth", .str "api_key")]
      if permission ∉ scopes then
        raise .permissionDenied ("API key lacks the " ++ quoted permission ++ " scope") extras
      else
        match creator with
        | none =>
            raise .permissionDenied "API key has no recorded creator to bound its authority"
              (extras ++ [("reason", .str "unbounded_key")])
        | some creatorId =>
            match directory.user creatorId with
            | some ⟨true, admin⟩ =>
                if ¬admin ∧ permission ∉ directory.permissionKeysFor creatorId tenant.organizationId
                then
                  raise .permissionDenied
                    ("API key creator no longer holds the " ++ quoted permission ++ " permission")
                    (extras ++ [("reason", .str "creator_lacks_permission")])
                else .ok (.apiKey keyId scopes creator)
            | _ =>
                raise .permissionDenied "API key creator is no longer active"
                  (extras ++ [("reason", .str "creator_inactive")])
  | .user userId admin _ =>
      if admin then .ok (.user userId true {"*"})
      else if userCan directory userId tenant.organizationId permission then
        .ok (.user userId false (directory.permissionKeysFor userId tenant.organizationId))
      else
        raise .permissionDenied ("This action requires the " ++ quoted permission ++ " permission")
          [("permission", .str permission)]

/-- The scopes of a new key: those asked for, or all its creator has. -/
def grantedScopes (scopes : List String) (creatorKeys : Finset String) : Result (List String) :=
  let unknown := scopes.toFinset \ PERMISSION_KEYS
  if unknown ≠ ∅ then
    raise .permissionDenied ("Unknown permission scopes: " ++ quotedList (sorted unknown))
      [("unknown", .list (sorted unknown))]
  else
    let granted := if scopes = [] then sorted creatorKeys else scopes
    let exceeding := granted.toFinset \ creatorKeys
    if exceeding ≠ ∅ then
      raise .permissionDenied
        ("Requested scopes exceed the creator's permissions: " ++ quotedList (sorted exceeding))
        [("exceeds_creator", .list (sorted exceeding))]
    else .ok granted

/-- The body of a creation, and the plaintext drawn for the key. -/
structure ApiKeyCreate where
  name : String
  scopes : List String
  expiresInDays : Option Nat
  plaintext : String
  deriving DecidableEq

/-- Who a new key is recorded as created by: at the root of a chain, a user. -/
def UserContext.creatorId : UserContext → Option Nat
  | .user userId _ _ => some userId
  | .apiKey _ _ creator => creator

/-- What goes on record about the creation of a key. -/
def issuerOf (directory : Directory) (tenant : TenantContext) : UserContext → Issuer
  | .user userId admin _ =>
      .user userId (if admin then PERMISSION_KEYS
        else directory.permissionKeysFor userId tenant.organizationId)
  | .apiKey keyId _ _ => .key keyId

/-- The permissions a creation is bounded by; the star stands for the whole catalog. -/
def UserContext.creatorKeys (bound : UserContext) : Finset String :=
  if "*" ∈ bound.permissionKeys then PERMISSION_KEYS else bound.permissionKeys

def newKey (tenant : TenantContext) (body : ApiKeyCreate) (now : Int) (scopes : List String)
    (creatorId : Option Nat) (mintedBy : Issuer) (id : Nat) : ApiKey where
  id := id
  organizationId := tenant.organizationId
  name := body.name
  keyPrefix := (body.plaintext.take PREFIX_DISPLAY_LENGTH).toString
  keyHash := hashKey body.plaintext
  scopes := scopes
  expiresAt := body.expiresInDays.bind fun days =>
    if days = 0 then none else some (now + days * day)
  revokedAt := none
  createdByUserId := creatorId
  mintedBy := mintedBy

def createKey (world : KeyWorld) (now : Int) (credential : Credential) (body : ApiKeyCreate) :
    Result KeyWorld := do
  let (principal, tenant) ← authenticate hashKey world now credential
  let bound ← requirePermission world.directory "apikey:manage" tenant principal
  let scopes ← grantedScopes body.scopes bound.creatorKeys
  let keys ← accepted (world.keys.insert (newKey hashKey tenant body now scopes bound.creatorId
    (issuerOf world.directory tenant principal)))
  return { world with keys }

def revokeKey (world : KeyWorld) (now : Int) (credential : Credential) (keyId : Nat) :
    Result KeyWorld := do
  let (principal, tenant) ← authenticate hashKey world now credential
  let _ ← requirePermission world.directory "apikey:manage" tenant principal
  match world.keys.get keyId with
  | some key =>
      if key.organizationId = tenant.organizationId then
        let keys ← accepted (world.keys.put { key with revokedAt := some now })
        return { world with keys }
      else raise .apiKeyNotFound "API key not found"
  | none => raise .apiKeyNotFound "API key not found"

/-- A request authenticated by a key passes the check for a permission. -/
def Passes (world : KeyWorld) (now : Int) (plaintext permission : String) : Prop :=
  ∃ principal tenant bound,
    authenticate hashKey world now (.apiKey plaintext) = .ok (principal, tenant) ∧
      requirePermission world.directory permission tenant principal = .ok bound

/-- Users, organizations and memberships change in any way at any time; a user
that is deleted is no key's recorded creator any more. -/
inductive KeyAction where
  | create (now : Int) (credential : Credential) (body : ApiKeyCreate)
  | revoke (now : Int) (credential : Credential) (keyId : Nat)
  | direct (directory : Directory)
  | deleteUser (userId : Nat)

/-- ON DELETE SET NULL. -/
def ApiKey.forget (userId : Nat) (key : ApiKey) : ApiKey :=
  { key with createdByUserId := key.createdByUserId.filter (· ≠ userId) }

def keyStep (world : KeyWorld) : KeyAction → KeyWorld
  | .create now credential body =>
      Transaction.commit world (createKey hashKey world now credential body)
  | .revoke now credential keyId =>
      Transaction.commit world (revokeKey hashKey world now credential keyId)
  | .direct directory => { world with directory }
  | .deleteUser userId =>
      { directory := { world.directory with user := Function.update world.directory.user userId none }
        keys := world.keys.revise (ApiKey.forget userId) fun _ => ⟨rfl, rfl⟩ }

end Requests

end SynapseSaas.ApiKeys
