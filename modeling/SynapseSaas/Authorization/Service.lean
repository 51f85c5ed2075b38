import SynapseSaas.Authorization.Permissions
import SynapseSaas.Core.CacheSystem
import SynapseSaas.Foundation.Procedures
import SynapseSaas.Tenancy.Models

/-! Roles and the permissions a membership has by them.

A request has one session, which loads a role's collection of permissions once and
keeps it; only a refresh reads it again. -/

set_option autoImplicit false

namespace SynapseSaas.Tenancy

open Procedures (Method)

/-- The collections a session has loaded, by the role. -/
abbrev IdentityMap := Nat → Option (Finset String)

/-- What a statement tells beside the rows: an invalidation of a cached key. -/
abbrev Invalidation := VersionedCache × String

abbrev TenancyMethod := Method IdentityMap Database Statement Invalidation Failure

def IdentityMap.empty : IdentityMap := fun _ => none

/-- The collection of a role: the loaded one, if there is one. -/
def IdentityMap.permissions (loaded : IdentityMap) (rows : Database) (roleId : Nat) :
    Finset String :=
  (loaded roleId).getD (rows.permissionsOf roleId)

def IdentityMap.load (loaded : IdentityMap) (rows : Database) (roleIds : List Nat) : IdentityMap :=
  fun id => if id ∈ roleIds then some (loaded.permissions rows id) else loaded id

/-- A role as a session holds it. -/
structure LoadedRole where
  role : Role
  permissions : Finset String

def raiseError {α : Type} (cls : ErrorClass) (message : String)
    (extras : List (String × Value) := []) : TenancyMethod α :=
  Method.fail (.domain ⟨cls, message, extras⟩)

def select {α : Type} (read : Database → α) : TenancyMethod α :=
  Method.select fun loaded rows => (read rows, loaded)

def execute (statement : Statement) : TenancyMethod Unit := Method.mutate statement

/-- A SELECT of roles, whose collections are loaded along where they are not yet. -/
def selectRoles (wanted : Database → Role → Bool) : TenancyMethod (List LoadedRole) :=
  Method.select fun loaded rows =>
    let found := rows.roles.rows.filter (wanted rows)
    (found.map fun role => ⟨role, loaded.permissions rows role.id⟩,
      loaded.load rows (found.map Role.id))

/-- A SELECT of memberships, which loads the roles they hold. -/
def selectMemberships (wanted : Database → Membership → Bool) : TenancyMethod (List Membership) :=
  Method.select fun loaded rows =>
    let found := rows.memberships.rows.filter (wanted rows)
    (found, loaded.load rows (found.flatMap fun member => (rows.rolesOf member.id).map Role.id))

/-- `session.refresh` of the collection. -/
def refreshPermissions (roleId : Nat) : TenancyMethod Unit :=
  Method.select fun loaded rows =>
    ((), Function.update loaded roleId (some (rows.permissionsOf roleId)))

def scalarOneOrNone {α : Type} : List α → TenancyMethod (Option α)
  | [] => return none
  | [row] => return some row
  | _ => Method.fail (.other .multipleResults)

/-- `scalar_one_or_none` of a SELECT. -/
def selectRole (wanted : Database → Role → Bool) : TenancyMethod (Option LoadedRole) := do
  let found ← selectRoles wanted
  scalarOneOrNone found

def selectMembership (wanted : Database → Membership → Bool) : TenancyMethod (Option Membership) := do
  let found ← selectMemberships wanted
  scalarOneOrNone found

/-- The flush of a loaded membership; nothing is sent where nothing changed. -/
def flushMembership (loaded edited : Membership) : TenancyMethod Unit :=
  if edited = loaded then return ()
  else execute (.updateMembership loaded edited)

namespace AuthorizationService

def permCache : VersionedCache :=
  { space := ⟨"perm", by decide⟩, ttl := 30, holder := "authorization.service._perm_cache" }

def fgaCache : VersionedCache :=
  { space := ⟨"fga", by decide⟩, ttl := 30, holder := "authorization.service._fga_cache" }

def permKey (userId organizationId : Nat) : String := uuidText userId ++ ":" ++ uuidText organizationId

def orgObject (organizationId : Nat) : String := "organization:" ++ uuidText organizationId

/-- Drop the cached permission set and the cached decisions of a member. -/
def invalidateUserPerms (userId organizationId : Nat) : TenancyMethod Unit := do
  Method.perform (permCache, permKey userId organizationId)
  Method.perform (fgaCache, uuidText userId ++ ":" ++ orgObject organizationId)

def invalidateMember (member : Membership) : TenancyMethod Unit :=
  match member.userId with
  | some userId => invalidateUserPerms userId member.organizationId
  | none => return ()

def invalidateOrgPerms (organizationId : Nat) : TenancyMethod Unit := do
  let users ← select fun rows =>
    (rows.memberships.rows.filter fun member => member.organizationId = organizationId).filterMap
      Membership.userId
  users.forM fun userId => invalidateUserPerms userId organizationId

/-- The union over the collections of the loaded roles. -/
def unionOfRoles (roles : List LoadedRole) : Finset String :=
  roles.foldr (fun role keys => role.permissions ∪ keys) ∅

/-- The new value is flushed at the latest by the commit. -/
def recomputeMembershipPermissions (member : Membership) : TenancyMethod Unit := do
  let roles ← selectRoles fun rows role => rows.Holds member.id role
  flushMembership member { member with permissionKeys := sorted (unionOfRoles roles) }

def refreshMembershipsForRole (roleId : Nat) : TenancyMethod Unit := do
  let members ← selectMemberships fun rows member => (member.id, roleId) ∈ rows.membershipRoles
  members.forM fun member => do
    recomputeMembershipPermissions member
    invalidateMember member

def setRolePermissions (roleId : Nat) (permissionKeys : List String) : TenancyMethod Unit := do
  execute (.deleteRolePermissions roleId)
  let permissions ← select fun rows =>
    rows.permissions.rows.filter fun permission => permission.key ∈ permissionKeys
  permissions.forM fun permission => execute (.insertRolePermission roleId permission.id)
  refreshMembershipsForRole roleId

def unknownPermissions (permissionKeys : List String) : Finset String :=
  permissionKeys.toFinset \ PERMISSION_KEYS

def requireKnown (permissionKeys : List String) : TenancyMethod Unit :=
  let unknown := unknownPermissions permissionKeys
  if unknown = ∅ then return ()
  else
    raiseError .permissionDenied ("Unknown permissions: " ++ quotedList (sorted unknown))
      [("unknown", .list (sorted unknown))]

def getScopedRole (roleId organizationId : Nat) : TenancyMethod Role := do
  let found ← selectRoles fun _ role => role.id = roleId
  match found with
  | [] => raiseError .roleNotFound "Role not found"
  | ⟨role, _⟩ :: _ =>
      if role.organizationId ≠ some organizationId then raiseError .roleNotFound "Role not found"
      else if role.isSystem then
        raiseError .systemRoleImmutable "System roles cannot be modified"
      else return role

def createCustomRole (roleId organizationId : Nat) (key name : String) (description : Option String)
    (permissionKeys : List String) : TenancyMethod Unit := do
  requireKnown permissionKeys
  let found ← select fun rows => rows.roles.rows.filter fun role =>
    role.organizationId = some organizationId ∧ role.key = key
  let taken ← scalarOneOrNone found
  if taken.isSome then
    raiseError .conflict ("Role key " ++ quoted key ++ " already exists in this organization")
      [("key", .str key)]
  else do
    execute (.insertRole ⟨roleId, some organizationId, key, name, description, false⟩)
    setRolePermissions roleId permissionKeys
    refreshPermissions roleId

def updateCustomRole (roleId organizationId : Nat) (name description : Option String)
    (permissionKeys : Option (List String)) : TenancyMethod Unit := do
  let role ← getScopedRole roleId organizationId
  match permissionKeys with
  | none => pure ()
  | some keys => do
      requireKnown keys
      setRolePermissions role.id keys
      refreshPermissions role.id
  if name.isSome ∨ description.isSome then execute (.updateRole role.id name description)
  invalidateOrgPerms organizationId

def deleteCustomRole (roleId organizationId : Nat) : TenancyMethod Unit := do
  let role ← getScopedRole roleId organizationId
  let holders ← selectMemberships fun rows member => (member.id, role.id) ∈ rows.membershipRoles
  execute (.deleteHoldersOf role.id)
  execute (.deleteRole role.id)
  holders.forM fun member => do
    recomputeMembershipPermissions member
    invalidateMember member
  invalidateOrgPerms organizationId

/-- The role of this key that an organization may use: its own or a system role. -/
def selectUsableRole (organizationId : Nat) (roleKey : String) : TenancyMethod (Option LoadedRole) :=
  selectRole fun _ role => role.key = roleKey ∧
    (role.organizationId = some organizationId ∨ role.organizationId = none)

/-- The role's permissions are added to those the loaded membership has. -/
def attachRole (member : Membership) (roleKey : String) : TenancyMethod Membership := do
  match ← selectUsableRole member.organizationId roleKey with
  | none => raiseError .roleNotFound ("Role " ++ quoted roleKey ++ " not found")
  | some role => do
      -- The link is written by the next flush; nothing reads it before.
      execute (.insertMembershipRole member.id role.role.id)
      return { member with
        permissionKeys := sorted (member.permissionKeys.toFinset ∪ role.permissions) }

def assignRole (member : Membership) (roleKey : String) : TenancyMethod Unit := do
  let edited ← attachRole member roleKey
  flushMembership member edited
  invalidateMember member

end AuthorizationService

end SynapseSaas.Tenancy
