import SynapseSaas.Core.Errors
import SynapseSaas.Foundation.Procedures
import SynapseSaas.Foundation.Table
import Mathlib.Data.Finset.Sort
import Mathlib.Data.Finset.Union
import Mathlib.Data.String.Basic

/-! Organizations, their members, and the roles members hold.

Emails are CITEXT: a value here stands for all its spellings. The ids of rows are
drawn by the application. -/

set_option autoImplicit false

namespace SynapseSaas.Tenancy

structure Account where
  id : Nat
  email : String
  deriving DecidableEq, Repr

structure Organization where
  id : Nat
  slug : String
  name : String
  ownerUserId : Option Nat
  deleted : Bool
  deriving DecidableEq, Repr

inductive MembershipStatus where
  | invited | active | suspended
  deriving DecidableEq, Repr

structure Membership where
  id : Nat
  organizationId : Nat
  userId : Option Nat
  invitedEmail : Option String
  inviteTokenHash : Option String
  status : MembershipStatus
  permissionKeys : List String
  deriving DecidableEq, Repr

/-- A role; without an organization it is a system role that all share. -/
structure Role where
  id : Nat
  organizationId : Option Nat
  key : String
  name : String
  description : Option String
  isSystem : Bool
  deriving DecidableEq, Repr

structure Permission where
  id : Nat
  key : String
  deriving DecidableEq, Repr

instance : Keyed Account where
  Key := String
  decEq := inferInstance
  id account := account.id
  keys account := [account.email]

instance : Keyed Organization where
  Key := String
  decEq := inferInstance
  id organization := organization.id
  keys organization := [organization.slug]

/-- uq_memberships_org_user and uq_memberships_org_invited_email. -/
inductive MembershipIndex where
  | user (organizationId userId : Nat)
  | email (organizationId : Nat) (invitedEmail : String)
  deriving DecidableEq

instance : Keyed Membership where
  Key := MembershipIndex
  decEq := inferInstance
  id member := member.id
  keys member :=
    (member.userId.map (.user member.organizationId)).toList ++
      (member.invitedEmail.map (.email member.organizationId)).toList

theorem Membership.mem_keys_user {member : Membership} {organizationId userId : Nat}
    (home : member.organizationId = organizationId) (mine : member.userId = some userId) :
    MembershipIndex.user organizationId userId ∈ Keyed.keys member := by
  simp [Keyed.keys, home, mine]

theorem Membership.mem_keys_email {member : Membership} {organizationId : Nat} {email : String}
    (home : member.organizationId = organizationId) (invited : member.invitedEmail = some email) :
    MembershipIndex.email organizationId email ∈ Keyed.keys member := by
  simp [Keyed.keys, home, invited]

/-- uq_roles_org_key, which says nothing about roles without an organization. -/
instance : Keyed Role where
  Key := Nat × String
  decEq := inferInstance
  id role := role.id
  keys role := (role.organizationId.map fun organization => (organization, role.key)).toList

instance : Keyed Permission where
  Key := String
  decEq := inferInstance
  id permission := permission.id
  keys permission := [permission.key]

structure Tables where
  users : Table Account
  organizations : Table Organization
  memberships : Table Membership
  roles : Table Role
  permissions : Table Permission
  rolePermissions : Finset (Nat × Nat)
  membershipRoles : Finset (Nat × Nat)

/-- The foreign keys of the two link tables. -/
def Tables.References (tables : Tables) : Prop :=
  (∀ link ∈ tables.rolePermissions, (∃ role ∈ tables.roles.rows, role.id = link.1) ∧
    ∃ permission ∈ tables.permissions.rows, permission.id = link.2) ∧
  ∀ link ∈ tables.membershipRoles, (∃ member ∈ tables.memberships.rows, member.id = link.1) ∧
    ∃ role ∈ tables.roles.rows, role.id = link.2

instance (tables : Tables) : Decidable tables.References :=
  inferInstanceAs (Decidable ((∀ link ∈ tables.rolePermissions, _) ∧ ∀ link ∈ _, _))

structure Database extends Tables where
  references : toTables.References

/-- What a statement leaves, where the foreign keys hold. -/
def Tables.check (tables : Tables) : Result Database :=
  if references : tables.References then .ok ⟨tables, references⟩ else .error (.other .integrity)

theorem Tables.check_eq_ok {tables : Tables} {rows : Database} :
    tables.check = .ok rows ↔ rows.toTables = tables := by
  unfold check
  constructor
  · intro checked
    split at checked
    · cases checked
      rfl
    · cases checked
  · rintro rfl
    rw [dif_pos rows.references]

namespace Database

variable (rows : Database)

def permissionsOf (roleId : Nat) : Finset String :=
  ((rows.permissions.rows.filter fun permission => (roleId, permission.id) ∈ rows.rolePermissions).map
    Permission.key).toFinset

def Holds (membershipId : Nat) (role : Role) : Prop := (membershipId, role.id) ∈ rows.membershipRoles

instance (membershipId : Nat) (role : Role) : Decidable (rows.Holds membershipId role) :=
  inferInstanceAs (Decidable (_ ∈ _))

def rolesOf (membershipId : Nat) : List Role :=
  rows.roles.rows.filter fun role => rows.Holds membershipId role

/-- The union of the permissions of the roles a membership holds. -/
def unionOf (membershipId : Nat) : Finset String :=
  ((rows.rolesOf membershipId).map Role.id).toFinset.biUnion rows.permissionsOf

theorem mem_unionOf {membershipId : Nat} {key : String} :
    key ∈ rows.unionOf membershipId ↔
      ∃ role ∈ rows.roles.rows, rows.Holds membershipId role ∧ key ∈ rows.permissionsOf role.id := by
  simp [unionOf, rolesOf, and_assoc]

end Database

/-! Statements that write. -/

section Writes

/-- UPDATE of one row, which has to be there still. -/
def updateMembership (id : Nat) (change : Membership → Membership) (rows : Database) :
    Result Database :=
  match rows.memberships.get id with
  | none => .error (.other .noResult)
  | some member =>
      match rows.memberships.put (change member) with
      | none => .error (.other .integrity)
      | some memberships => { rows.toTables with memberships }.check

def insertMembership (member : Membership) (rows : Database) : Result Database :=
  match rows.memberships.add member with
  | none => .error (.other .integrity)
  | some memberships => { rows.toTables with memberships }.check

/-- DELETE, with the links that cascade. -/
def deleteMembership (id : Nat) (rows : Database) : Result Database :=
  { rows.toTables with
    memberships := rows.memberships.remove id
    membershipRoles := rows.membershipRoles.filter fun link => link.1 ≠ id }.check

def insertOrganization (organization : Organization) (rows : Database) : Result Database :=
  match rows.organizations.add organization with
  | none => .error (.other .integrity)
  | some organizations => { rows.toTables with organizations }.check

def insertRole (role : Role) (rows : Database) : Result Database :=
  match rows.roles.add role with
  | none => .error (.other .integrity)
  | some roles => { rows.toTables with roles }.check

def updateRole (id : Nat) (change : Role → Role) (rows : Database) : Result Database :=
  match rows.roles.get id with
  | none => .error (.other .noResult)
  | some role =>
      match rows.roles.put (change role) with
      | none => .error (.other .integrity)
      | some roles => { rows.toTables with roles }.check

def deleteRole (id : Nat) (rows : Database) : Result Database :=
  { rows.toTables with
    roles := rows.roles.remove id
    rolePermissions := rows.rolePermissions.filter fun link => link.1 ≠ id
    membershipRoles := rows.membershipRoles.filter fun link => link.2 ≠ id }.check

def insertMembershipRole (membershipId roleId : Nat) (rows : Database) : Result Database :=
  if (membershipId, roleId) ∈ rows.membershipRoles then .error (.other .integrity)
  else
    { rows.toTables with
      membershipRoles := insert (membershipId, roleId) rows.membershipRoles }.check

def deleteMembershipRoles (link : Nat × Nat → Bool) (rows : Database) : Result Database :=
  { rows.toTables with
    membershipRoles := rows.membershipRoles.filter fun pair => ¬link pair }.check

def deleteRolePermissions (roleId : Nat) (rows : Database) : Result Database :=
  { rows.toTables with
    rolePermissions := rows.rolePermissions.filter fun link => link.1 ≠ roleId }.check

def insertRolePermission (roleId permissionId : Nat) (rows : Database) : Result Database :=
  if (roleId, permissionId) ∈ rows.rolePermissions then .error (.other .integrity)
  else
    { rows.toTables with
      rolePermissions := insert (roleId, permissionId) rows.rolePermissions }.check

/-- What a flush writes to the row of a loaded membership: the columns that changed. -/
def Membership.changes (loaded edited row : Membership) : Membership :=
  { row with
    userId := if edited.userId = loaded.userId then row.userId else edited.userId
    invitedEmail :=
      if edited.invitedEmail = loaded.invitedEmail then row.invitedEmail else edited.invitedEmail
    inviteTokenHash :=
      if edited.inviteTokenHash = loaded.inviteTokenHash then row.inviteTokenHash
      else edited.inviteTokenHash
    status := if edited.status = loaded.status then row.status else edited.status
    permissionKeys :=
      if edited.permissionKeys = loaded.permissionKeys then row.permissionKeys
      else edited.permissionKeys }

/-- The columns of a role that an edit names. -/
def Role.rename (name description : Option String) (role : Role) : Role :=
  { role with name := name.getD role.name, description := description <|> role.description }

inductive Statement where
  | updateMembership (loaded edited : Membership)
  | insertMembership (member : Membership)
  | deleteMembership (id : Nat)
  | insertOrganization (organization : Organization)
  | insertRole (role : Role)
  | updateRole (id : Nat) (name description : Option String)
  | deleteRole (id : Nat)
  | insertMembershipRole (membershipId roleId : Nat)
  | deleteRolesOf (membershipId : Nat)
  | deleteHoldersOf (roleId : Nat)
  | deleteRolePermissions (roleId : Nat)
  | insertRolePermission (roleId permissionId : Nat)
  deriving DecidableEq

def Statement.run : Statement → Database → Result Database
  | .updateMembership loaded edited => Tenancy.updateMembership loaded.id (loaded.changes edited)
  | .insertMembership member => Tenancy.insertMembership member
  | .deleteMembership id => Tenancy.deleteMembership id
  | .insertOrganization organization => Tenancy.insertOrganization organization
  | .insertRole role => Tenancy.insertRole role
  | .updateRole id name description => Tenancy.updateRole id (Role.rename name description)
  | .deleteRole id => Tenancy.deleteRole id
  | .insertMembershipRole membershipId roleId => Tenancy.insertMembershipRole membershipId roleId
  | .deleteRolesOf membershipId => deleteMembershipRoles fun link => link.1 = membershipId
  | .deleteHoldersOf roleId => deleteMembershipRoles fun link => link.2 = roleId
  | .deleteRolePermissions roleId => Tenancy.deleteRolePermissions roleId
  | .insertRolePermission roleId permissionId => Tenancy.insertRolePermission roleId permissionId

instance : Procedures.Writes Statement Database Failure := ⟨Statement.run⟩

theorem updateMembership_eq_ok {id : Nat} {change : Membership → Membership}
    {rows after : Database} (written : updateMembership id change rows = .ok after) :
    ∃ member memberships, rows.memberships.get id = some member ∧
      rows.memberships.put (change member) = some memberships ∧
      after.toTables = { rows.toTables with memberships } := by
  simp only [updateMembership] at written
  split at written
  · cases written
  · next member found =>
      split at written
      · cases written
      · next memberships accepted =>
          exact ⟨member, memberships, found, accepted, Tables.check_eq_ok.mp written⟩

theorem insertMembership_eq_ok {member : Membership} {rows after : Database}
    (written : insertMembership member rows = .ok after) :
    ∃ memberships, rows.memberships.add member = some memberships ∧
      after.toTables = { rows.toTables with memberships } := by
  simp only [insertMembership] at written
  split at written
  · cases written
  · next memberships accepted => exact ⟨memberships, accepted, Tables.check_eq_ok.mp written⟩

theorem insertOrganization_eq_ok {organization : Organization} {rows after : Database}
    (written : insertOrganization organization rows = .ok after) :
    ∃ organizations, rows.organizations.add organization = some organizations ∧
      after.toTables = { rows.toTables with organizations } := by
  simp only [insertOrganization] at written
  split at written
  · cases written
  · next organizations accepted => exact ⟨organizations, accepted, Tables.check_eq_ok.mp written⟩

theorem insertRole_eq_ok {role : Role} {rows after : Database}
    (written : insertRole role rows = .ok after) :
    ∃ roles, rows.roles.add role = some roles ∧ after.toTables = { rows.toTables with roles } := by
  simp only [insertRole] at written
  split at written
  · cases written
  · next roles accepted => exact ⟨roles, accepted, Tables.check_eq_ok.mp written⟩

theorem updateRole_eq_ok {id : Nat} {change : Role → Role} {rows after : Database}
    (written : updateRole id change rows = .ok after) :
    ∃ role roles, rows.roles.get id = some role ∧ rows.roles.put (change role) = some roles ∧
      after.toTables = { rows.toTables with roles } := by
  simp only [updateRole] at written
  split at written
  · cases written
  · next role found =>
      split at written
      · cases written
      · next roles accepted => exact ⟨role, roles, found, accepted, Tables.check_eq_ok.mp written⟩

theorem insertMembershipRole_eq_ok {membershipId roleId : Nat} {rows after : Database}
    (written : insertMembershipRole membershipId roleId rows = .ok after) :
    after.toTables = { rows.toTables with
      membershipRoles := insert (membershipId, roleId) rows.membershipRoles } := by
  simp only [insertMembershipRole] at written
  split at written
  · cases written
  · exact Tables.check_eq_ok.mp written

theorem insertRolePermission_eq_ok {roleId permissionId : Nat} {rows after : Database}
    (written : insertRolePermission roleId permissionId rows = .ok after) :
    after.toTables = { rows.toTables with
      rolePermissions := insert (roleId, permissionId) rows.rolePermissions } := by
  simp only [insertRolePermission] at written
  split at written
  · cases written
  · exact Tables.check_eq_ok.mp written

/-- The table a statement writes, if it is none of the two link tables. -/
inductive Target where
  | memberships | organizations | roles | links
  deriving DecidableEq

def Statement.target : Statement → Target
  | .updateMembership _ _ | .insertMembership _ | .deleteMembership _ => .memberships
  | .insertOrganization _ => .organizations
  | .insertRole _ | .updateRole _ _ _ | .deleteRole _ => .roles
  | .insertMembershipRole _ _ | .deleteRolesOf _ | .deleteHoldersOf _ | .deleteRolePermissions _
  | .insertRolePermission _ _ => .links

/-- A statement leaves the tables it is not about. -/
structure Frame (target : Target) (rows after : Database) : Prop where
  users : after.users = rows.users
  memberships : target ≠ .memberships → after.memberships = rows.memberships
  organizations : target ≠ .organizations → after.organizations = rows.organizations
  roles : target ≠ .roles → after.roles = rows.roles

theorem Statement.frame {statement : Statement} {rows after : Database}
    (written : statement.run rows = .ok after) : Frame statement.target rows after := by
  cases statement with
  | updateMembership loaded edited =>
      obtain ⟨_, _, -, -, stored⟩ := updateMembership_eq_ok written
      exact ⟨by rw [stored], fun other => absurd rfl other, by simp [stored], by simp [stored]⟩
  | insertMembership member =>
      obtain ⟨_, -, stored⟩ := insertMembership_eq_ok written
      exact ⟨by rw [stored], fun other => absurd rfl other, by simp [stored], by simp [stored]⟩
  | deleteMembership id =>
      have stored := Tables.check_eq_ok.mp written
      exact ⟨by rw [stored], fun other => absurd rfl other, by simp [stored], by simp [stored]⟩
  | insertOrganization organization =>
      obtain ⟨_, -, stored⟩ := insertOrganization_eq_ok written
      exact ⟨by rw [stored], by simp [stored], fun other => absurd rfl other, by simp [stored]⟩
  | insertRole role =>
      obtain ⟨_, -, stored⟩ := insertRole_eq_ok written
      exact ⟨by rw [stored], by simp [stored], by simp [stored], fun other => absurd rfl other⟩
  | updateRole id name description =>
      obtain ⟨_, _, -, -, stored⟩ := updateRole_eq_ok written
      exact ⟨by rw [stored], by simp [stored], by simp [stored], fun other => absurd rfl other⟩
  | deleteRole id =>
      have stored := Tables.check_eq_ok.mp written
      exact ⟨by rw [stored], by simp [stored], by simp [stored], fun other => absurd rfl other⟩
  | insertMembershipRole membershipId roleId =>
      have stored := insertMembershipRole_eq_ok written
      exact ⟨by rw [stored], by simp [stored], by simp [stored], by simp [stored]⟩
  | deleteRolesOf | deleteHoldersOf | deleteRolePermissions =>
      have stored := Tables.check_eq_ok.mp written
      exact ⟨by rw [stored], by simp [stored], by simp [stored], by simp [stored]⟩
  | insertRolePermission roleId permissionId =>
      have stored := insertRolePermission_eq_ok written
      exact ⟨by rw [stored], by simp [stored], by simp [stored], by simp [stored]⟩

end Writes

end SynapseSaas.Tenancy
