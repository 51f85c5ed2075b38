import SynapseSaas.Authorization.Service

/-! Organizations and their memberships: creation, invitations, acceptance, changes
and removal. -/

set_option autoImplicit false

namespace SynapseSaas.Tenancy

open Procedures (Method Proc)

/-- The seats an organization occupies: its active members and pending invitations. -/
def Membership.seated (member : Membership) : Bool := member.status = .active ∨ member.status = .invited

namespace OrganizationService

/-- Attach a role, as `assign_role` does. -/
def attachRole (member : Membership) (roleKey : String) : TenancyMethod Membership :=
  AuthorizationService.attachRole member roleKey

def attachRoles (member : Membership) : List String → TenancyMethod Membership
  | [] => return member
  | roleKey :: rest => do
      let attached ← attachRole member roleKey
      attachRoles attached rest

def countMembers (organizationId : Nat) (status : MembershipStatus) : TenancyMethod Nat :=
  select fun rows => (rows.memberships.rows.filter fun member =>
    member.organizationId = organizationId ∧ member.status = status).length

def invalidatePerms (member : Membership) : TenancyMethod Unit :=
  AuthorizationService.invalidateMember member

/-- From the point where the slug is settled; the default subscription is created
in tables of its own. -/
def createOrganization (organizationId membershipId ownerId : Nat) (slug name : String) :
    TenancyMethod Unit := do
  execute (.insertOrganization ⟨organizationId, slug, name, some ownerId, false⟩)
  let member : Membership := ⟨membershipId, organizationId, some ownerId, none, none, .active, []⟩
  execute (.insertMembership member)
  let wanted (_ : Database) (role : Role) : Bool :=
    role.key = SYSTEM_ROLE_OWNER ∧ role.organizationId = none
  match ← selectRole wanted with
  | none => Method.fail (.other .noResult)
  | some ownerRole => do
      execute (.insertMembershipRole membershipId ownerRole.role.id)
      flushMembership member { member with permissionKeys := sorted ownerRole.permissions }

def inviteMember (membershipId organizationId : Nat) (invitedEmail : String)
    (roleKeys : List String) (seatLimit : Option Nat) (tokenHash : String) : TenancyMethod Unit := do
  let wanted (_ : Database) (member : Membership) : Bool :=
    member.organizationId = organizationId ∧ member.invitedEmail = some invitedEmail
  match ← selectMembership wanted with
  | some member =>
      raiseError .conflict "This email is already invited to (or a member of) the organization"
        [("email", .str invitedEmail),
          ("membership_status", .str (match member.status with
            | .invited => "invited"
            | .active => "active"
            | .suspended => "suspended"))]
  | none => do
      let active ← countMembers organizationId .active
      let pending ← countMembers organizationId .invited
      if let some limit := seatLimit then
        if active + pending + 1 > limit then
          raiseError .membershipLimitReached "Seat limit reached for the current plan"
            [("metric", .str "users"), ("limit", .int limit), ("used", .int (active + pending)),
              ("upgrade_url", .str "/dashboard/billing")]
      let member : Membership :=
        ⟨membershipId, organizationId, none, some invitedEmail, none, .invited, []⟩
      execute (.insertMembership member)
      let invited ← attachRoles member (if roleKeys = [] then [SYSTEM_ROLE_MEMBER] else roleKeys)
      flushMembership member { invited with inviteTokenHash := some tokenHash }

/-- An invitation becomes an active membership. -/
def accept (loaded member : Membership) (user : Option Account) : TenancyMethod Unit := do
  let linked : Membership :=
    match user with
    | some user => { member with userId := some user.id, invitedEmail := some user.email }
    | none => member
  let joined : Membership := { linked with status := .active }
  flushMembership loaded joined
  invalidatePerms joined

def acceptInviteByEmail (organizationId : Nat) (email : String) : TenancyMethod Unit := do
  let pending (_ : Database) (member : Membership) : Bool :=
    member.organizationId = organizationId ∧ member.invitedEmail = some email ∧
      member.status = .invited
  match ← selectMembership pending with
  | none => raiseError .inviteNotFound "No pending invite for this email"
  | some member => do
      let users ← select fun rows => rows.users.rows.filter fun user => user.email = email
      let user ← scalarOneOrNone users
      accept member member user

/-- The two addresses name one mailbox once trimmed and in lower case. -/
def acceptInviteByToken (mailbox : String → String) (tokenHash : String) (user : Account) :
    TenancyMethod Unit := do
  let pending (_ : Database) (member : Membership) : Bool :=
    member.inviteTokenHash = some tokenHash ∧ member.status = .invited
  match ← selectMembership pending with
  | none => raiseError .inviteNotFound "Invite not found or already used"
  | some member =>
      if mailbox (member.invitedEmail.getD "") ≠ mailbox user.email then
        raiseError .permissionDenied "This invitation was sent to a different email address"
      else accept member { member with inviteTokenHash := none } (some user)

def getMembership (membershipId : Nat) : TenancyMethod Membership := do
  match ← selectMembership fun _ member => member.id = membershipId with
  | none => raiseError .notAMember "Membership not found"
  | some member => return member

def replaceRoles (member : Membership) (roleKeys : List String) : TenancyMethod Membership := do
  execute (.deleteRolesOf member.id)
  let replaced ← attachRoles { member with permissionKeys := [] } roleKeys
  invalidatePerms member
  return replaced

/-- The membership is loaded anew after the flush; nothing loaded before is kept. -/
def reload (membershipId : Nat) : TenancyMethod Membership := do
  Method.select fun _ _ => ((), IdentityMap.empty)
  getMembership membershipId

def updateMembership (membershipId : Nat) (roleKeys : Option (List String))
    (status : Option MembershipStatus) : TenancyMethod Unit := do
  let member ← getMembership membershipId
  let replaced ← match roleKeys with
    | none => pure member
    | some keys => replaceRoles member keys
  let edited : Membership := { replaced with status := status.getD replaced.status }
  flushMembership member edited
  let reloaded ← reload membershipId
  if edited.status ≠ member.status then invalidatePerms reloaded

def removeMember (membershipId : Nat) : TenancyMethod Unit := do
  let member ← getMembership membershipId
  let organizations ← select fun rows => rows.organizations.rows.filter fun organization =>
    organization.id = member.organizationId ∧ organization.deleted = false
  match organizations with
  | [] => raiseError .organizationNotFound "Organization not found"
  | organization :: _ =>
      if member.userId = organization.ownerUserId then
        raiseError .notAMember "The owner cannot be removed; transfer ownership first"
      else execute (.deleteMembership membershipId)

end OrganizationService

/-- A request to either service, with the ids and hashes of what it draws. -/
inductive TenancyRequest where
  | createOrganization (organizationId membershipId ownerId : Nat) (slug name : String)
  | inviteMember (membershipId organizationId : Nat) (invitedEmail : String)
      (roleKeys : List String) (seatLimit : Option Nat) (tokenHash : String)
  | acceptInviteByEmail (organizationId : Nat) (email : String)
  | acceptInviteByToken (tokenHash : String) (user : Account)
  | updateMembership (membershipId : Nat) (roleKeys : Option (List String))
      (status : Option MembershipStatus)
  | removeMember (membershipId : Nat)
  | assignRole (membershipId : Nat) (roleKey : String)
  | createCustomRole (roleId organizationId : Nat) (key name : String) (description : Option String)
      (permissionKeys : List String)
  | updateCustomRole (roleId organizationId : Nat) (name description : Option String)
      (permissionKeys : Option (List String))
  | deleteCustomRole (roleId organizationId : Nat)
  deriving DecidableEq, Repr

def TenancyRequest.method (mailbox : String → String) : TenancyRequest → TenancyMethod Unit
  | .createOrganization organizationId membershipId ownerId slug name =>
      OrganizationService.createOrganization organizationId membershipId ownerId slug name
  | .inviteMember membershipId organizationId invitedEmail roleKeys seatLimit tokenHash =>
      OrganizationService.inviteMember membershipId organizationId invitedEmail roleKeys seatLimit
        tokenHash
  | .acceptInviteByEmail organizationId email =>
      OrganizationService.acceptInviteByEmail organizationId email
  | .acceptInviteByToken tokenHash user =>
      OrganizationService.acceptInviteByToken mailbox tokenHash user
  | .updateMembership membershipId roleKeys status =>
      OrganizationService.updateMembership membershipId roleKeys status
  | .removeMember membershipId => OrganizationService.removeMember membershipId
  | .assignRole membershipId roleKey => do
      let member ← OrganizationService.getMembership membershipId
      AuthorizationService.assignRole member roleKey
  | .createCustomRole roleId organizationId key name description permissionKeys =>
      AuthorizationService.createCustomRole roleId organizationId key name description permissionKeys
  | .updateCustomRole roleId organizationId name description permissionKeys =>
      AuthorizationService.updateCustomRole roleId organizationId name description permissionKeys
  | .deleteCustomRole roleId organizationId =>
      AuthorizationService.deleteCustomRole roleId organizationId

abbrev TenancyProc := Proc Database Statement Invalidation Failure

/-- The request in a session of its own. -/
def TenancyRequest.proc (mailbox : String → String) (request : TenancyRequest) :
    TenancyProc (Unit × IdentityMap) :=
  (request.method mailbox).run IdentityMap.empty

/-- The service with nothing beside a request: each is committed whole or not at all. -/
def tenancyService (mailbox : String → String) : Database → TenancyRequest → Database :=
  Transaction.requests fun rows request => ((request.proc mailbox).alone rows).map (·.2)

/-- The request leaves what its method leaves, or nothing new. -/
theorem service_of_ensures {mailbox : String → String} {rows : Database} {request : TenancyRequest}
    {property : Database → Prop} (holds : property rows)
    (ensured : Method.Ensures IdentityMap.empty rows (fun _ _ later => property later)
      (request.method mailbox)) :
    property (tenancyService mailbox rows request) := by
  apply Transaction.commit_cases holds
  intro after ended
  change ((request.proc mailbox).alone rows).map (·.2) = .ok after at ended
  cases ran : (request.proc mailbox).alone rows with
  | error failure =>
      rw [ran] at ended
      cases ended
  | ok result =>
      rw [ran] at ended
      cases ended
      exact Proc.ensures_iff.mp ensured result.1 result.2 ran

end SynapseSaas.Tenancy
