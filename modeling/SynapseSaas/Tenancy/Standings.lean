import SynapseSaas.Authorization.Announced
import SynapseSaas.Tenancy.RoleKeys

/-! What requests make of memberships, apart from their permission keys. -/

set_option autoImplicit false

namespace SynapseSaas.Tenancy

open Procedures Procedures.Method AuthorizationService OrganizationService

/-- A membership without the keys it has by its roles. -/
def Membership.standing (member : Membership) : Membership := { member with permissionKeys := [] }

def Database.standings (rows : Database) : List Membership :=
  rows.memberships.rows.map Membership.standing

/-- The entry with this id is replaced. -/
def restate (standings : List Membership) (new : Membership) : List Membership :=
  standings.map fun old => if old.id = new.id then new else old

/-- A membership as its acceptance leaves it. -/
def Membership.joined (member : Membership) : Option Account → Membership
  | none => { member with status := .active }
  | some user =>
      { member with userId := some user.id, invitedEmail := some user.email, status := .active }

/-- The keys name distinct roles an organization may use, one each. -/
def Database.Attachable (rows : Database) (organizationId : Nat) (roleKeys : List String) : Prop :=
  roleKeys.Nodup ∧ ∀ key ∈ roleKeys, (rows.usable organizationId key).length = 1

instance (rows : Database) (organizationId : Nat) (roleKeys : List String) :
    Decidable (rows.Attachable organizationId roleKeys) :=
  inferInstanceAs (Decidable (_ ∧ ∀ key ∈ roleKeys, _))

/-- The roles an invitation is for. -/
def invitedRoles (roleKeys : List String) : List String :=
  if roleKeys = [] then [SYSTEM_ROLE_MEMBER] else roleKeys

def Database.standingCount (rows : Database) (organizationId : Nat) (status : MembershipStatus) :
    Nat :=
  (rows.memberships.rows.filter fun member =>
    member.organizationId = organizationId ∧ member.status = status).length

/-- The limit, if there is one, leaves a seat. -/
def Database.HasSeat (rows : Database) (organizationId : Nat) (seatLimit : Option Nat) : Prop :=
  ∀ limit ∈ seatLimit, rows.standingCount organizationId .active +
    rows.standingCount organizationId .invited + 1 ≤ limit

instance (rows : Database) (organizationId : Nat) (seatLimit : Option Nat) :
    Decidable (rows.HasSeat organizationId seatLimit) :=
  inferInstanceAs (Decidable (∀ limit ∈ seatLimit, _))

/-- What a request that goes through found, and what it makes of the standings. -/
inductive Restates (mailbox : String → String) (rows : Database) :
    TenancyRequest → List Membership → Prop
  | created {organizationId membershipId ownerId : Nat} {slug name : String}
      (fresh : ∀ organization ∈ rows.organizations.rows, organization.id ≠ organizationId) :
      Restates mailbox rows (.createOrganization organizationId membershipId ownerId slug name)
        (rows.standings ++
          [⟨membershipId, organizationId, some ownerId, none, none, .active, []⟩])
  | invited {membershipId organizationId : Nat} {invitedEmail : String} {roleKeys : List String}
      {seatLimit : Option Nat} {tokenHash : String}
      (free : ∀ member ∈ rows.standings, member.organizationId = organizationId →
        member.invitedEmail ≠ some invitedEmail)
      (seat : rows.HasSeat organizationId seatLimit)
      (fresh : ∀ member ∈ rows.standings, member.id ≠ membershipId)
      (resolved : rows.Attachable organizationId (invitedRoles roleKeys)) :
      Restates mailbox rows
        (.inviteMember membershipId organizationId invitedEmail roleKeys seatLimit tokenHash)
        (rows.standings ++
          [⟨membershipId, organizationId, none, some invitedEmail, some tokenHash, .invited, []⟩])
  | acceptedByEmail {organizationId : Nat} {email : String} {member : Membership}
      {user : Option Account} (here : member ∈ rows.standings) (pending : member.status = .invited)
      (home : member.organizationId = organizationId) (invited : member.invitedEmail = some email)
      (account : ∀ found, user = some found → found ∈ rows.users.rows ∧ found.email = email)
      (only : user = none → ∀ other ∈ rows.users.rows, other.email ≠ email) :
      Restates mailbox rows (.acceptInviteByEmail organizationId email)
        (restate rows.standings (member.joined user))
  | acceptedByToken {tokenHash : String} {user : Account} {member : Membership}
      (here : member ∈ rows.standings) (pending : member.status = .invited)
      (token : member.inviteTokenHash = some tokenHash)
      (same : mailbox (member.invitedEmail.getD "") = mailbox user.email) :
      Restates mailbox rows (.acceptInviteByToken tokenHash user)
        (restate rows.standings ({ member with inviteTokenHash := none }.joined (some user)))
  | updated {membershipId : Nat} {roleKeys : Option (List String)}
      {status : Option MembershipStatus} {member : Membership} (here : member ∈ rows.standings)
      (same : member.id = membershipId)
      (resolved : ∀ keys ∈ roleKeys, rows.Attachable member.organizationId keys) :
      Restates mailbox rows (.updateMembership membershipId roleKeys status)
        (restate rows.standings { member with status := status.getD member.status })
  | removed {membershipId : Nat} :
      Restates mailbox rows (.removeMember membershipId)
        (rows.standings.filter fun member => member.id ≠ membershipId)
  | roleAssigned {membershipId : Nat} {roleKey : String} :
      Restates mailbox rows (.assignRole membershipId roleKey) rows.standings
  | roleCreated {roleId organizationId : Nat} {key name : String} {description : Option String}
      {permissionKeys : List String} :
      Restates mailbox rows
        (.createCustomRole roleId organizationId key name description permissionKeys) rows.standings
  | roleUpdated {roleId organizationId : Nat} {name description : Option String}
      {permissionKeys : Option (List String)} :
      Restates mailbox rows
        (.updateCustomRole roleId organizationId name description permissionKeys) rows.standings
  | roleDeleted {roleId organizationId : Nat} :
      Restates mailbox rows (.deleteCustomRole roleId organizationId) rows.standings

/-- The rows after a request, which keeps the users and every organization. -/
structure Progress (mailbox : String → String) (rows : Database) (request : TenancyRequest)
    (after : Database) : Prop where
  users : after.users = rows.users
  organizations : ∀ organization ∈ rows.organizations.rows, organization ∈ after.organizations.rows
  standings : Restates mailbox rows request after.standings

section Rows

variable {rows : Database} {first second : Membership}

theorem Database.mem_standings {standing : Membership} :
    standing ∈ rows.standings ↔ ∃ member ∈ rows.memberships.rows, member.standing = standing :=
  List.mem_map

theorem Database.standing_mem {member : Membership} (here : member ∈ rows.memberships.rows) :
    member.standing ∈ rows.standings :=
  List.mem_map_of_mem here

theorem Database.standings_eq_of_id (left : first ∈ rows.standings) (right : second ∈ rows.standings)
    (same : first.id = second.id) : first = second := by
  obtain ⟨member, here, rfl⟩ := mem_standings.mp left
  obtain ⟨other, there, rfl⟩ := mem_standings.mp right
  rw [rows.memberships.eq_of_id here there same]

/-- No two memberships share a key of one of the unique indexes. -/
theorem Database.standings_eq_of_key (left : first ∈ rows.standings)
    (right : second ∈ rows.standings) {index : MembershipIndex} (mine : index ∈ Keyed.keys first)
    (yours : index ∈ Keyed.keys second) : first = second := by
  obtain ⟨member, here, rfl⟩ := mem_standings.mp left
  obtain ⟨other, there, rfl⟩ := mem_standings.mp right
  rw [rows.memberships.eq_of_key here there mine yours]

theorem mem_restate {new member : Membership} {standings : List Membership} :
    member ∈ restate standings new ↔ (member = new ∧ ∃ old ∈ standings, old.id = new.id) ∨
      (member ∈ standings ∧ member.id ≠ new.id) := by
  constructor
  · intro listed
    obtain ⟨old, here, same⟩ := List.mem_map.mp listed
    split at same
    · next one => exact .inl ⟨same.symm, old, here, one⟩
    · next other => exact .inr (same ▸ ⟨here, other⟩)
  · rintro (⟨rfl, old, here, same⟩ | ⟨here, other⟩)
    · exact List.mem_map.mpr ⟨old, here, if_pos same⟩
    · exact List.mem_map.mpr ⟨member, here, if_neg other⟩

end Rows

/-! Statements that change keys and roles at most. -/

/-- The rows are as before but for permission keys, roles and what hangs on them. -/
structure Unmoved (rows now : Database) : Prop where
  users : now.users = rows.users
  organizations : now.organizations = rows.organizations
  standings : now.standings = rows.standings

def Statement.Unmoving : Statement → Prop
  | .updateMembership loaded edited => Rekeyed loaded edited
  | .insertMembership _ | .deleteMembership _ | .insertOrganization _ => False
  | _ => True

section Statements

variable {rows now after : Database} {loaded : IdentityMap} {member edited : Membership}

theorem Unmoved.refl : Unmoved rows rows := ⟨rfl, rfl, rfl⟩

theorem Unmoved.trans (first : Unmoved rows now) (second : Unmoved now after) : Unmoved rows after :=
  ⟨second.users.trans first.users, second.organizations.trans first.organizations,
    second.standings.trans first.standings⟩

/-- A statement writes the columns of a membership that the session changed. -/
theorem standings_update (written : (Statement.updateMembership member edited).run now = .ok after)
    (here : ∀ row ∈ now.memberships.rows, row.id = member.id → row.standing = member.standing)
    (id : edited.id = member.id) (organization : edited.organizationId = member.organizationId) :
    after.standings = restate now.standings edited.standing := by
  obtain ⟨row, memberships, got, accepted, stored⟩ := updateMembership_eq_ok written
  obtain ⟨there, same⟩ := Table.get_eq_some.mp got
  have stood : row.standing = member.standing := here row there same
  have changed : (member.changes edited row).standing = edited.standing := by
    have whole := congrArg Membership.standing (changes_loaded id organization)
    rw [← whole]
    cases row
    cases member
    simp only [Membership.standing, Membership.mk.injEq] at stood
    obtain ⟨rfl, rfl, rfl, rfl, rfl, rfl, -⟩ := stood
    rfl
  unfold Database.standings restate
  rw [stored, Table.put_rows accepted, List.map_map, List.map_map]
  refine List.map_congr_left fun old listed => ?_
  change Membership.standing (if old.id = (member.changes edited row).id then _ else _) =
    if old.id = edited.id then _ else _
  have one : (member.changes edited row).id = edited.id := same.trans id.symm
  rw [one]
  split
  · exact changed
  · rfl

theorem Unmoved.run {statement : Statement} (unmoved : Unmoved rows now) (may : statement.Unmoving)
    (written : statement.run now = .ok after) : Unmoved rows after := by
  obtain ⟨users, organizations, standings⟩ := unmoved
  have frame := Statement.frame written
  have aside (other : statement.target ≠ .memberships) (same : statement.target ≠ .organizations) :
      Unmoved rows after := by
    refine ⟨frame.users.trans users, (frame.organizations same).trans organizations, ?_⟩
    rw [← standings, Database.standings, frame.memberships other, Database.standings]
  cases statement with
  | insertMembership | deleteMembership | insertOrganization => cases may
  | updateMembership member edited =>
      obtain ⟨row, memberships, got, accepted, stored⟩ := updateMembership_eq_ok written
      refine ⟨frame.users.trans users, (frame.organizations Target.noConfusion).trans organizations,
        ?_⟩
      obtain ⟨keys, rfl⟩ := may
      rw [← standings, Database.standings, stored, Table.put_rows accepted, List.map_map,
        Database.standings]
      obtain ⟨there, same⟩ := Table.get_eq_some.mp got
      refine List.map_congr_left fun old listed => ?_
      simp only [Function.comp_apply]
      split
      · next one =>
          rw [now.memberships.eq_of_id listed there one]
          simp [Membership.changes, Membership.standing]
      · rfl
  | insertRole | updateRole | deleteRole | insertMembershipRole | deleteRolesOf | deleteHoldersOf
  | deleteRolePermissions | insertRolePermission =>
      exact aside Target.noConfusion Target.noConfusion

theorem unmoving_mild {statement : Statement} (mild : statement.Mild) : statement.Unmoving := by
  cases statement with
  | updateMembership => exact mild
  | insertMembershipRole | deleteRolePermissions | insertRolePermission => trivial
  | insertMembership | deleteMembership | insertOrganization | insertRole | updateRole
  | deleteRole | deleteRolesOf | deleteHoldersOf => cases mild

theorem unmoved_of_confined {Answer : Type} {promised : Answer → Prop} {method : TenancyMethod Answer}
    (confined : Confined (Unmoved rows) Statement.Unmoving promised method) (unmoved : Unmoved rows now) :
    Ensures loaded now (fun answer _ after => promised answer ∧ Unmoved rows after) method :=
  (confined.ensures (fun _ may _ _ unmoved written => unmoved.run may written) unmoved).weaken
    fun _ _ _ ⟨unmoved, kept⟩ => ⟨kept, unmoved⟩

theorem restate_self {standings : List Membership} {old : Membership}
    (same : ∀ member ∈ standings, member.id = old.id → member = old) :
    restate standings old = standings := by
  refine (List.map_congr_left fun member here => ?_).trans (List.map_id _)
  split
  · next one => exact (same member here one).symm
  · rfl

theorem restate_last {standings : List Membership} {old new : Membership}
    (others : ∀ member ∈ standings, member.id ≠ new.id) (same : old.id = new.id) :
    restate (standings ++ [old]) new = standings ++ [new] := by
  have kept : restate standings new = standings :=
    (List.map_congr_left fun member here => if_neg (others member here)).trans (List.map_id _)
  unfold restate at kept ⊢
  rw [List.map_append, kept, List.map_singleton, if_pos same]

theorem ensures_findMembership {wanted : Database → Membership → Bool} :
    Ensures loaded rows (fun found _ later => later = rows ∧
        (∀ value, found = some value → value ∈ rows.memberships.rows ∧ wanted rows value) ∧
        (found = none → ∀ member ∈ rows.memberships.rows, ¬ wanted rows member))
      (selectMembership wanted) := by
  refine ensures_oneMembership.weaken ?_
  rintro found _ _ ⟨rfl, listed⟩
  refine ⟨rfl, fun value same => ?_, fun absent member here asked => ?_⟩
  · subst same
    exact List.mem_filter.mp (listed ▸ List.mem_singleton_self value)
  · subst absent
    exact absurd (List.mem_filter.mpr ⟨here, asked⟩) (by rw [← listed]; exact List.not_mem_nil)

/-- The flush of a membership writes what the session made of it. -/
theorem ensures_restate
    (here : ∀ row ∈ now.memberships.rows, row.id = member.id → row.standing = member.standing)
    (id : edited.id = member.id) (organization : edited.organizationId = member.organizationId) :
    Ensures loaded now (fun _ _ after => after.users = now.users ∧
        after.organizations = now.organizations ∧
        after.standings = restate now.standings edited.standing)
      (flushMembership member edited) := by
  unfold flushMembership
  split
  · next same =>
      subst same
      refine ensures_pure ⟨rfl, rfl, (restate_self fun standing listed one => ?_).symm⟩
      obtain ⟨row, there, rfl⟩ := Database.mem_standings.mp listed
      exact here row there one
  · refine ensures_mutate fun after written => ?_
    obtain ⟨row, memberships, -, -, stored⟩ := updateMembership_eq_ok written
    exact ⟨by rw [stored], by rw [stored], standings_update written here id organization⟩

theorem ensures_join {new : Membership} (bare : new.standing = new) :
    Ensures loaded now (fun _ _ after => after.users = now.users ∧
        after.organizations = now.organizations ∧ after.roles = now.roles ∧
        after.standings = now.standings ++ [new] ∧ ∀ old ∈ now.standings, old.id ≠ new.id)
      (execute (.insertMembership new)) := by
  refine ensures_mutate fun after written => ?_
  obtain ⟨memberships, accepted, stored⟩ := insertMembership_eq_ok written
  refine ⟨by rw [stored], by rw [stored], by rw [stored], ?_, fun old listed => ?_⟩
  · rw [Database.standings, stored, Table.add_rows accepted, List.map_append, List.map_singleton,
      bare, Database.standings]
  · obtain ⟨row, here, rfl⟩ := Database.mem_standings.mp listed
    exact Table.add_fresh accepted row here

theorem ensures_usableRole {organizationId : Nat} {key : String} :
    Ensures loaded rows (fun found _ later => later = rows ∧
        ∀ value, found = some value → rows.usable organizationId key = [value.role])
      (selectUsableRole organizationId key) := by
  refine ensures_oneRole.weaken ?_
  rintro found _ _ ⟨rfl, listed⟩
  refine ⟨rfl, fun value same => ?_⟩
  subst same
  exact listed.symm

/-- Roles are attached only where each key names one role, and none that is held. -/
theorem ensures_attached {roleKeys : List String} :
    Ensures loaded rows (fun attached _ after => Rekeyed member attached ∧ Unmoved rows after ∧
        roleKeys.Nodup ∧ ∀ key ∈ roleKeys, ∃ role, rows.usable member.organizationId key = [role] ∧
          (member.id, role.id) ∉ rows.membershipRoles)
      (attachRoles member roleKeys) := by
  induction roleKeys generalizing loaded rows member with
  | nil => exact ensures_pure ⟨⟨_, rfl⟩, .refl, .nil, nofun⟩
  | cons roleKey rest ih =>
      have first : Ensures loaded rows (fun attached _ after => Rekeyed member attached ∧
            Unmoved rows after ∧ after.roles = rows.roles ∧
            ∃ role, rows.usable member.organizationId roleKey = [role] ∧
              (member.id, role.id) ∉ rows.membershipRoles ∧
              after.membershipRoles = insert (member.id, role.id) rows.membershipRoles)
          (AuthorizationService.attachRole member roleKey) := by
        apply ensures_usableRole.bind
        rintro found state now ⟨rfl, one⟩
        cases found with
        | none => exact ensures_fail
        | some value =>
            intro after written
            have stored := insertMembershipRole_eq_ok written
            have unmoved := @Unmoved.run now now after
              (.insertMembershipRole member.id value.role.id) .refl trivial written
            refine ⟨⟨_, rfl⟩, unmoved, by rw [stored], value.role, one value rfl, fun held => ?_,
              by rw [stored]⟩
            change Tenancy.insertMembershipRole member.id value.role.id now = _ at written
            rw [Tenancy.insertMembershipRole, if_pos held] at written
            cases written
      apply first.bind
      rintro _ state now ⟨⟨keys, rfl⟩, unmoved, same, role, here, free, linked⟩
      refine ih.weaken ?_
      rintro attached _ after ⟨⟨others, rfl⟩, again, distinct, all⟩
      have settled (key : String) (listed : key ∈ rest) : ∃ other,
          rows.usable member.organizationId key = [other] ∧
            (member.id, other.id) ∉ insert (member.id, role.id) rows.membershipRoles := by
        obtain ⟨other, there, apart⟩ := all key listed
        exact ⟨other, (usable_congr same _ _).symm.trans there, linked ▸ apart⟩
      refine ⟨⟨others, rfl⟩, unmoved.trans again, List.nodup_cons.mpr ⟨fun listed => ?_, distinct⟩,
        List.forall_mem_cons.mpr ⟨⟨role, here, free⟩, fun key listed => ?_⟩⟩
      · obtain ⟨other, there, apart⟩ := settled roleKey listed
        rw [here] at there
        cases there
        exact apart (Finset.mem_insert_self _ _)
      · obtain ⟨other, there, apart⟩ := settled key listed
        exact ⟨other, there, fun held => apart (Finset.mem_insert_of_mem held)⟩

/-- Roles are attached only where their keys name distinct ones. -/
theorem ensures_attachRoles_distinct {roleKeys : List String} :
    Ensures loaded rows (fun attached _ after => Rekeyed member attached ∧ Unmoved rows after ∧
        rows.Attachable member.organizationId roleKeys)
      (attachRoles member roleKeys) := by
  refine ensures_attached.weaken ?_
  rintro attached _ after ⟨rekeyed, unmoved, distinct, all⟩
  refine ⟨rekeyed, unmoved, distinct, fun key listed => ?_⟩
  obtain ⟨role, one, -⟩ := all key listed
  rw [one]
  rfl

theorem attachable_congr (same : now.roles = rows.roles) {organizationId : Nat}
    {roleKeys : List String} (resolved : now.Attachable organizationId roleKeys) :
    rows.Attachable organizationId roleKeys :=
  ⟨resolved.1, fun key listed => usable_congr same organizationId key ▸ resolved.2 key listed⟩

theorem ensures_unmoved {Answer : Type} {promised : Answer → Prop} {method : TenancyMethod Answer}
    (confined : ∀ rows, Confined (Unmoved rows) Statement.Unmoving promised method) :
    Ensures loaded now (fun answer _ after => promised answer ∧ Unmoved now after) method :=
  unmoved_of_confined (confined now) .refl

end Statements

section Requests

variable {mailbox : String → String} {rows : Database} {loaded : IdentityMap}

theorem Unmoved.progress {request : TenancyRequest} {after : Database} (unmoved : Unmoved rows after)
    (same : Restates mailbox rows request rows.standings) : Progress mailbox rows request after :=
  ⟨unmoved.users, fun _ here => by rwa [unmoved.organizations], by rwa [unmoved.standings]⟩

theorem progress_createOrganization {organizationId membershipId ownerId : Nat}
    {slug name : String} :
    Ensures loaded rows (fun _ _ after => Progress mailbox rows
        (.createOrganization organizationId membershipId ownerId slug name) after)
      (createOrganization organizationId membershipId ownerId slug name) := by
  let organization : Organization := ⟨organizationId, slug, name, some ownerId, false⟩
  have founded : Ensures loaded rows (fun _ _ after => after.users = rows.users ∧
        after.organizations.rows = rows.organizations.rows ++ [organization] ∧
        after.standings = rows.standings ∧
        ∀ old ∈ rows.organizations.rows, old.id ≠ organizationId)
      (execute (.insertOrganization organization)) := by
    refine ensures_mutate fun after written => ?_
    obtain ⟨organizations, accepted, stored⟩ := insertOrganization_eq_ok written
    refine ⟨by rw [stored], by rw [stored, Table.add_rows accepted], ?_,
      Table.add_fresh accepted⟩
    rw [Database.standings, stored, Database.standings]
  apply founded.bind
  rintro _ state now ⟨users, organizations, standings, fresh⟩
  apply (ensures_join rfl).bind
  rintro _ state joined ⟨users', organizations', -, standings', -⟩
  apply (ensures_unmoved fun _ => confined_selectRole).bind
  rintro found state looked ⟨-, unmoved⟩
  cases found with
  | none => exact ensures_fail
  | some ownerRole =>
      have seated : Confined (Unmoved joined) Statement.Unmoving (fun _ => True) (do
          execute (.insertMembershipRole membershipId ownerRole.role.id)
          flushMembership ⟨membershipId, organizationId, some ownerId, none, none, .active, []⟩
            ⟨membershipId, organizationId, some ownerId, none, none, .active,
              sorted ownerRole.permissions⟩) := by
        apply (confined_execute (.insertMembershipRole membershipId ownerRole.role.id) trivial).bind
        exact fun _ _ => confined_flushMembership ⟨_, rfl⟩
      refine (unmoved_of_confined seated unmoved).weaken ?_
      rintro _ _ after ⟨-, unmoved⟩
      refine ⟨unmoved.users.trans (users'.trans users), fun old here => ?_, ?_⟩
      · rw [unmoved.organizations, organizations', organizations]
        exact List.mem_append_left _ here
      · rw [unmoved.standings, standings', standings]
        exact .created fresh

theorem progress_inviteMember {membershipId organizationId : Nat} {invitedEmail tokenHash : String}
    {roleKeys : List String} {seatLimit : Option Nat} :
    Ensures loaded rows (fun _ _ after => Progress mailbox rows
        (.inviteMember membershipId organizationId invitedEmail roleKeys seatLimit tokenHash) after)
      (inviteMember membershipId organizationId invitedEmail roleKeys seatLimit tokenHash) := by
  apply ensures_findMembership.bind
  rintro found state now ⟨rfl, -, absent⟩
  cases found with
  | some member => exact ensures_fail
  | none =>
      have free : ∀ member ∈ now.standings, member.organizationId = organizationId →
          member.invitedEmail ≠ some invitedEmail := by
        intro standing listed home email
        obtain ⟨member, here, rfl⟩ := Database.mem_standings.mp listed
        exact absent rfl member here (decide_eq_true ⟨home, email⟩)
      have counted (status : MembershipStatus) (state : IdentityMap) :
          Ensures state now (fun count _ after => after = now ∧
            count = now.standingCount organizationId status) (countMembers organizationId status) :=
        ensures_select ⟨rfl, rfl⟩
      apply (counted .active state).bind
      rintro active state _ ⟨rfl, occupied⟩
      apply (counted .invited state).bind
      rintro pending state now ⟨rfl, promised⟩
      let invitee : Membership :=
        ⟨membershipId, organizationId, none, some invitedEmail, none, .invited, []⟩
      have invited (seat : now.HasSeat organizationId seatLimit) :
          Ensures state now (fun _ _ after => Progress mailbox now
            (.inviteMember membershipId organizationId invitedEmail roleKeys seatLimit tokenHash)
              after) (do
          execute (.insertMembership invitee)
          let invited ← attachRoles invitee (invitedRoles roleKeys)
          flushMembership invitee { invited with inviteTokenHash := some tokenHash }) := by
        apply (ensures_join rfl).bind
        rintro _ state joined ⟨users, organizations, roles, standings, fresh⟩
        apply ensures_attachRoles_distinct.bind
        rintro _ state later ⟨⟨keys, rfl⟩, unmoved, resolved⟩
        have stands : later.standings = now.standings ++ [invitee] :=
          unmoved.standings.trans standings
        have there (row : Membership) (here : row ∈ later.memberships.rows)
            (same : row.id = invitee.id) : row.standing = invitee.standing := by
          refine Database.standings_eq_of_id (Database.standing_mem here) ?_ same
          rw [stands]
          exact List.mem_append_right _ (List.mem_singleton_self _)
        have restated := @ensures_restate later state invitee
          { invitee with permissionKeys := keys, inviteTokenHash := some tokenHash } there rfl rfl
        refine restated.weaken ?_
        rintro _ _ after ⟨users', organizations', standings'⟩
        refine ⟨users'.trans (unmoved.users.trans users), fun old here => ?_, ?_⟩
        · rwa [organizations', unmoved.organizations, organizations]
        · have last : restate (now.standings ++ [invitee])
              { invitee with inviteTokenHash := some tokenHash } = now.standings ++
                [{ invitee with inviteTokenHash := some tokenHash }] := restate_last fresh rfl
          have listed := standings'.trans (stands.symm ▸ last)
          rw [listed]
          exact .invited free seat fresh (attachable_congr roles resolved)
      cases seatLimit with
      | none => exact invited nofun
      | some limit =>
          change Ensures state now _ (if active + pending + 1 > limit then _ else _)
          split
          · exact ensures_fail
          · next room =>
              refine invited fun other same => ?_
              cases same
              rw [← occupied, ← promised]
              exact not_lt.mp room

/-- An acceptance restates the membership it was loaded from. -/
theorem progress_accept {request : TenancyRequest} {member edited : Membership}
    {user : Option Account} (here : member ∈ rows.memberships.rows) (id : edited.id = member.id)
    (organization : edited.organizationId = member.organizationId)
    (may : Restates mailbox rows request (restate rows.standings (edited.joined user).standing)) :
    Ensures loaded rows (fun _ _ after => Progress mailbox rows request after)
      (accept member edited user) := by
  have flushed (joined : Membership) (same : joined.id = member.id)
      (home : joined.organizationId = member.organizationId)
      (may : Restates mailbox rows request (restate rows.standings joined.standing)) :
      Ensures loaded rows (fun _ _ after => Progress mailbox rows request after) (do
        flushMembership member joined
        invalidatePerms joined) := by
    have restated := @ensures_restate rows loaded member joined
      (fun row there one => by rw [rows.memberships.eq_of_id there here one]) same home
    apply restated.bind
    rintro _ state after ⟨users, organizations, standings⟩
    refine ensures_invalidateMember ⟨users, fun old here => by rwa [organizations], ?_⟩
    rw [standings]
    exact may
  cases user with
  | none => exact flushed { edited with status := .active } id organization may
  | some user =>
      let linked : Membership :=
        { edited with userId := some user.id, invitedEmail := some user.email }
      exact flushed { linked with status := .active } id organization may

theorem progress_acceptInviteByEmail {organizationId : Nat} {email : String} :
    Ensures loaded rows (fun _ _ after =>
        Progress mailbox rows (.acceptInviteByEmail organizationId email) after)
      (acceptInviteByEmail organizationId email) := by
  apply ensures_findMembership.bind
  rintro found state now ⟨rfl, known, -⟩
  cases found with
  | none => exact ensures_fail
  | some member =>
      obtain ⟨here, asked⟩ := known member rfl
      obtain ⟨home, invited, pending⟩ := of_decide_eq_true asked
      have listed : Ensures state now (fun users _ after => after = now ∧
            users = now.users.rows.filter fun user => user.email = email)
          (select fun rows => rows.users.rows.filter fun user => user.email = email) :=
        ensures_select ⟨rfl, rfl⟩
      apply listed.bind
      rintro users state now ⟨rfl, listed⟩
      have one : Ensures state now (fun user _ after => after = now ∧
            (∀ found, user = some found → found ∈ now.users.rows ∧ found.email = email) ∧
            (user = none → ∀ other ∈ now.users.rows, other.email ≠ email))
          (scalarOneOrNone users) := by
        refine ensures_one.weaken ?_
        rintro user _ _ ⟨rfl, found⟩
        rw [listed] at found
        refine ⟨rfl, fun account same => ?_, fun absent other there same => ?_⟩
        · subst same
          have listed : account ∈ (some account).toList := List.mem_singleton_self account
          have among := List.mem_filter.mp (found ▸ listed)
          exact ⟨among.1, of_decide_eq_true among.2⟩
        · subst absent
          exact absurd (List.mem_filter.mpr ⟨there, decide_eq_true same⟩)
            (by rw [← found]; exact List.not_mem_nil)
      apply one.bind
      rintro user state now ⟨rfl, account, only⟩
      refine progress_accept here rfl rfl ?_
      cases user with
      | none =>
          exact .acceptedByEmail (Database.standing_mem here) pending home invited account only
      | some user =>
          exact .acceptedByEmail (Database.standing_mem here) pending home invited account only

theorem progress_acceptInviteByToken {tokenHash : String} {user : Account} :
    Ensures loaded rows (fun _ _ after =>
        Progress mailbox rows (.acceptInviteByToken tokenHash user) after)
      (acceptInviteByToken mailbox tokenHash user) := by
  apply ensures_findMembership.bind
  rintro found state now ⟨rfl, known, -⟩
  cases found with
  | none => exact ensures_fail
  | some member =>
      obtain ⟨here, asked⟩ := known member rfl
      obtain ⟨token, pending⟩ := of_decide_eq_true asked
      change Ensures state now _
        (if mailbox (member.invitedEmail.getD "") ≠ mailbox user.email then _ else _)
      split
      · exact ensures_fail
      · next same =>
          exact progress_accept here rfl rfl
            (.acceptedByToken (Database.standing_mem here) pending token (not_not.mp same))

theorem ensures_foundMembership {membershipId : Nat} :
    Ensures loaded rows (fun member _ later => later = rows ∧ member ∈ rows.memberships.rows ∧
      member.id = membershipId) (getMembership membershipId) := by
  apply ensures_findMembership.bind
  rintro found state now ⟨rfl, known, -⟩
  cases found with
  | none => exact ensures_fail
  | some member =>
      obtain ⟨here, asked⟩ := known member rfl
      exact ensures_pure ⟨rfl, here, of_decide_eq_true asked⟩

/-- The membership is flushed with its new status once its roles are replaced. -/
theorem progress_save {now : Database} {membershipId : Nat} {roleKeys : Option (List String)}
    {status : Option MembershipStatus} {member replaced : Membership}
    (here : member ∈ rows.memberships.rows) (mine : member.id = membershipId)
    (rekeyed : Rekeyed member replaced) (unmoved : Unmoved rows now)
    (resolved : ∀ keys ∈ roleKeys, rows.Attachable member.organizationId keys) :
    Ensures loaded now (fun _ _ after =>
        Progress mailbox rows (.updateMembership membershipId roleKeys status) after) (do
      let edited : Membership := { replaced with status := status.getD replaced.status }
      flushMembership member edited
      let reloaded ← reload membershipId
      if edited.status ≠ member.status then invalidatePerms reloaded) := by
  obtain ⟨keys, rfl⟩ := rekeyed
  have stood : member.standing ∈ now.standings := by
    rw [unmoved.standings]
    exact Database.standing_mem here
  have restated := @ensures_restate now loaded member
    { member with permissionKeys := keys, status := status.getD member.status }
    (fun row there same => Database.standings_eq_of_id (Database.standing_mem there) stood same)
    rfl rfl
  apply restated.bind
  rintro _ state after ⟨users, organizations, standings⟩
  have progress : Progress mailbox rows (.updateMembership membershipId roleKeys status) after := by
    refine ⟨users.trans unmoved.users, fun old here => ?_, ?_⟩
    · rwa [organizations, unmoved.organizations]
    · rw [standings, unmoved.standings]
      exact .updated (Database.standing_mem here) mine resolved
  have cleared : Ensures state after (fun _ _ last => last = after)
      (Method.select fun _ _ => ((), IdentityMap.empty) : TenancyMethod Unit) := ensures_select rfl
  have reloading : Ensures state after (fun _ _ last => last = after) (reload membershipId) := by
    apply cleared.bind
    rintro _ state _ rfl
    exact ensures_foundMembership.weaken fun _ _ _ found => found.1
  apply reloading.bind
  rintro reloaded state after rfl
  split
  · exact ensures_invalidateMember progress
  · exact ensures_pure progress

theorem progress_updateMembership {membershipId : Nat} {roleKeys : Option (List String)}
    {status : Option MembershipStatus} :
    Ensures loaded rows (fun _ _ after =>
        Progress mailbox rows (.updateMembership membershipId roleKeys status) after)
      (OrganizationService.updateMembership membershipId roleKeys status) := by
  apply ensures_foundMembership.bind
  rintro member state now ⟨rfl, here, mine⟩
  cases roleKeys with
  | none => exact progress_save here mine ⟨_, rfl⟩ .refl nofun
  | some keys =>
      have cleared : Ensures state now (fun _ _ after => Unmoved now after ∧
          after.roles = now.roles) (execute (.deleteRolesOf member.id)) := by
        refine ensures_mutate fun after written =>
          ⟨@Unmoved.run now now after (.deleteRolesOf member.id) .refl trivial written, ?_⟩
        rw [Tables.check_eq_ok.mp written]
      have replaced : Ensures state now (fun replaced _ after => Rekeyed member replaced ∧
          Unmoved now after ∧ now.Attachable member.organizationId keys)
          (replaceRoles member keys) := by
        apply cleared.bind
        rintro _ state bare ⟨unmoved, same⟩
        apply ensures_attachRoles_distinct.bind
        rintro _ state linked ⟨⟨keys, rfl⟩, again, resolved⟩
        apply (@ensures_invalidateMember _ _ member
          (fun _ _ after => Unmoved now after) (unmoved.trans again)).bind
        intro _ _ _ settled
        exact ensures_pure ⟨⟨keys, rfl⟩, settled, attachable_congr same resolved⟩
      apply replaced.bind
      rintro edited state later ⟨rekeyed, unmoved, resolved⟩
      refine progress_save here mine rekeyed unmoved fun other same => ?_
      cases same
      exact resolved

theorem progress_removeMember {membershipId : Nat} :
    Ensures loaded rows (fun _ _ after =>
        Progress mailbox rows (.removeMember membershipId) after)
      (OrganizationService.removeMember membershipId) := by
  apply ensures_foundMembership.bind
  rintro member state now ⟨rfl, -, -⟩
  have listed : Ensures state now (fun _ _ after => after = now)
      (select fun rows => rows.organizations.rows.filter fun organization =>
        organization.id = member.organizationId ∧ organization.deleted = false) := ensures_select rfl
  apply listed.bind
  rintro organizations state now rfl
  cases organizations with
  | nil => exact ensures_fail
  | cons organization rest =>
      change Ensures state now _ (if member.userId = organization.ownerUserId then _ else _)
      split
      · exact ensures_fail
      · refine ensures_mutate fun after written => ?_
        have stored := Tables.check_eq_ok.mp written
        refine ⟨by rw [stored], fun old here => by rwa [stored], ?_⟩
        have left : after.standings = now.standings.filter fun member => member.id ≠ membershipId := by
          rw [Database.standings, stored, Database.standings, List.filter_map]
          rfl
        rw [left]
        exact .removed

/-- What any request makes of the standings, if it goes through. -/
theorem progress_request {request : TenancyRequest} :
    Ensures loaded rows (fun _ _ after => Progress mailbox rows request after)
      (request.method mailbox) := by
  have still (same : Restates mailbox rows request rows.standings)
      (confined : ∀ rows, Confined (Unmoved rows) Statement.Unmoving (fun _ => True)
        (request.method mailbox)) :
      Ensures loaded rows (fun _ _ after => Progress mailbox rows request after)
        (request.method mailbox) :=
    (ensures_unmoved confined).weaken fun _ _ _ kept => kept.2.progress same
  cases request with
  | createOrganization => exact progress_createOrganization
  | inviteMember => exact progress_inviteMember
  | acceptInviteByEmail => exact progress_acceptInviteByEmail
  | acceptInviteByToken => exact progress_acceptInviteByToken
  | updateMembership => exact progress_updateMembership
  | removeMember => exact progress_removeMember
  | assignRole membershipId roleKey =>
      refine still .roleAssigned fun _ => ?_
      apply (confined_getMembership (fun _ => True) fun _ _ _ _ _ => trivial).bind
      exact fun _ _ => confined_assignRole fun _ => unmoving_mild
  | createCustomRole =>
      exact still .roleCreated fun _ =>
        confined_createCustomRole (fun _ => unmoving_mild) fun _ => trivial
  | updateCustomRole =>
      exact still .roleUpdated fun _ =>
        confined_updateCustomRole (fun _ => unmoving_mild) fun _ => trivial
  | deleteCustomRole =>
      exact still .roleDeleted fun _ =>
        confined_deleteCustomRole (fun _ => unmoving_mild) fun _ _ _ _ _ _ => ⟨trivial, trivial⟩

/-- A step of the service is refused whole or makes of the standings what it may. -/
theorem service_progress (mailbox : String → String) (rows : Database) (request : TenancyRequest) :
    tenancyService mailbox rows request = rows ∨
      Progress mailbox rows request (tenancyService mailbox rows request) := by
  let Either (after : Database) : Prop := after = rows ∨ Progress mailbox rows request after
  have either : Either (tenancyService mailbox rows request) :=
    service_of_ensures (.inl rfl) (progress_request.weaken fun _ _ _ => .inr)
  exact either

end Requests

end SynapseSaas.Tenancy
