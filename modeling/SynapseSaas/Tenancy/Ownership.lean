import SynapseSaas.Tenancy.Confined

/-! The owner of an organization: its membership, and the system role it holds. -/

set_option autoImplicit false

namespace SynapseSaas.Tenancy

open Procedures Procedures.Method AuthorizationService OrganizationService

/-- The membership of `owner_user_id` exists, is active and holds the system owner role. -/
def Database.Owned (rows : Database) (organizationId : Nat) : Prop :=
  ∃ organization ∈ rows.organizations.rows, organization.id = organizationId ∧
    ∃ member ∈ rows.memberships.rows, member.organizationId = organizationId ∧
      member.userId = organization.ownerUserId ∧ member.userId.isSome ∧ member.status = .active ∧
      ∃ role ∈ rows.roles.rows, role.organizationId = none ∧ role.key = SYSTEM_ROLE_OWNER ∧
        rows.Holds member.id role

instance (rows : Database) (organizationId : Nat) : Decidable (rows.Owned organizationId) :=
  inferInstanceAs (Decidable (∃ organization ∈ rows.organizations.rows, _ ∧
    ∃ member ∈ rows.memberships.rows, _ ∧ _ ∧ _ ∧ _ ∧ ∃ role ∈ rows.roles.rows, _))

/-- The rows that make somebody the owner. -/
structure Ownership where
  organizationId : Nat
  ownerId : Nat
  membershipId : Nat
  roleId : Nat

namespace Ownership

/-- The rows are there, but the owner's membership may hold no role. -/
structure Seated (own : Ownership) (rows : Database) : Prop where
  organization : ∃ organization ∈ rows.organizations.rows,
    organization.id = own.organizationId ∧ organization.ownerUserId = some own.ownerId
  member : ∃ member ∈ rows.memberships.rows, member.id = own.membershipId ∧
    member.organizationId = own.organizationId ∧ member.userId = some own.ownerId ∧
    member.status = .active
  role : ∃ role ∈ rows.roles.rows, role.id = own.roleId ∧ role.organizationId = none ∧
    role.key = SYSTEM_ROLE_OWNER

structure Stands (own : Ownership) (rows : Database) : Prop extends own.Seated rows where
  held : (own.membershipId, own.roleId) ∈ rows.membershipRoles

/-- A statement that neither demotes the owner's membership nor takes its row away,
and leaves the role. -/
def Tolerates (own : Ownership) : Statement → Prop
  | .updateMembership loaded edited => loaded.id = own.membershipId →
      (edited.status = loaded.status ∨ edited.status = .active) ∧
        (edited.userId = loaded.userId ∨ edited.userId = some own.ownerId)
  | .deleteMembership id => id ≠ own.membershipId
  | .deleteRole id => id ≠ own.roleId
  | _ => True

/-- A statement that also leaves the owner's membership its role. -/
def Spares (own : Ownership) : Statement → Prop
  | .deleteRolesOf membershipId => membershipId ≠ own.membershipId
  | .deleteHoldersOf roleId => roleId ≠ own.roleId
  | statement => own.Tolerates statement

variable {own : Ownership} {rows after : Database} {statement : Statement}

theorem Spares.tolerates (spares : own.Spares statement) : own.Tolerates statement := by
  cases statement <;> first | exact spares | trivial

theorem Seated.update {loaded edited : Membership} (seated : own.Seated rows)
    (tolerates : own.Tolerates (.updateMembership loaded edited))
    (written : updateMembership loaded.id (loaded.changes edited) rows = .ok after) :
    own.Seated after := by
  obtain ⟨row, memberships, got, accepted, stored⟩ := updateMembership_eq_ok written
  obtain ⟨there, same⟩ := Table.get_eq_some.mp got
  have kept : Keyed.id (loaded.changes edited row) = Keyed.id row := rfl
  obtain ⟨member, here, id, organization, user, active⟩ := seated.member
  refine ⟨by rw [stored]; exact seated.organization, ?_, by rw [stored]; exact seated.role⟩
  rw [stored]
  by_cases own' : member = row
  · subst own'
    obtain ⟨status, userId⟩ := tolerates (same.symm.trans id)
    refine ⟨loaded.changes edited member, (Table.mem_put here kept accepted _).mpr (.inl rfl), id,
      organization, ?_, ?_⟩
    · change (if edited.userId = loaded.userId then member.userId else edited.userId) = _
      split
      · exact user
      · next moved => exact userId.resolve_left moved
    · change (if edited.status = loaded.status then member.status else edited.status) = _
      split
      · exact active
      · next moved => exact status.resolve_left moved
  · exact ⟨member, (Table.mem_put there kept accepted _).mpr (.inr ⟨here, own'⟩), id, organization,
      user, active⟩

theorem Seated.updateRole {id : Nat} {name description : Option String} (seated : own.Seated rows)
    (written : Tenancy.updateRole id (Role.rename name description) rows = .ok after) :
    own.Seated after := by
  obtain ⟨row, roles, got, accepted, stored⟩ := updateRole_eq_ok written
  obtain ⟨there, -⟩ := Table.get_eq_some.mp got
  have kept : Keyed.id (Role.rename name description row) = Keyed.id row := rfl
  obtain ⟨role, here, same, shared, key⟩ := seated.role
  refine ⟨by rw [stored]; exact seated.organization, by rw [stored]; exact seated.member, ?_⟩
  rw [stored]
  by_cases mine : role = row
  · subst mine
    exact ⟨_, (Table.mem_put here kept accepted _).mpr (.inl rfl), same, shared, key⟩
  · exact ⟨role, (Table.mem_put there kept accepted _).mpr (.inr ⟨here, mine⟩), same, shared, key⟩

/-- Whatever a tolerable statement does, the owner's rows stay. -/
theorem Seated.run (seated : own.Seated rows) (statement : Statement) (tolerates : own.Tolerates statement)
    (written : statement.run rows = .ok after) : own.Seated after := by
  -- Where other tables are written, the three rows are those that were.
  have elsewhere (organizations : ∀ row ∈ rows.organizations.rows, row ∈ after.organizations.rows)
      (memberships : ∀ row ∈ rows.memberships.rows, row.id = own.membershipId →
        row ∈ after.memberships.rows)
      (roles : ∀ row ∈ rows.roles.rows, row.id = own.roleId → row ∈ after.roles.rows) :
      own.Seated after := by
    obtain ⟨⟨organization, found, facts⟩, ⟨member, here, id, standing⟩, role, there, same, shared⟩ :=
      seated
    exact ⟨⟨organization, organizations _ found, facts⟩,
      ⟨member, memberships _ here id, id, standing⟩, role, roles _ there same, same, shared⟩
  have untouched (organizations : after.organizations = rows.organizations)
      (memberships : after.memberships = rows.memberships) (roles : after.roles = rows.roles) :
      own.Seated after := by
    apply elsewhere
    · exact fun row here => organizations ▸ here
    · exact fun row here _ => memberships ▸ here
    · exact fun row here _ => roles ▸ here
  cases statement with
  | updateMembership loaded edited => exact seated.update tolerates written
  | updateRole id name description => exact seated.updateRole written
  | insertMembership member =>
      obtain ⟨memberships, accepted, stored⟩ := insertMembership_eq_ok written
      have listed := Table.add_rows accepted
      refine elsewhere ?_ ?_ ?_
      · simp +contextual [stored]
      · intro row here _
        simp [stored, listed, here]
      · simp +contextual [stored]
  | insertOrganization organization =>
      obtain ⟨organizations, accepted, stored⟩ := insertOrganization_eq_ok written
      have listed := Table.add_rows accepted
      refine elsewhere ?_ ?_ ?_
      · intro row here
        simp [stored, listed, here]
      · simp +contextual [stored]
      · simp +contextual [stored]
  | insertRole role =>
      obtain ⟨roles, accepted, stored⟩ := insertRole_eq_ok written
      have listed := Table.add_rows accepted
      refine elsewhere ?_ ?_ ?_
      · simp +contextual [stored]
      · simp +contextual [stored]
      · intro row here _
        simp [stored, listed, here]
  | deleteMembership id =>
      have stored := Tables.check_eq_ok.mp written
      refine elsewhere ?_ ?_ ?_
      · simp +contextual [stored]
      · intro row here mine
        rw [stored]
        exact Table.mem_remove.mpr ⟨here, fun same => tolerates (same.symm.trans mine)⟩
      · simp +contextual [stored]
  | deleteRole id =>
      have stored := Tables.check_eq_ok.mp written
      refine elsewhere ?_ ?_ ?_
      · simp +contextual [stored]
      · simp +contextual [stored]
      · intro row here mine
        rw [stored]
        exact Table.mem_remove.mpr ⟨here, fun same => tolerates (same.symm.trans mine)⟩
  | insertMembershipRole | deleteRolesOf | deleteHoldersOf | deleteRolePermissions
  | insertRolePermission =>
      have frame := Statement.frame written
      exact untouched (frame.organizations Target.noConfusion) (frame.memberships Target.noConfusion)
        (frame.roles Target.noConfusion)

theorem Stands.run (stands : own.Stands rows) (statement : Statement) (spares : own.Spares statement)
    (written : statement.run rows = .ok after) : own.Stands after := by
  refine ⟨stands.toSeated.run statement spares.tolerates written, ?_⟩
  have held := stands.held
  cases statement with
  | updateMembership loaded edited =>
      obtain ⟨_, _, -, -, stored⟩ := updateMembership_eq_ok written
      rwa [stored]
  | updateRole id name description =>
      obtain ⟨_, _, -, -, stored⟩ := updateRole_eq_ok written
      rwa [stored]
  | insertMembership member =>
      obtain ⟨_, -, stored⟩ := insertMembership_eq_ok written
      rwa [stored]
  | insertOrganization organization =>
      obtain ⟨_, -, stored⟩ := insertOrganization_eq_ok written
      rwa [stored]
  | insertRole role =>
      obtain ⟨_, -, stored⟩ := insertRole_eq_ok written
      rwa [stored]
  | deleteMembership id =>
      rw [Tables.check_eq_ok.mp written]
      exact Finset.mem_filter.mpr ⟨held, Ne.symm spares⟩
  | deleteRole id =>
      rw [Tables.check_eq_ok.mp written]
      exact Finset.mem_filter.mpr ⟨held, Ne.symm spares⟩
  | insertMembershipRole membershipId roleId =>
      rw [insertMembershipRole_eq_ok written]
      exact Finset.mem_insert_of_mem held
  | deleteRolesOf membershipId =>
      rw [Tables.check_eq_ok.mp written]
      exact Finset.mem_filter.mpr ⟨held, by simpa using Ne.symm spares⟩
  | deleteHoldersOf roleId =>
      rw [Tables.check_eq_ok.mp written]
      exact Finset.mem_filter.mpr ⟨held, by simpa using Ne.symm spares⟩
  | deleteRolePermissions roleId =>
      rwa [Tables.check_eq_ok.mp written]
  | insertRolePermission roleId permissionId =>
      rwa [insertRolePermission_eq_ok written]

/-- Where the owner stands, its membership is the one row with that id. -/
theorem Seated.membership (seated : own.Seated rows) {member : Membership}
    (here : member ∈ rows.memberships.rows) (mine : member.id = own.membershipId) :
    member.organizationId = own.organizationId ∧ member.userId = some own.ownerId ∧
      member.status = .active := by
  obtain ⟨owner, there, same, standing⟩ := seated.member
  cases rows.memberships.eq_of_id here there (mine.trans same.symm)
  exact standing

theorem Seated.shared (seated : own.Seated rows) {role : Role} (here : role ∈ rows.roles.rows)
    (mine : role.id = own.roleId) : role.organizationId = none := by
  obtain ⟨owners, there, same, shared, -⟩ := seated.role
  cases rows.roles.eq_of_id here there (mine.trans same.symm)
  exact shared

theorem Seated.founder (seated : own.Seated rows) {organization : Organization}
    (here : organization ∈ rows.organizations.rows) (mine : organization.id = own.organizationId) :
    organization.ownerUserId = some own.ownerId := by
  obtain ⟨founded, there, same, owner⟩ := seated.organization
  cases rows.organizations.eq_of_id here there (mine.trans same.symm)
  exact owner

end Ownership

/-! The requests, but for a change of the owner's own roles, spare the owner. -/

section Requests

variable {own : Ownership}

/-- The method spares the owner, where the owner stands. -/
abbrev Harmless {Answer : Type} (own : Ownership) (promised : Answer → Prop) :
    TenancyMethod Answer → Prop := Confined own.Stands own.Spares promised

/-- What a session makes of a membership without taking it from the owner. -/
def SameStanding (member edited : Membership) : Prop :=
  edited.status = member.status ∧ edited.userId = member.userId

theorem spares_rekeyed {member edited : Membership} (same : SameStanding member edited) :
    own.Spares (.updateMembership member edited) := fun _ => ⟨.inl same.1, .inl same.2⟩

theorem spares_mild {statement : Statement} (mild : statement.Mild) : own.Spares statement := by
  cases statement with
  | updateMembership loaded edited =>
      obtain ⟨keys, rfl⟩ := mild
      exact spares_rekeyed ⟨rfl, rfl⟩
  | insertMembershipRole | deleteRolePermissions | insertRolePermission => trivial
  | insertMembership | deleteMembership | insertOrganization | insertRole | updateRole
  | deleteRole | deleteRolesOf | deleteHoldersOf => cases mild

theorem harmless_createOrganization {organizationId membershipId ownerId : Nat}
    {slug name : String} :
    Harmless own (fun _ => True)
      (createOrganization organizationId membershipId ownerId slug name) := by
  apply (confined_execute (.insertOrganization _) trivial).bind
  intro _ _
  apply (confined_execute (.insertMembership _) trivial).bind
  intro _ _
  apply confined_selectRole.bind
  intro role _
  cases role with
  | none => exact confined_fail
  | some role =>
      apply (confined_execute (.insertMembershipRole _ _) trivial).bind
      intro _ _
      exact confined_flushMembership (spares_rekeyed ⟨rfl, rfl⟩)

theorem harmless_inviteMember {membershipId organizationId : Nat} {invitedEmail : String}
    {roleKeys : List String} {seatLimit : Option Nat} {tokenHash : String} :
    Harmless own (fun _ => True)
      (inviteMember membershipId organizationId invitedEmail roleKeys seatLimit tokenHash) := by
  apply (confined_selectMembership (fun _ => True) fun _ _ _ _ _ => trivial).bind
  intro found _
  cases found with
  | some member => exact confined_fail
  | none =>
      have counted (status : MembershipStatus) :
          Harmless own (fun _ => True) (countMembers organizationId status) :=
        confined_select _ fun _ _ => trivial
      apply (counted .active).bind
      intro active _
      apply (counted .invited).bind
      intro pending _
      let invitee : Membership :=
        ⟨membershipId, organizationId, none, some invitedEmail, none, .invited, []⟩
      have invited : Harmless own (fun _ => True) (do
          execute (.insertMembership invitee)
          let invited ← attachRoles invitee (if roleKeys = [] then [SYSTEM_ROLE_MEMBER] else roleKeys)
          flushMembership invitee { invited with inviteTokenHash := some tokenHash }) := by
        apply (confined_execute (.insertMembership _) trivial).bind
        intro _ _
        apply (confined_attachRoles fun _ => spares_mild).bind
        rintro _ ⟨keys, rfl⟩
        exact confined_flushMembership (spares_rekeyed ⟨rfl, rfl⟩)
      cases seatLimit with
      | none => exact invited
      | some limit =>
          change Harmless own _ (if active + pending + 1 > limit then _ else _)
          split
          · exact confined_fail
          · exact invited

/-- An invitation is nobody's, so it is not the owner's membership. -/
theorem invited_ne_owner {rows : Database} (stands : own.Stands rows) {member : Membership}
    (here : member ∈ rows.memberships.rows) (pending : member.status = .invited) :
    member.id ≠ own.membershipId := by
  intro mine
  have active := (stands.membership here mine).2.2
  rw [pending] at active
  cases active

theorem harmless_accept {member edited : Membership} {user : Option Account}
    (other : member.id ≠ own.membershipId) :
    Harmless own (fun _ => True) (accept member edited user) := by
  unfold accept
  apply (confined_flushMembership (fun mine => absurd mine other)).bind
  exact fun _ _ => confined_invalidateMember

theorem harmless_acceptInviteByEmail {organizationId : Nat} {email : String} :
    Harmless own (fun _ => True) (acceptInviteByEmail organizationId email) := by
  have pending : Harmless own
      (fun found => ∀ member, found = some member → member.id ≠ own.membershipId)
      (selectMembership fun _ member => member.organizationId = organizationId ∧
        member.invitedEmail = some email ∧ member.status = .invited) :=
    confined_selectMembership _ fun rows stands member here wanted =>
      invited_ne_owner stands here (of_decide_eq_true wanted).2.2
  apply pending.bind
  intro found known
  cases found with
  | none => exact confined_fail
  | some member =>
      apply (confined_select (fun _ => True) fun _ _ => trivial).bind
      intro users _
      apply (confined_scalarOneOrNone (fun _ => True) fun _ _ => trivial).bind
      intro user _
      exact harmless_accept (known member rfl)

theorem harmless_acceptInviteByToken {mailbox : String → String} {tokenHash : String}
    {user : Account} :
    Harmless own (fun _ => True) (acceptInviteByToken mailbox tokenHash user) := by
  have pending : Harmless own
      (fun found => ∀ member, found = some member → member.id ≠ own.membershipId)
      (selectMembership fun _ member => member.inviteTokenHash = some tokenHash ∧
        member.status = .invited) :=
    confined_selectMembership _ fun rows stands member here wanted =>
      invited_ne_owner stands here (of_decide_eq_true wanted).2
  apply pending.bind
  intro found known
  cases found with
  | none => exact confined_fail
  | some member =>
      change Harmless own _ (if mailbox (member.invitedEmail.getD "") ≠ mailbox user.email then _ else _)
      split
      · exact confined_fail
      · exact harmless_accept (known member rfl)

/-- A membership that is looked up where the owner stands: the owner's is active. -/
def Located (own : Ownership) (membershipId : Nat) (member : Membership) : Prop :=
  member.id = membershipId ∧ (membershipId = own.membershipId →
    member.organizationId = own.organizationId ∧ member.userId = some own.ownerId ∧
      member.status = .active)

theorem harmless_getMembership {membershipId : Nat} :
    Harmless own (Located own membershipId) (getMembership membershipId) :=
  confined_getMembership _ fun _ stands _ here asked =>
    ⟨asked, fun mine => stands.membership here (asked.trans mine)⟩

theorem harmless_removeMember {membershipId : Nat} :
    Harmless own (fun _ => True) (removeMember membershipId) := by
  apply harmless_getMembership.bind
  rintro member ⟨asked, standing⟩
  have founded : Harmless own (fun found => ∀ organization ∈ found,
        member.organizationId = own.organizationId →
          organization.ownerUserId = some own.ownerId)
      (select fun rows => rows.organizations.rows.filter fun organization =>
        organization.id = member.organizationId ∧ organization.deleted = false) := by
    refine confined_select _ fun rows stands organization found home => ?_
    obtain ⟨here, wanted⟩ := List.mem_filter.mp found
    exact stands.founder here ((of_decide_eq_true wanted).1.trans home)
  apply founded.bind
  intro organizations owned
  cases organizations with
  | nil => exact confined_fail
  | cons organization rest =>
      change Harmless own _ (if member.userId = organization.ownerUserId then _ else _)
      split
      · exact confined_fail
      · next other =>
          -- The owner's membership would be refused here.
          refine confined_execute _ fun mine => other ?_
          obtain ⟨home, user, -⟩ := standing mine
          rw [user, owned organization (by simp) home]

/-- A role of an organization is not the owners'. -/
theorem custom_ne_owners {rows : Database} (stands : own.Stands rows) {role : Role}
    (here : role ∈ rows.roles.rows) {organizationId : Nat}
    (home : role.organizationId = some organizationId) : role.id ≠ own.roleId := by
  intro mine
  rw [stands.shared here mine] at home
  cases home

/-- The saving of a changed membership spares the owner, unless it takes the owner's
seat away. -/
theorem harmless_save {membershipId : Nat} {status : Option MembershipStatus}
    {member edited : Membership} (located : Located own membershipId member)
    (rekeyed : Rekeyed member edited)
    (kept : membershipId = own.membershipId → ∀ value, status = some value → value = .active) :
    Harmless own (fun _ => True) (do
      flushMembership member { edited with status := status.getD edited.status }
      let reloaded ← reload membershipId
      if status.getD edited.status ≠ member.status then invalidatePerms reloaded) := by
  obtain ⟨keys, rfl⟩ := rekeyed
  have spared : own.Spares (.updateMembership member
      { member with permissionKeys := keys, status := status.getD member.status }) := by
    intro mine
    refine ⟨?_, .inl rfl⟩
    cases asked : status with
    | none => exact .inl rfl
    | some value => exact .inr (kept (located.1.symm.trans mine) value asked)
  apply (confined_flushMembership spared).bind
  intro _ _
  have reloaded : Harmless own (Located own membershipId) (reload membershipId) := by
    have cleared : Harmless own (fun _ => True)
        (Method.select fun _ _ => ((), IdentityMap.empty) : TenancyMethod Unit) :=
      fun _ _ => leaves_select fun _ _ => trivial
    apply cleared.bind
    exact fun _ _ => harmless_getMembership
  apply reloaded.bind
  intro again _
  split
  · exact confined_invalidateMember
  · exact confined_pure trivial

/-- A change of another membership, or one that leaves the owner's roles alone. -/
theorem harmless_updateMembership {membershipId : Nat} {roleKeys : Option (List String)}
    {status : Option MembershipStatus}
    (apart : roleKeys.isSome → membershipId ≠ own.membershipId)
    (kept : membershipId = own.membershipId → ∀ value, status = some value → value = .active) :
    Harmless own (fun _ => True)
      (OrganizationService.updateMembership membershipId roleKeys status) := by
  apply harmless_getMembership.bind
  intro member located
  cases roleKeys with
  | none => exact harmless_save located ⟨_, rfl⟩ kept
  | some keys =>
      have spared : own.Spares (.deleteRolesOf member.id) := by
        rw [located.1]
        exact apart rfl
      have replaced : Harmless own (Rekeyed member) (replaceRoles member keys) := by
        apply (confined_execute _ spared).bind
        intro _ _
        apply (confined_attachRoles fun _ => spares_mild).bind
        rintro _ ⟨keys, rfl⟩
        apply confined_invalidateMember.bind
        exact fun _ _ => confined_pure ⟨keys, rfl⟩
      apply replaced.bind
      exact fun edited rekeyed => harmless_save located rekeyed kept

end Requests

/-! The owner's membership is given the owner role anew. -/

section Reassigned

variable {own : Ownership} {rows : Database} {loaded : IdentityMap}

theorem ensures_harmless {Answer : Type} {promised : Answer → Prop} {method : TenancyMethod Answer}
    (harmless : Harmless own promised method) (stands : own.Stands rows) :
    Ensures loaded rows (fun answer _ after => own.Stands after ∧ promised answer) method :=
  harmless.ensures (fun statement spares _ _ stands written => stands.run statement spares written)
    stands

/-- The one role a lookup finds is the only one it looks for. -/
theorem ensures_selectRole_only {wanted : Database → Role → Bool} :
    Ensures loaded rows (fun found _ later => later = rows ∧ ∀ value, found = some value →
        ∀ role, role ∈ rows.roles.rows ∧ wanted rows role ↔ role = value.role)
      (selectRole wanted) := by
  refine ensures_oneRole.weaken ?_
  rintro found _ _ ⟨rfl, listed⟩
  refine ⟨rfl, fun value same role => ?_⟩
  subst same
  rw [← List.mem_filter, ← listed]
  exact List.mem_singleton

theorem ensures_attachRole_owner {member : Membership} {roleKey : String}
    (mine : member.id = own.membershipId) (seated : own.Seated rows) :
    Ensures loaded rows (fun edited _ after => own.Seated after ∧
        (roleKey = SYSTEM_ROLE_OWNER ∨ (own.membershipId, own.roleId) ∈ rows.membershipRoles →
          (own.membershipId, own.roleId) ∈ after.membershipRoles) ∧ Rekeyed member edited)
      (AuthorizationService.attachRole member roleKey) := by
  apply ensures_selectRole_only.bind
  rintro found state _ ⟨rfl, only⟩
  cases found with
  | none => exact Method.ensures_fail
  | some value =>
      intro after written
      have stored := insertMembershipRole_eq_ok written
      refine ⟨seated.run (.insertMembershipRole _ _) trivial written, ?_, _, rfl⟩
      rintro (rfl | held)
      · obtain ⟨role, here, same, shared, key⟩ := seated.role
        have found := (only value rfl role).mp ⟨here, by simp [key, shared]⟩
        rw [stored, ← mine, ← same, found]
        exact Finset.mem_insert_self _ _
      · rw [stored]
        exact Finset.mem_insert_of_mem held

theorem ensures_attachRoles_owner {member : Membership} {roleKeys : List String}
    (mine : member.id = own.membershipId) (seated : own.Seated rows)
    (given : SYSTEM_ROLE_OWNER ∈ roleKeys ∨
      (own.membershipId, own.roleId) ∈ rows.membershipRoles) :
    Ensures loaded rows (fun edited _ after => own.Stands after ∧ Rekeyed member edited)
      (attachRoles member roleKeys) := by
  induction roleKeys generalizing loaded rows member with
  | nil => exact Method.ensures_pure ⟨⟨seated, given.resolve_left (by simp)⟩, _, rfl⟩
  | cons roleKey rest ih =>
      apply (ensures_attachRole_owner mine seated).bind
      rintro attached state after ⟨seated, held, rekeyed⟩
      have later : SYSTEM_ROLE_OWNER ∈ rest ∨
          (own.membershipId, own.roleId) ∈ after.membershipRoles := by
        rcases given with among | held'
        · rcases List.mem_cons.mp among with same | among
          · exact .inr (held (.inl same.symm))
          · exact .inl among
        · exact .inr (held (.inr held'))
      have still : attached.id = own.membershipId := by
        obtain ⟨keys, rfl⟩ := rekeyed
        exact mine
      refine (ih still seated later).weaken ?_
      rintro last _ _ ⟨stands, again⟩
      exact ⟨stands, rekeyed.trans again⟩

theorem ensures_reassigned {roleKeys : List String} {status : Option MembershipStatus}
    (stands : own.Stands rows) (given : SYSTEM_ROLE_OWNER ∈ roleKeys)
    (kept : ∀ value, status = some value → value = .active) :
    Ensures loaded rows (fun _ _ after => own.Stands after)
      (OrganizationService.updateMembership own.membershipId (some roleKeys) status) := by
  apply (ensures_harmless harmless_getMembership stands).bind
  rintro member state now ⟨stands, located⟩
  have replaced : Ensures state now
      (fun edited _ after => own.Stands after ∧ Rekeyed member edited)
      (replaceRoles member roleKeys) := by
    have unlinked : Ensures state now (fun _ _ after => own.Seated after)
        (execute (.deleteRolesOf member.id)) :=
      Method.ensures_mutate fun after written =>
        stands.toSeated.run (.deleteRolesOf member.id) trivial written
    apply unlinked.bind
    intro _ state after seated
    have attached : Ensures state after (fun edited _ after => own.Stands after ∧
          Rekeyed { member with permissionKeys := [] } edited)
        (attachRoles { member with permissionKeys := [] } roleKeys) :=
      ensures_attachRoles_owner located.1 seated (.inl given)
    apply attached.bind
    rintro _ state after ⟨stands, keys, rfl⟩
    apply (ensures_harmless confined_invalidateMember stands).bind
    rintro _ state after ⟨stands, -⟩
    exact Method.ensures_pure ⟨stands, keys, rfl⟩
  apply replaced.bind
  rintro edited state after ⟨stands, rekeyed⟩
  have saved := @ensures_harmless own after state _ _ _
    (harmless_save located rekeyed fun _ => kept) stands
  exact saved.weaken fun _ _ _ kept => kept.1

end Reassigned

/-- The request leaves the owner's membership of the organization its seat and its
role: no update of that membership asks for another status than active, or for
roles without the owner's. -/
def TenancyRequest.LeavesOwner (organizationId : Nat) (rows : Database) : TenancyRequest → Prop
  | .updateMembership membershipId roleKeys status =>
      (∃ organization ∈ rows.organizations.rows, organization.id = organizationId ∧
        ∃ member ∈ rows.memberships.rows, member.id = membershipId ∧
          member.organizationId = organizationId ∧ member.userId = organization.ownerUserId) →
      status.getD .active = .active ∧ SYSTEM_ROLE_OWNER ∈ roleKeys.getD [SYSTEM_ROLE_OWNER]
  | _ => True

section Runs

variable {own : Ownership} {rows : Database} {mailbox : String → String}

theorem Ownership.Stands.owned (stands : own.Stands rows) : rows.Owned own.organizationId := by
  obtain ⟨organization, found, home, owner⟩ := stands.organization
  obtain ⟨member, here, id, belongs, user, active⟩ := stands.member
  obtain ⟨role, there, same, shared, key⟩ := stands.role
  refine ⟨organization, found, home, member, here, belongs, user.trans owner.symm, ?_, active, role,
    there, shared, key, ?_⟩
  · rw [user]
    rfl
  · have held := stands.held
    rw [← id, ← same] at held
    exact held

/-- Every request that leaves the owner alone does so in the end. -/
theorem stands_step (stands : own.Stands rows) (request : TenancyRequest)
    (leaves : request.LeavesOwner own.organizationId rows) :
    own.Stands (tenancyService mailbox rows request) := by
  have ensured : Ensures IdentityMap.empty rows (fun _ _ after => own.Stands after)
      (request.method mailbox) := by
    -- Most requests never execute anything that concerns the owner.
    have harmless (spared : Harmless own (fun _ => True) (request.method mailbox)) :
        Ensures IdentityMap.empty rows (fun _ _ after => own.Stands after)
          (request.method mailbox) :=
      (ensures_harmless spared stands).weaken fun _ _ _ kept => kept.1
    cases request with
    | createOrganization => exact harmless harmless_createOrganization
    | inviteMember => exact harmless harmless_inviteMember
    | acceptInviteByEmail => exact harmless harmless_acceptInviteByEmail
    | acceptInviteByToken => exact harmless harmless_acceptInviteByToken
    | removeMember => exact harmless harmless_removeMember
    | assignRole =>
        exact harmless (harmless_getMembership.bind fun _ _ =>
          confined_assignRole fun _ => spares_mild)
    | createCustomRole =>
        exact harmless (confined_createCustomRole (fun _ => spares_mild) fun _ => trivial)
    | updateCustomRole =>
        exact harmless (confined_updateCustomRole (fun _ => spares_mild) fun _ => trivial)
    | deleteCustomRole =>
        exact harmless (confined_deleteCustomRole (fun _ => spares_mild) fun _ now role here _ home =>
          ⟨custom_ne_owners now here home, custom_ne_owners now here home⟩)
    | updateMembership membershipId roleKeys status =>
        by_cases mine : membershipId = own.membershipId
        swap
        · exact harmless (harmless_updateMembership (fun _ => mine) fun same => absurd same mine)
        subst mine
        obtain ⟨organization, found, home, owner⟩ := stands.organization
        obtain ⟨member, here, id, belongs, user, -⟩ := stands.member
        obtain ⟨active, given⟩ := leaves ⟨organization, found, home, member, here, id, belongs,
          user.trans owner.symm⟩
        have kept (value : MembershipStatus) (asked : status = some value) : value = .active := by
          rw [asked] at active
          exact active
        cases roleKeys with
        | none =>
            have apart : (none : Option (List String)).isSome →
                own.membershipId ≠ own.membershipId := fun asked => by cases asked
            exact harmless (harmless_updateMembership apart fun _ => kept)
        | some keys => exact ensures_reassigned stands given kept
  exact service_of_ensures stands ensured

/-- A created organization is its owner's. -/
theorem ensures_createOrganization {loaded : IdentityMap}
    {organizationId membershipId ownerId : Nat} {slug name : String} :
    Ensures loaded rows (fun _ _ after => ∃ roleId,
        (Ownership.mk organizationId ownerId membershipId roleId).Stands after)
      (createOrganization organizationId membershipId ownerId slug name) := by
  let organization : Organization := ⟨organizationId, slug, name, some ownerId, false⟩
  have founded : Ensures loaded rows
      (fun _ _ after => organization ∈ after.organizations.rows)
      (execute (.insertOrganization organization)) := by
    refine Method.ensures_mutate fun after written => ?_
    obtain ⟨organizations, accepted, stored⟩ := insertOrganization_eq_ok written
    simp [stored, Table.add_rows accepted]
  apply founded.bind
  intro _ state now founded
  let member : Membership := ⟨membershipId, organizationId, some ownerId, none, none, .active, []⟩
  have joined : Ensures state now
      (fun _ _ after => organization ∈ after.organizations.rows ∧ member ∈ after.memberships.rows)
      (execute (.insertMembership member)) := by
    refine Method.ensures_mutate fun after written => ?_
    obtain ⟨memberships, accepted, stored⟩ := insertMembership_eq_ok written
    simp [stored, Table.add_rows accepted, founded]
  apply joined.bind
  rintro _ state now ⟨founded, joined⟩
  apply ensures_selectRole_only.bind
  rintro found state now ⟨rfl, only⟩
  cases found with
  | none => exact Method.ensures_fail
  | some value =>
      obtain ⟨here, asked⟩ := (only value rfl value.role).mpr rfl
      obtain ⟨key, shared⟩ := of_decide_eq_true asked
      let own : Ownership := ⟨organizationId, ownerId, membershipId, value.role.id⟩
      have seated : own.Seated now :=
        ⟨⟨organization, founded, rfl, rfl⟩, ⟨member, joined, rfl, rfl, rfl, rfl⟩,
          value.role, here, rfl, shared, key⟩
      have linked : Ensures state now (fun _ _ after => own.Stands after)
          (execute (.insertMembershipRole membershipId value.role.id)) := by
        refine Method.ensures_mutate fun after written => ?_
        refine ⟨seated.run (.insertMembershipRole _ _) trivial written, ?_⟩
        rw [insertMembershipRole_eq_ok written]
        exact Finset.mem_insert_self _ _
      apply linked.bind
      intro _ state after stands
      have same : SameStanding member
          { member with permissionKeys := sorted value.permissions } := ⟨rfl, rfl⟩
      have flushed := @ensures_harmless own after state _ _ _
        (confined_flushMembership (spares_rekeyed same)) stands
      exact flushed.weaken fun _ _ _ kept => ⟨value.role.id, kept.1⟩

end Runs

/-- From its creation on, an organization has its owner, active and in the owner
role, in every state of a run whose requests leave the owner's membership its seat
and its role. -/
theorem owner_kept (mailbox : String → String) (start : Database)
    (organizationId membershipId ownerId : Nat) (slug name : String)
    (fresh : ∀ organization ∈ start.organizations.rows, organization.id ≠ organizationId)
    (created : ∃ organization ∈ (tenancyService mailbox start
      (.createOrganization organizationId membershipId ownerId slug name)).organizations.rows,
        organization.id = organizationId)
    (requests : List TenancyRequest)
    (left : Runs.Guarded (tenancyService mailbox)
      (fun rows request => request.LeavesOwner organizationId rows)
      (tenancyService mailbox start
        (.createOrganization organizationId membershipId ownerId slug name)) requests) :
    Runs.Always (tenancyService mailbox) (fun rows => rows.Owned organizationId)
      (tenancyService mailbox start
        (.createOrganization organizationId membershipId ownerId slug name)) requests := by
  -- The organization is there only if its creation was accepted.
  have begun : ∃ roleId, (Ownership.mk organizationId ownerId membershipId roleId).Stands
      (tenancyService mailbox start
        (.createOrganization organizationId membershipId ownerId slug name)) := by
    let Settled (rows : Database) : Prop :=
      (∀ organization ∈ rows.organizations.rows, organization.id ≠ organizationId) ∨
        ∃ roleId, (Ownership.mk organizationId ownerId membershipId roleId).Stands rows
    have either : Settled (tenancyService mailbox start
        (.createOrganization organizationId membershipId ownerId slug name)) :=
      service_of_ensures (.inl fresh) (ensures_createOrganization.weaken fun _ _ _ => .inr)
    refine either.resolve_left fun absent => ?_
    obtain ⟨organization, here, same⟩ := created
    exact absent organization here same
  obtain ⟨roleId, stands⟩ := begun
  let own : Ownership := ⟨organizationId, ownerId, membershipId, roleId⟩
  have preserved (rows : Database) (request : TenancyRequest) (stands : own.Stands rows)
      (leaves : request.LeavesOwner organizationId rows) :
      own.Stands (tenancyService mailbox rows request) := stands_step stands request leaves
  have always := Runs.always_of_guarded _ preserved stands left
  exact always.mono _ fun _ stands => stands.owned

/-- The requests of an organization whose owner is moved to another role as well, and
keeps its own. -/
def promotions : List TenancyRequest :=
  [.createCustomRole 20 1 "support" "Support" none ["member:read"],
    .updateMembership 10 (some ["support", "owner"]) (some .active),
    .removeMember 10]

theorem owner_kept_promoted :
    Runs.Always (tenancyService id) (fun rows => rows.Owned 1)
      (tenancyService id seeded (.createOrganization 1 10 1 "acme" "Acme")) promotions := by
  refine owner_kept id seeded 1 10 1 "acme" "Acme" (by decide) (by decide +kernel) promotions
    ⟨trivial, fun _ => ⟨rfl, by decide⟩, trivial, trivial⟩

/-- The owner is suspended by one request, and loses the owner role by another. -/
theorem owner_demoted :
    ¬ Runs.Always (tenancyService id) (fun rows => rows.Owned 1)
        (tenancyService id seeded (.createOrganization 1 10 1 "acme" "Acme"))
        [.updateMembership 10 none (some .suspended)] ∧
      ¬ Runs.Always (tenancyService id) (fun rows => rows.Owned 1)
        (tenancyService id seeded (.createOrganization 1 10 1 "acme" "Acme"))
        [.updateMembership 10 (some []) none] := by
  constructor
  · decide +kernel
  · decide +kernel

end SynapseSaas.Tenancy
