import SynapseSaas.Foundation.Failures
import SynapseSaas.Tenancy.Confined

/-! Looking a role up by its key. A key is unique among the roles of an organization; the
lookup also reads the system roles, which belong to none. -/

set_option autoImplicit false

namespace SynapseSaas.Tenancy

open Procedures Procedures.Method AuthorizationService OrganizationService

def systemKeys : List String := SYSTEM_ROLES.map Prod.fst

/-- The roles `_attach_role` and `assign_role` find for a key. -/
def Database.usable (rows : Database) (organizationId : Nat) (key : String) : List Role :=
  rows.roles.rows.filter fun role => role.key = key ∧
    (role.organizationId = some organizationId ∨ role.organizationId = none)

def refusal {Answer : Type} : Except Failure Answer → Option Failure
  | .ok _ => none
  | .error failure => some failure

/-- The method does not fail with MultipleResultsFound. -/
def Resolves (rows : Database) (method : TenancyMethod Unit) : Prop :=
  refusal ((method.run IdentityMap.empty).alone rows) ≠ some (.other .multipleResults)

instance (rows : Database) (method : TenancyMethod Unit) : Decidable (Resolves rows method) :=
  inferInstanceAs (Decidable (_ ≠ _))

/-- Every lookup of a key finds one role at most, and neither an invitation nor the assignment
of a role fails for having found several. -/
structure Unambiguous (rows : Database) : Prop where
  single : ∀ organizationId key, (rows.usable organizationId key).length ≤ 1
  invited : ∀ membershipId organizationId invitedEmail roleKeys seatLimit tokenHash,
    Resolves rows
      (inviteMember membershipId organizationId invitedEmail roleKeys seatLimit tokenHash)
  assigned : ∀ member roleKey, Resolves rows (assignRole member roleKey)

/-- `seed_system` on an empty table: the roles of the catalog, which belong to no organization. -/
def Seeded (rows : Database) : Prop :=
  rows.roles.rows.map (fun role => (role.organizationId, role.key)) =
    systemKeys.map fun key => (none, key)

instance (rows : Database) : Decidable (Seeded rows) := inferInstanceAs (Decidable (_ = _))

def TenancyRequest.onRoles : TenancyRequest → Prop
  | .createCustomRole .. | .updateCustomRole .. | .deleteCustomRole .. => True
  | _ => False

/-- A role made under the key of a system role is refused for something else: an unknown
permission, or an id that is taken. -/
def TenancyRequest.SparesSystemKeys (rows : Database) : TenancyRequest → Prop
  | .createCustomRole roleId _ key _ _ permissionKeys =>
      key ∈ systemKeys → unknownPermissions permissionKeys ≠ ∅ ∨
        ∃ role ∈ rows.roles.rows, role.id = roleId
  | _ => True

/-- The keys of system roles are theirs alone. -/
structure KeysApart (rows : Database) : Prop where
  shared : ∀ role ∈ rows.roles.rows, role.organizationId = none → role.key ∈ systemKeys
  custom : ∀ role ∈ rows.roles.rows, role.organizationId ≠ none → role.key ∉ systemKeys
  once : ∀ first ∈ rows.roles.rows, ∀ second ∈ rows.roles.rows, first.organizationId = none →
    second.organizationId = none → first.key = second.key → first = second
  seeded : ∀ key ∈ systemKeys, ∃ role ∈ rows.roles.rows,
    role.organizationId = none ∧ role.key = key

section Lookup

variable {rows : Database} {organizationId : Nat} {key : String}

/-- A key names one role at most: the own role or the system role. -/
theorem KeysApart.single (apart : KeysApart rows) (organizationId : Nat) (key : String) :
    (rows.usable organizationId key).length ≤ 1 := by
  refine rows.roles.length_filter_le_one fun first here second there asked asked' => ?_
  obtain ⟨key_first, home⟩ := of_decide_eq_true asked
  obtain ⟨key_second, other⟩ := of_decide_eq_true asked'
  have same_key : first.key = second.key := key_first.trans key_second.symm
  rcases home with own | shared <;> rcases other with own' | shared'
  · have index : (organizationId, key) ∈ Keyed.keys first := by simp [Keyed.keys, own, key_first]
    have index' : (organizationId, key) ∈ Keyed.keys second := by
      simp [Keyed.keys, own', key_second]
    exact rows.roles.eq_of_key here there index index'
  · exact absurd (same_key ▸ apart.shared second there shared')
      (apart.custom first here (by simp [own]))
  · exact absurd (same_key ▸ apart.shared first here shared)
      (same_key ▸ apart.custom second there (by simp [own']))
  · exact apart.once first here second there shared shared' same_key

theorem KeysApart.of_seeded (seeded : Seeded rows) : KeysApart rows := by
  have entry (role : Role) (here : role ∈ rows.roles.rows) :
      role.organizationId = none ∧ role.key ∈ systemKeys := by
    have listed := List.mem_map_of_mem (f := fun role : Role => (role.organizationId, role.key)) here
    rw [seeded] at listed
    obtain ⟨key, known, same⟩ := List.mem_map.mp listed
    obtain ⟨home, rfl⟩ := Prod.mk.inj same
    exact ⟨home.symm, known⟩
  have keys : rows.roles.rows.map Role.key = systemKeys := by
    have second := congrArg (List.map Prod.snd) seeded
    rw [List.map_map, List.map_map] at second
    exact second.trans (List.map_id _)
  refine ⟨fun role here _ => (entry role here).2, fun role here own => absurd (entry role here).1 own,
    fun first here second there _ _ same => ?_, fun key known => ?_⟩
  · have distinct : (rows.roles.rows.map Role.key).Nodup := by
      rw [keys]
      decide
    exact List.inj_on_of_nodup_map distinct here there same
  · rw [← keys] at known
    obtain ⟨role, here, rfl⟩ := List.mem_map.mp known
    exact ⟨role, here, (entry role here).1, rfl⟩

end Lookup

/-! Where keys are unambiguous, what resolves them does not fail for it. -/

section Resolved

variable {rows : Database} {loaded : IdentityMap}

/-- A failure other than MultipleResultsFound. -/
def Otherwise (failure : Failure) : Prop := failure ≠ .other .multipleResults

instance (failure : Failure) : Decidable (Otherwise failure) := inferInstanceAs (Decidable (_ ≠ _))

theorem otherwise_integrity : Otherwise (.other .integrity) := by decide

theorem otherwise_noResult : Otherwise (.other .noResult) := by decide

theorem otherwise_check {tables : Tables} {failure : Failure}
    (refused : tables.check = .error failure) : Otherwise failure := by
  unfold Tables.check at refused
  split at refused
  · cases refused
  · cases refused
    exact otherwise_integrity

/-- No statement fails for having found several rows. -/
theorem otherwise_run {statement : Statement} {failure : Failure}
    (refused : statement.run rows = .error failure) : Otherwise failure := by
  cases statement with
  | updateMembership | updateRole =>
      simp only [Statement.run, updateMembership, updateRole] at refused
      split at refused
      · cases refused
        exact otherwise_noResult
      · split at refused
        · cases refused
          exact otherwise_integrity
        · exact otherwise_check refused
  | insertMembership | insertOrganization | insertRole | insertMembershipRole
  | insertRolePermission =>
      simp only [Statement.run, insertMembership, insertOrganization, insertRole,
        insertMembershipRole, insertRolePermission] at refused
      split at refused
      · cases refused
        exact otherwise_integrity
      · exact otherwise_check refused
  | deleteMembership | deleteRole | deleteRolesOf | deleteHoldersOf | deleteRolePermissions =>
      exact otherwise_check refused

theorem ends_execute {statement : Statement} {promised : Database → Prop}
    (kept : ∀ after, statement.run rows = .ok after → promised after) :
    Ends Otherwise loaded rows (fun _ _ after => promised after) (execute statement) :=
  ends_mutate kept fun _ refused => otherwise_run refused

theorem ends_flush {member edited : Membership} :
    Ends Otherwise loaded rows (fun _ _ after => after.roles = rows.roles)
      (flushMembership member edited) := by
  unfold flushMembership
  split
  · exact ends_pure rfl
  · refine ends_execute fun after written => ?_
    obtain ⟨row, memberships, -, -, stored⟩ := updateMembership_eq_ok written
    rw [stored]

theorem ends_scalarOneOrNone {Row : Type} {found : List Row} (single : found.length ≤ 1) :
    Ends Otherwise loaded rows (fun _ _ after => after = rows) (scalarOneOrNone found) := by
  cases found with
  | nil => exact ends_pure rfl
  | cons first rest =>
      cases rest with
      | nil => exact ends_pure rfl
      | cons second rest => simp at single

/-- A role is attached by the key that names it, whatever else is refused. -/
theorem ends_attachRole {member : Membership} {roleKey : String}
    (single : (rows.usable member.organizationId roleKey).length ≤ 1) :
    Ends Otherwise loaded rows
      (fun attached _ after => attached.organizationId = member.organizationId ∧
        after.roles = rows.roles)
      (AuthorizationService.attachRole member roleKey) := by
  have selected : Ends Otherwise loaded rows (fun _ _ after => after = rows)
      (selectUsableRole member.organizationId roleKey) := by
    let read : TenancyMethod (List LoadedRole) := selectRoles fun _ role => role.key = roleKey ∧
      (role.organizationId = some member.organizationId ∨ role.organizationId = none)
    have listed : Ends Otherwise loaded rows
        (fun found _ after => found.length ≤ 1 ∧ after = rows) read := by
      refine ends_select ⟨?_, rfl⟩
      rw [List.length_map]
      exact single
    apply listed.bind
    rintro found state now ⟨few, rfl⟩
    exact ends_scalarOneOrNone few
  apply selected.bind
  rintro found state now rfl
  cases found with
  | none => exact ends_fail nofun
  | some role =>
      have linked : Ends Otherwise state now (fun _ _ after => after.roles = now.roles)
          (execute (.insertMembershipRole member.id role.role.id)) := by
        refine ends_execute fun after written => ?_
        rw [insertMembershipRole_eq_ok written]
      apply linked.bind
      exact fun _ _ _ same => ends_pure ⟨rfl, same⟩

theorem usable_congr {after : Database} (same : after.roles = rows.roles) (organizationId : Nat)
    (key : String) : after.usable organizationId key = rows.usable organizationId key := by
  rw [Database.usable, same, Database.usable]

theorem ends_attachRoles {member : Membership} {roleKeys : List String}
    (single : ∀ key, (rows.usable member.organizationId key).length ≤ 1) :
    Ends Otherwise loaded rows (fun _ _ _ => True) (attachRoles member roleKeys) := by
  induction roleKeys generalizing member loaded rows with
  | nil => exact ends_pure trivial
  | cons roleKey rest ih =>
      apply (ends_attachRole (single roleKey)).bind
      rintro attached state now ⟨home, same⟩
      refine ih fun key => ?_
      rw [home, usable_congr same]
      exact single key

theorem ends_invalidateMember {member : Membership} :
    Ends Otherwise loaded rows (fun _ _ _ => True) (invalidateMember member) := by
  have told (entry : Invalidation) (state : IdentityMap) (now : Database) :
      Ends Otherwise state now (fun _ _ _ => True) (Method.perform entry : TenancyMethod Unit) :=
    ends_perform trivial
  unfold invalidateMember
  split
  · exact (told _ _ _).bind fun _ state now _ => told _ state now
  · exact ends_pure trivial

theorem resolves_of_ends {method : TenancyMethod Unit}
    (ends : Ends Otherwise IdentityMap.empty rows (fun _ _ _ => True) method) :
    Resolves rows method := by
  unfold Ends at ends
  unfold Resolves
  cases ran : (method.run IdentityMap.empty).alone rows with
  | ok result => exact nofun
  | error failure =>
      rw [ran] at ends
      exact fun several => ends (Option.some.inj several)

theorem ends_assignRole {member : Membership} {roleKey : String}
    (single : (rows.usable member.organizationId roleKey).length ≤ 1) :
    Ends Otherwise loaded rows (fun _ _ _ => True) (assignRole member roleKey) := by
  apply (ends_attachRole single).bind
  intro attached state now _
  apply ends_flush.bind
  exact fun _ _ _ _ => ends_invalidateMember

theorem ends_inviteMember {membershipId organizationId : Nat} {invitedEmail tokenHash : String}
    {roleKeys : List String} {seatLimit : Option Nat}
    (single : ∀ key, (rows.usable organizationId key).length ≤ 1) :
    Ends Otherwise loaded rows (fun _ _ _ => True)
      (inviteMember membershipId organizationId invitedEmail roleKeys seatLimit tokenHash) := by
  -- An address has one membership at most in an organization.
  let wanted (_ : Database) (member : Membership) : Bool :=
    member.organizationId = organizationId ∧ member.invitedEmail = some invitedEmail
  have few : (rows.memberships.rows.filter (wanted rows)).length ≤ 1 := by
    refine rows.memberships.length_filter_le_one fun first here second there asked asked' => ?_
    obtain ⟨home, email⟩ := of_decide_eq_true asked
    obtain ⟨home', email'⟩ := of_decide_eq_true asked'
    exact rows.memberships.eq_of_key here there (Membership.mem_keys_email home email)
      (Membership.mem_keys_email home' email')
  have selected : Ends Otherwise loaded rows (fun _ _ after => after = rows)
      (selectMembership wanted) := by
    have listed : Ends Otherwise loaded rows
        (fun found _ after => found.length ≤ 1 ∧ after = rows) (selectMemberships wanted) :=
      ends_select ⟨few, rfl⟩
    apply listed.bind
    rintro found state now ⟨alone, rfl⟩
    exact ends_scalarOneOrNone alone
  apply selected.bind
  rintro found state now rfl
  cases found with
  | some member => exact ends_fail nofun
  | none =>
      have counted (status : MembershipStatus) (state : IdentityMap) :
          Ends Otherwise state now (fun _ _ after => after = now)
            (countMembers organizationId status) := ends_select rfl
      apply (counted .active state).bind
      rintro active state _ rfl
      apply (counted .invited state).bind
      rintro pending state now rfl
      let invitee : Membership :=
        ⟨membershipId, organizationId, none, some invitedEmail, none, .invited, []⟩
      have invited : Ends Otherwise state now (fun _ _ _ => True) (do
          execute (.insertMembership invitee)
          let invited ← attachRoles invitee (if roleKeys = [] then [SYSTEM_ROLE_MEMBER] else roleKeys)
          flushMembership invitee { invited with inviteTokenHash := some tokenHash }) := by
        have joined : Ends Otherwise state now (fun _ _ after => after.roles = now.roles)
            (execute (.insertMembership invitee)) := by
          refine ends_execute fun after written => ?_
          obtain ⟨memberships, -, stored⟩ := insertMembership_eq_ok written
          rw [stored]
        apply joined.bind
        intro _ state after same
        apply (ends_attachRoles fun key => ?_).bind
        · exact fun _ _ _ _ => ends_flush.weaken fun _ _ _ _ => trivial
        · rw [usable_congr same]
          exact single key
      cases seatLimit with
      | none => exact invited
      | some limit =>
          change Ends Otherwise state now _ (if active + pending + 1 > limit then _ else _)
          split
          · exact ends_fail nofun
          · exact invited

theorem KeysApart.unambiguous (apart : KeysApart rows) : Unambiguous rows where
  single := apart.single
  invited _ organizationId _ _ _ _ :=
    resolves_of_ends (ends_inviteMember (apart.single organizationId))
  assigned member roleKey :=
    resolves_of_ends (ends_assignRole (apart.single member.organizationId roleKey))

end Resolved

/-! What requests on roles keep of the keys. -/

section Kept

variable {rows after : Database} {system held : Nat → Prop}

/-- A statement that leaves the keys of system roles to them, and the rows with the held ids. -/
def KeepsKeys (held : Nat → Prop) : Statement → Prop
  | .insertRole role => role.organizationId ≠ none ∧ (role.key ∈ systemKeys → held role.id)
  | .deleteRole id => ¬ held id
  | _ => True

/-- The keys are apart; the system roles are those with the system ids, and the roles with
the held ids are there. -/
structure Standing (system held : Nat → Prop) (rows : Database) : Prop where
  apart : KeysApart rows
  known : ∀ role ∈ rows.roles.rows, role.organizationId = none ↔ system role.id
  kept : ∀ id, held id → ∃ role ∈ rows.roles.rows, role.id = id
  among : ∀ id, system id → held id

theorem Standing.congr (standing : Standing system held rows) (roles : after.roles = rows.roles) :
    Standing system held after := by
  obtain ⟨⟨shared, custom, once, seeded⟩, known, kept, among⟩ := standing
  rw [← roles] at shared custom once seeded known kept
  exact ⟨⟨shared, custom, once, seeded⟩, known, kept, among⟩

theorem Standing.insert (standing : Standing system held rows) {role : Role}
    (own : role.organizationId ≠ none) (spares : role.key ∈ systemKeys → held role.id)
    (written : insertRole role rows = .ok after) : Standing system held after := by
  obtain ⟨⟨shared, custom, once, seeded⟩, known, kept, among⟩ := standing
  obtain ⟨roles, accepted, stored⟩ := insertRole_eq_ok written
  have listed (other : Role) : other ∈ after.roles.rows ↔ other ∈ rows.roles.rows ∨ other = role := by
    rw [stored]
    simp [Table.add_rows accepted]
  have fresh : ¬ held role.id := by
    intro taken
    obtain ⟨old, here, same⟩ := kept role.id taken
    exact Table.add_fresh accepted old here same
  have old {other : Role} (here : other ∈ after.roles.rows) (home : other.organizationId = none) :
      other ∈ rows.roles.rows := by
    rcases (listed other).mp here with here | rfl
    · exact here
    · exact absurd home own
  refine ⟨⟨fun other here home => shared other (old here home) home, ?_, ?_, ?_⟩, ?_, ?_, among⟩
  · intro other here home
    rcases (listed other).mp here with here | rfl
    · exact custom other here home
    · exact fun one => fresh (spares one)
  · exact fun first here second there home home' =>
      once first (old here home) second (old there home') home home'
  · intro key one
    obtain ⟨seed, here, facts⟩ := seeded key one
    exact ⟨seed, (listed seed).mpr (.inl here), facts⟩
  · intro other here
    rcases (listed other).mp here with here | rfl
    · exact known other here
    · exact iff_of_false own fun one => fresh (among _ one)
  · intro id taken
    obtain ⟨other, here, same⟩ := kept id taken
    exact ⟨other, (listed other).mpr (.inl here), same⟩

theorem Standing.delete (standing : Standing system held rows) {id : Nat} (other : ¬ held id)
    (listed : after.roles = rows.roles.remove id) : Standing system held after := by
  obtain ⟨⟨shared, custom, once, seeded⟩, known, kept, among⟩ := standing
  have old {role : Role} (here : role ∈ after.roles.rows) : role ∈ rows.roles.rows := by
    rw [listed, Table.mem_remove] at here
    exact here.1
  have stays {role : Role} (here : role ∈ rows.roles.rows) (taken : held role.id) :
      role ∈ after.roles.rows := by
    rw [listed, Table.mem_remove]
    exact ⟨here, fun deleted => other (deleted ▸ taken)⟩
  refine ⟨⟨fun role here => shared role (old here), fun role here => custom role (old here),
    fun first here second there => once first (old here) second (old there), ?_⟩,
    fun role here => known role (old here), ?_, among⟩
  · intro key one
    obtain ⟨role, here, home, same⟩ := seeded key one
    exact ⟨role, stays here (among _ ((known role here).mp home)), home, same⟩
  · intro id taken
    obtain ⟨role, here, rfl⟩ := kept id taken
    exact ⟨role, stays here taken, rfl⟩

/-- Renaming keeps a role's id, organization and key. -/
theorem Standing.rename (standing : Standing system held rows) {id : Nat}
    {name description : Option String}
    (written : updateRole id (Role.rename name description) rows = .ok after) :
    Standing system held after := by
  obtain ⟨⟨shared, custom, once, seeded⟩, known, kept, among⟩ := standing
  obtain ⟨role, roles, got, put, stored⟩ := updateRole_eq_ok written
  obtain ⟨here, -⟩ := Table.get_eq_some.mp got
  have listed (other : Role) : other ∈ after.roles.rows ↔
      other = role.rename name description ∨ other ∈ rows.roles.rows ∧ other ≠ role := by
    rw [stored]
    exact @Table.mem_put _ _ _ _ role (role.rename name description) here rfl put other
  -- Every row after comes of one before with the same identity, and the other way round.
  have comes (other : Role) (now : other ∈ after.roles.rows) : ∃ old ∈ rows.roles.rows,
      old.id = other.id ∧ old.organizationId = other.organizationId ∧ old.key = other.key := by
    rcases (listed other).mp now with rfl | ⟨old, -⟩
    · exact ⟨role, here, rfl, rfl, rfl⟩
    · exact ⟨other, old, rfl, rfl, rfl⟩
  have goes (old : Role) (before : old ∈ rows.roles.rows) : ∃ other ∈ after.roles.rows,
      other.id = old.id ∧ other.organizationId = old.organizationId ∧ other.key = old.key := by
    by_cases renamed : old = role
    · subst renamed
      exact ⟨old.rename name description, (listed _).mpr (.inl rfl), rfl, rfl, rfl⟩
    · exact ⟨old, (listed _).mpr (.inr ⟨before, renamed⟩), rfl, rfl, rfl⟩
  refine ⟨⟨?_, ?_, ?_, ?_⟩, ?_, ?_, among⟩
  · intro other now home
    obtain ⟨old, before, -, same, key⟩ := comes other now
    exact key ▸ shared old before (same.trans home)
  · intro other now own
    obtain ⟨old, before, -, same, key⟩ := comes other now
    exact key ▸ custom old before (same ▸ own)
  · intro first now second also home home' key
    obtain ⟨old, before, id_first, same, key_first⟩ := comes first now
    obtain ⟨old', before', id_second, same', key_second⟩ := comes second also
    have one := once old before old' before' (same.trans home) (same'.trans home')
      (key_first.trans (key.trans key_second.symm))
    exact after.roles.eq_of_id now also (id_first.symm.trans (one ▸ id_second))
  · intro key one
    obtain ⟨old, before, home, same⟩ := seeded key one
    obtain ⟨other, now, -, owner, keyed⟩ := goes old before
    exact ⟨other, now, owner.trans home, keyed.trans same⟩
  · intro other now
    obtain ⟨old, before, same, owner, -⟩ := comes other now
    rw [← owner, ← same]
    exact known old before
  · intro id taken
    obtain ⟨old, before, same⟩ := kept id taken
    obtain ⟨other, now, one, -⟩ := goes old before
    exact ⟨other, now, one.trans same⟩

theorem Standing.run (standing : Standing system held rows) (statement : Statement)
    (keeps : KeepsKeys held statement) (written : statement.run rows = .ok after) :
    Standing system held after := by
  cases statement with
  | insertRole role => exact standing.insert keeps.1 keeps.2 written
  | deleteRole id => exact standing.delete keeps (by rw [Tables.check_eq_ok.mp written])
  | updateRole id name description => exact standing.rename written
  | updateMembership | insertMembership | deleteMembership | insertOrganization
  | insertMembershipRole | deleteRolesOf | deleteHoldersOf | deleteRolePermissions
  | insertRolePermission =>
      exact standing.congr ((Statement.frame written).roles Target.noConfusion)

theorem keeps_mild {statement : Statement} (mild : statement.Mild) : KeepsKeys held statement := by
  cases statement with
  | updateMembership | insertMembershipRole | deleteRolePermissions | insertRolePermission => trivial
  | insertMembership | deleteMembership | insertOrganization | insertRole | updateRole
  | deleteRole | deleteRolesOf | deleteHoldersOf => cases mild

theorem keysApart_of_confined {method : TenancyMethod Unit} {loaded : IdentityMap}
    (keeps : Confined (Standing system held) (KeepsKeys held) (fun _ => True) method)
    (standing : Standing system held rows) :
    Ensures loaded rows (fun _ _ after => KeysApart after) method :=
  (keeps.ensures (fun statement keeps _ _ standing written => standing.run statement keeps written)
    standing).weaken fun _ _ _ kept => kept.1.apart

/-- A request on roles that spares the system keys keeps them apart. -/
theorem keysApart_step {mailbox : String → String} {request : TenancyRequest}
    (apart : KeysApart rows) (onRoles : request.onRoles) (spares : request.SparesSystemKeys rows) :
    KeysApart (tenancyService mailbox rows request) := by
  let system (id : Nat) : Prop :=
    ∃ role ∈ rows.roles.rows, role.id = id ∧ role.organizationId = none
  have known (role : Role) (here : role ∈ rows.roles.rows) :
      role.organizationId = none ↔ system role.id := by
    constructor
    · exact fun home => ⟨role, here, rfl, home⟩
    · rintro ⟨other, there, same, home⟩
      exact rows.roles.eq_of_id there here same ▸ home
  -- Only a deletion takes a row away, and it finds the role to be the organization's own.
  have shared : Standing system system rows :=
    ⟨apart, known, fun id ⟨role, here, same, _⟩ => ⟨role, here, same⟩, fun _ => id⟩
  apply service_of_ensures apart
  cases request with
  | createCustomRole roleId organizationId key name description permissionKeys =>
      let held (id : Nat) : Prop := ∃ role ∈ rows.roles.rows, role.id = id
      have standing : Standing system held rows :=
        ⟨apart, known, fun _ => id, fun id ⟨role, here, same, _⟩ => ⟨role, here, same⟩⟩
      refine keysApart_of_confined (confined_createCustomRole (fun _ => keeps_mild) ?_) standing
      exact fun known => ⟨nofun, fun one => (spares one).resolve_left (not_not_intro known)⟩
  | updateCustomRole roleId organizationId name description permissionKeys =>
      exact keysApart_of_confined
        (confined_updateCustomRole (fun _ => keeps_mild) fun _ => trivial) shared
  | deleteCustomRole roleId organizationId =>
      refine keysApart_of_confined (confined_deleteCustomRole (fun _ => keeps_mild) ?_) shared
      intro now standing role here _ home
      refine ⟨trivial, fun one => ?_⟩
      rw [(standing.known role here).mpr one] at home
      cases home
  | createOrganization | inviteMember | acceptInviteByEmail | acceptInviteByToken
  | updateMembership | removeMember | assignRole => cases onRoles

end Kept

/-- From the seeding on, every lookup of a key finds one role at most in every state of a
run of requests on roles, in any organizations, none of which makes a role under the key
of a system role. -/
theorem keys_unambiguous (mailbox : String → String) (start : Database) (seeded : Seeded start)
    (requests : List TenancyRequest) (onRoles : ∀ request ∈ requests, request.onRoles)
    (spares : Runs.Guarded (tenancyService mailbox)
      (fun rows request => request.SparesSystemKeys rows) start requests) :
    Runs.Always (tenancyService mailbox) Unambiguous start requests := by
  have preserved (rows : Database) (request : TenancyRequest) (onRoles : request.onRoles)
      (apart : KeysApart rows) (spares : request.SparesSystemKeys rows) :
      KeysApart (tenancyService mailbox rows request) := keysApart_step apart onRoles spares
  have always := Runs.always_of_guarded_among _ preserved (KeysApart.of_seeded seeded) onRoles spares
  exact always.mono _ fun _ apart => apart.unambiguous

/-- The system roles, as they are seeded, and an organization with its founder. -/
def catalog : Database where
  users := ⟨[⟨1, "ada@acme.test"⟩, ⟨2, "grace@acme.test"⟩], 3, by decide⟩
  organizations := ⟨[⟨1, "initech", "Initech", some 1, false⟩], 2, by decide⟩
  memberships := ⟨[⟨15, 1, some 1, none, none, .active, []⟩], 16, by decide⟩
  roles := ⟨SYSTEM_ROLES.zipIdx.map fun entry =>
      ⟨entry.2 + 1, none, entry.1.1, entry.1.1, none, true⟩, SYSTEM_ROLES.length + 1, by decide⟩
  permissions := ⟨[⟨1, "member:read"⟩], 2, by decide⟩
  rolePermissions := ∅
  membershipRoles := ∅
  references := by decide

/-- Roles are made in two organizations under keys of their own, and one is deleted. -/
def ownRoles : List TenancyRequest :=
  [.createCustomRole 20 1 "support" "Support" none ["member:read"],
    .createCustomRole 21 2 "support" "Support" none [],
    .updateCustomRole 20 1 (some "Helpdesk") none (some []),
    .deleteCustomRole 20 1]

theorem keys_unambiguous_support :
    Runs.Always (tenancyService id) Unambiguous catalog ownRoles :=
  keys_unambiguous id catalog (by decide) ownRoles
    (by simp [ownRoles, TenancyRequest.onRoles])
    ⟨fun taken => absurd taken (by decide), fun taken => absurd taken (by decide), trivial, trivial,
      trivial⟩

/-- A role of the organization under the key "member" makes an invitation fail that names no
role, and the assignment of that key. -/
theorem member_key_taken :
    ¬ Runs.Always (tenancyService id) Unambiguous catalog
        [.createCustomRole 20 1 "member" "Member" none []] ∧
      ((tenancyService id catalog (.createCustomRole 20 1 "member" "Member" none [])).usable 1
        "member").length = 2 ∧
      ¬ Resolves (tenancyService id catalog (.createCustomRole 20 1 "member" "Member" none []))
        (inviteMember 30 1 "grace@acme.test" [] none "hash") := by
  have two : ((tenancyService id catalog (.createCustomRole 20 1 "member" "Member" none [])).usable 1
      "member").length = 2 := by decide +kernel
  refine ⟨fun always => ?_, two, by decide +kernel⟩
  have one := always.2.single 1 "member"
  rw [two] at one
  exact absurd one (by decide)

end SynapseSaas.Tenancy
