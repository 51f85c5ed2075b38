import SynapseSaas.Tenancy.Service

/-! The permission keys a membership carries: they are to be the union of the
permissions of its roles, in order. -/

set_option autoImplicit false

namespace SynapseSaas.Tenancy

open Procedures Procedures.Method AuthorizationService OrganizationService

/-- Every membership carries the sorted union of the permissions of its roles. -/
def Exact (rows : Database) : Prop :=
  ∀ member ∈ rows.memberships.rows, member.permissionKeys = sorted (rows.unionOf member.id)

instance : DecidablePred Exact := fun rows =>
  inferInstanceAs (Decidable (∀ member ∈ rows.memberships.rows, _))

/-- What a session has loaded of a role that exists is what the rows say. -/
def Accurate (loaded : IdentityMap) (rows : Database) : Prop :=
  ∀ role ∈ rows.roles.rows, ∀ permissions, loaded role.id = some permissions →
    permissions = rows.permissionsOf role.id

/-- All is exact but for one membership, whose keys the session holds unsaved. -/
structure Edited (rows : Database) (edited : Membership) : Prop where
  others : ∀ member ∈ rows.memberships.rows, member.id ≠ edited.id →
    member.permissionKeys = sorted (rows.unionOf member.id)
  own : edited.permissionKeys = sorted (rows.unionOf edited.id)

/-! What unions depend on. -/

section Unions

variable {rows after : Database} {id : Nat}

theorem unionOf_congr (roles : after.roles = rows.roles) (permissions : after.permissions = rows.permissions)
    (grants : after.rolePermissions = rows.rolePermissions)
    (links : ∀ role, after.Holds id role ↔ rows.Holds id role) : after.unionOf id = rows.unionOf id := by
  ext key
  simp only [Database.mem_unionOf, Database.permissionsOf, roles, permissions, grants, links]

/-- What the membership rows say has no part in it. -/
theorem unionOf_memberships {memberships : Table Membership}
    (written : after.toTables = { rows.toTables with memberships }) :
    after.unionOf id = rows.unionOf id := by
  apply unionOf_congr
  · rw [written]
  · rw [written]
  · rw [written]
  · exact fun role => by simp only [Database.Holds, written]

/-- A membership without links holds nothing. -/
theorem unionOf_eq_empty (unlinked : ∀ link ∈ rows.membershipRoles, link.1 ≠ id) :
    rows.unionOf id = ∅ := by
  ext key
  rw [Database.mem_unionOf]
  constructor
  · rintro ⟨role, -, held, -⟩
    exact absurd rfl (unlinked _ held)
  · intro impossible
    cases impossible

/-- The link tables know only memberships that exist. -/
theorem unionOf_of_absent (absent : ∀ member ∈ rows.memberships.rows, member.id ≠ id) :
    rows.unionOf id = ∅ := by
  apply unionOf_eq_empty
  intro link member
  obtain ⟨⟨known, there, same⟩, -⟩ := rows.references.2 link member
  rw [← same]
  exact absent known there

theorem unionOf_link_self {role : Role} (known : role ∈ rows.roles.rows)
    (written : after.toTables = { rows.toTables with
      membershipRoles := insert (id, role.id) rows.membershipRoles }) :
    after.unionOf id = rows.unionOf id ∪ rows.permissionsOf role.id := by
  ext key
  simp only [Finset.mem_union, Database.mem_unionOf, Database.permissionsOf, Database.Holds, written,
    Finset.mem_insert, Prod.mk.injEq, true_and]
  constructor
  · rintro ⟨other, there, same | held, granted⟩
    · exact .inr (same ▸ granted)
    · exact .inl ⟨other, there, held, granted⟩
  · rintro (⟨other, there, held, granted⟩ | granted)
    · exact ⟨other, there, .inr held, granted⟩
    · exact ⟨role, known, .inl rfl, granted⟩

theorem unionOf_link_other {membershipId roleId : Nat} (apart : id ≠ membershipId)
    (written : after.toTables = { rows.toTables with
      membershipRoles := insert (membershipId, roleId) rows.membershipRoles }) :
    after.unionOf id = rows.unionOf id := by
  apply unionOf_congr
  · rw [written]
  · rw [written]
  · rw [written]
  · exact fun role => by simp [Database.Holds, written, apart]

end Unions

/-! The statements. -/

section Statements

variable {rows : Database} {loaded : IdentityMap}

theorem Accurate.empty : Accurate IdentityMap.empty rows := by
  intro role there permissions found
  cases found

theorem Accurate.permissions (accurate : Accurate loaded rows) {role : Role}
    (there : role ∈ rows.roles.rows) :
    loaded.permissions rows role.id = rows.permissionsOf role.id := by
  unfold IdentityMap.permissions
  cases found : loaded role.id with
  | none => rfl
  | some permissions => exact accurate role there permissions found

theorem Accurate.load (accurate : Accurate loaded rows) (roleIds : List Nat) :
    Accurate (loaded.load rows roleIds) rows := by
  intro role there permissions found
  unfold IdentityMap.load at found
  split at found
  · rw [← Option.some.inj found, accurate.permissions there]
  · exact accurate role there permissions found

/-- A write elsewhere leaves what was loaded accurate. -/
theorem Accurate.congr {after : Database} (accurate : Accurate loaded rows)
    (roles : after.roles = rows.roles) (permissions : after.permissions = rows.permissions)
    (grants : after.rolePermissions = rows.rolePermissions) : Accurate loaded after := by
  intro role there collection found
  rw [roles] at there
  rw [accurate role there collection found]
  unfold Database.permissionsOf
  rw [permissions, grants]

/-- Roles as they are loaded by an accurate session. -/
def loadedRoles (rows : Database) (wanted : Database → Role → Bool) : List LoadedRole :=
  (rows.roles.rows.filter (wanted rows)).map fun role => ⟨role, rows.permissionsOf role.id⟩

theorem ensures_selectRoles {wanted : Database → Role → Bool}
    {promised : List LoadedRole → IdentityMap → Database → Prop} (accurate : Accurate loaded rows)
    (kept : ∀ after, Accurate after rows → promised (loadedRoles rows wanted) after rows) :
    Ensures loaded rows promised (selectRoles wanted) := by
  have same : (rows.roles.rows.filter (wanted rows)).map
      (fun role => (⟨role, loaded.permissions rows role.id⟩ : LoadedRole)) = loadedRoles rows wanted := by
    unfold loadedRoles
    exact List.map_congr_left fun role found =>
      by rw [accurate.permissions (List.mem_filter.mp found).1]
  have loading := kept _ (accurate.load ((rows.roles.rows.filter (wanted rows)).map Role.id))
  rw [← same] at loading
  exact Method.ensures_select loading

theorem ensures_selectMemberships {wanted : Database → Membership → Bool}
    {promised : List Membership → IdentityMap → Database → Prop} (accurate : Accurate loaded rows)
    (kept : ∀ after, Accurate after rows →
      promised (rows.memberships.rows.filter (wanted rows)) after rows) :
    Ensures loaded rows promised (selectMemberships wanted) := by
  apply Method.ensures_select
  exact kept _ (accurate.load _)

theorem ensures_scalarOneOrNone {α : Type} {found : List α}
    {promised : Option α → IdentityMap → Database → Prop}
    (kept : ∀ row, (∀ value, row = some value → value ∈ found) → promised row loaded rows) :
    Ensures loaded rows promised (scalarOneOrNone found) := by
  unfold scalarOneOrNone
  split
  · exact Method.ensures_pure (kept none fun _ impossible => by cases impossible)
  · refine Method.ensures_pure (kept (some _) fun value same => ?_)
    cases same
    exact List.mem_singleton_self _
  · exact Method.ensures_fail

/-- A role as an accurate session holds it. -/
def KnownRole (rows : Database) (role : LoadedRole) : Prop :=
  role.role ∈ rows.roles.rows ∧ role.permissions = rows.permissionsOf role.role.id

theorem ensures_selectRole {wanted : Database → Role → Bool} (accurate : Accurate loaded rows) :
    Ensures loaded rows (fun role after later => later = rows ∧ Accurate after rows ∧
        ∀ value, role = some value → KnownRole rows value)
      (selectRole wanted) := by
  have selected : Ensures loaded rows (fun found after later => later = rows ∧
        Accurate after rows ∧ ∀ role ∈ found, KnownRole rows role) (selectRoles wanted) := by
    refine ensures_selectRoles accurate fun after accurate => ⟨rfl, accurate, fun role found => ?_⟩
    obtain ⟨row, listed, rfl⟩ := List.mem_map.mp found
    exact ⟨(List.mem_filter.mp listed).1, rfl⟩
  apply selected.bind
  rintro found state _ ⟨rfl, accurate, known⟩
  exact ensures_scalarOneOrNone fun role among =>
    ⟨rfl, accurate, fun value here => known value (among value here)⟩

theorem ensures_selectMembership {wanted : Database → Membership → Bool}
    (accurate : Accurate loaded rows) :
    Ensures loaded rows (fun member after later => later = rows ∧ Accurate after rows ∧
        ∀ value, member = some value → value ∈ rows.memberships.rows ∧ wanted rows value)
      (selectMembership wanted) := by
  have selected : Ensures loaded rows (fun found after later => later = rows ∧
        Accurate after rows ∧ ∀ member ∈ found, member ∈ rows.memberships.rows ∧ wanted rows member)
      (selectMemberships wanted) :=
    ensures_selectMemberships accurate fun after accurate =>
      ⟨rfl, accurate, fun member found => List.mem_filter.mp found⟩
  apply selected.bind
  rintro found state _ ⟨rfl, accurate, known⟩
  exact ensures_scalarOneOrNone fun member among =>
    ⟨rfl, accurate, fun value here => known value (among value here)⟩

theorem ensures_invalidateMember {member : Membership}
    {promised : Unit → IdentityMap → Database → Prop} (kept : promised () loaded rows) :
    Ensures loaded rows promised (invalidateMember member) := by
  unfold invalidateMember
  split
  · exact kept
  · exact kept

theorem ensures_invalidateOrgPerms {organizationId : Nat}
    {promised : Unit → IdentityMap → Database → Prop} (kept : promised () loaded rows) :
    Ensures loaded rows promised (invalidateOrgPerms organizationId) := by
  have listed : Ensures loaded rows (fun _ after later => after = loaded ∧ later = rows)
      (select fun rows => (rows.memberships.rows.filter fun member =>
        member.organizationId = organizationId).filterMap Membership.userId) :=
    Method.ensures_select ⟨rfl, rfl⟩
  apply listed.bind
  rintro users _ _ ⟨rfl, rfl⟩
  exact Ensures.forM (fun _ => promised ()) (fun _ _ _ _ holds => holds) kept

end Statements

/-! Attaching roles to a loaded membership, and its flush. -/

section Editing

variable {rows : Database} {loaded : IdentityMap} {member edited : Membership}

/-- What attaching changes of a loaded membership: its keys. -/
def Rekeyed (member edited : Membership) : Prop :=
  ∃ keys, edited = { member with permissionKeys := keys }

theorem Rekeyed.trans {last : Membership} (first : Rekeyed member edited)
    (second : Rekeyed edited last) : Rekeyed member last := by
  obtain ⟨keys, rfl⟩ := first
  obtain ⟨others, rfl⟩ := second
  exact ⟨others, rfl⟩

theorem ensures_attachRole {roleKey : String} (accurate : Accurate loaded rows)
    (editing : Edited rows member) :
    Ensures loaded rows (fun result after later => Accurate after later ∧ Edited later result ∧
        later.memberships = rows.memberships ∧ Rekeyed member result)
      (AuthorizationService.attachRole member roleKey) := by
  apply (ensures_selectRole accurate).bind
  rintro role state _ ⟨rfl, accurate, known⟩
  cases role with
  | none => exact Method.ensures_fail
  | some role =>
      obtain ⟨listed, collection⟩ := known role rfl
      intro later written
      have linked := insertMembershipRole_eq_ok written
      refine ⟨accurate.congr ?_ ?_ ?_, ⟨fun other there apart => ?_, ?_⟩, ?_, _, rfl⟩
      · rw [linked]
      · rw [linked]
      · rw [linked]
      · rw [linked] at there
        rw [unionOf_link_other apart linked]
        exact editing.others other there apart
      · rw [unionOf_link_self listed linked, collection, editing.own, toFinset_sorted]
      · rw [linked]

theorem ensures_attachRoles {roleKeys : List String} (accurate : Accurate loaded rows)
    (editing : Edited rows member) :
    Ensures loaded rows (fun result after later => Accurate after later ∧ Edited later result ∧
        later.memberships = rows.memberships ∧ Rekeyed member result)
      (attachRoles member roleKeys) := by
  induction roleKeys generalizing loaded rows member with
  | nil => exact Method.ensures_pure ⟨accurate, editing, rfl, _, rfl⟩
  | cons roleKey rest ih =>
      apply (ensures_attachRole accurate editing).bind
      rintro attached after later ⟨accurate, editing, kept, rekeyed⟩
      refine (ih accurate editing).weaken ?_
      rintro last final done ⟨accurate, editing, still, again⟩
      exact ⟨accurate, editing, still.trans kept, rekeyed.trans again⟩

theorem changed_value {α : Type} [DecidableEq α] (old new : α) :
    (if new = old then old else new) = new := by
  split
  · next same => exact same.symm
  · rfl

/-- A row still as it was loaded becomes what the session made of it. -/
theorem changes_loaded (id : edited.id = member.id)
    (organization : edited.organizationId = member.organizationId) :
    member.changes edited member = edited := by
  simp only [Membership.changes, changed_value]
  rw [← id, ← organization]

theorem ensures_flush (here : member ∈ rows.memberships.rows) (id : edited.id = member.id)
    (organization : edited.organizationId = member.organizationId) :
    Ensures loaded rows (fun _ after later => after = loaded ∧ ∃ memberships : Table Membership,
        later.toTables = { rows.toTables with memberships } ∧
        ∀ other, other ∈ memberships.rows ↔
          other = edited ∨ other ∈ rows.memberships.rows ∧ other ≠ member)
      (flushMembership member edited) := by
  unfold flushMembership
  split
  · next same =>
      subst same
      refine Method.ensures_pure ⟨rfl, rows.memberships, rfl, fun other => ?_⟩
      by_cases same : other = edited
      · simp [same, here]
      · simp [same]
  · refine Method.ensures_mutate fun later written => ⟨rfl, ?_⟩
    obtain ⟨found, memberships, got, accepted, stored⟩ := updateMembership_eq_ok written
    obtain ⟨there, same⟩ := Table.get_eq_some.mp got
    cases rows.memberships.eq_of_id there here same
    rw [changes_loaded id organization] at accepted
    exact ⟨memberships, stored, Table.mem_put here id accepted⟩

theorem Exact.editing (exact_ : Exact rows) (here : member ∈ rows.memberships.rows) :
    Edited rows member :=
  ⟨fun other there _ => exact_ other there, exact_ member here⟩

theorem ensures_flushMembership (editing : Edited rows edited)
    (here : member ∈ rows.memberships.rows) (id : edited.id = member.id)
    (organization : edited.organizationId = member.organizationId) :
    Ensures loaded rows (fun _ _ later => Exact later) (flushMembership member edited) := by
  refine (ensures_flush here id organization).weaken ?_
  rintro _ after later ⟨-, memberships, stored, among⟩ other there
  have listed : other ∈ memberships.rows := by rwa [stored] at there
  rw [unionOf_memberships stored]
  rcases (among other).mp listed with rfl | ⟨old, distinct⟩
  · exact editing.own
  · refine editing.others other old fun clash => distinct ?_
    exact rows.memberships.eq_of_id old here (clash.trans id)

end Editing

/-! The requests that write memberships. -/

section Memberships

variable {rows : Database} {loaded : IdentityMap} {member : Membership}

/-- A new membership holds no role and carries no key. -/
theorem Exact.insert {after : Database} (exact_ : Exact rows) (bare : member.permissionKeys = [])
    (written : insertMembership member rows = .ok after) :
    Edited after member ∧ member ∈ after.memberships.rows := by
  obtain ⟨memberships, accepted, stored⟩ := insertMembership_eq_ok written
  have listed : after.memberships.rows = rows.memberships.rows ++ [member] := by
    rw [stored]
    exact Table.add_rows accepted
  refine ⟨⟨fun other there apart => ?_, ?_⟩, by simp [listed]⟩
  · rw [unionOf_memberships stored]
    rw [listed, List.mem_append, List.mem_singleton] at there
    rcases there with old | rfl
    · exact exact_ other old
    · exact absurd rfl apart
  · have nothing : rows.unionOf member.id = ∅ := unionOf_of_absent (Table.add_fresh accepted)
    rw [unionOf_memberships stored, bare, nothing]
    simp

theorem exact_createOrganization {organizationId membershipId ownerId : Nat} {slug name : String}
    (accurate : Accurate loaded rows) (exact_ : Exact rows) :
    Ensures loaded rows (fun _ _ later => Exact later)
      (createOrganization organizationId membershipId ownerId slug name) := by
  have founded : Ensures loaded rows (fun _ after later => Accurate after later ∧ Exact later)
      (execute (.insertOrganization ⟨organizationId, slug, name, some ownerId, false⟩)) := by
    refine Method.ensures_mutate fun later written => ?_
    obtain ⟨organizations, -, stored⟩ := insertOrganization_eq_ok written
    refine ⟨accurate.congr (by rw [stored]) (by rw [stored]) (by rw [stored]), fun member there => ?_⟩
    have same : later.unionOf member.id = rows.unionOf member.id := by
      apply unionOf_congr
      · rw [stored]
      · rw [stored]
      · rw [stored]
      · exact fun role => by simp only [Database.Holds, stored]
    rw [stored] at there
    rw [same]
    exact exact_ member there
  apply founded.bind
  rintro _ state now ⟨accurate, exact_⟩
  let owner : Membership := ⟨membershipId, organizationId, some ownerId, none, none, .active, []⟩
  have inserted : Ensures state now (fun _ after later => Accurate after later ∧
        Edited later owner ∧ owner ∈ later.memberships.rows)
      (execute (.insertMembership owner)) := by
    refine Method.ensures_mutate fun later written => ?_
    obtain ⟨memberships, -, stored⟩ := insertMembership_eq_ok written
    exact ⟨accurate.congr (by rw [stored]) (by rw [stored]) (by rw [stored]), exact_.insert rfl written⟩
  apply inserted.bind
  rintro _ state now ⟨accurate, editing, here⟩
  apply (ensures_selectRole accurate).bind
  rintro role state now ⟨rfl, -, known⟩
  cases role with
  | none => exact Method.ensures_fail
  | some role =>
      obtain ⟨listed, collection⟩ := known role rfl
      have linked : Ensures state now (fun _ _ later =>
            Edited later { owner with permissionKeys := sorted role.permissions } ∧
              owner ∈ later.memberships.rows)
          (execute (.insertMembershipRole membershipId role.role.id)) := by
        refine Method.ensures_mutate fun later written => ?_
        have stored := insertMembershipRole_eq_ok written
        have nothing : now.unionOf owner.id = ∅ := by
          have own : [] = sorted (now.unionOf owner.id) := editing.own
          rw [← sorted_empty, sorted_inj] at own
          exact own.symm
        refine ⟨⟨fun other there apart => ?_, ?_⟩, by rwa [stored]⟩
        · rw [stored] at there
          rw [unionOf_link_other apart stored]
          exact editing.others other there apart
        · rw [unionOf_link_self listed stored, nothing, Finset.empty_union, collection]
      apply linked.bind
      rintro _ state now ⟨editing, here⟩
      exact ensures_flushMembership editing here rfl rfl

theorem exact_inviteMember {membershipId organizationId : Nat} {invitedEmail : String}
    {roleKeys : List String} {seatLimit : Option Nat} {tokenHash : String}
    (accurate : Accurate loaded rows) (exact_ : Exact rows) :
    Ensures loaded rows (fun _ _ later => Exact later)
      (inviteMember membershipId organizationId invitedEmail roleKeys seatLimit tokenHash) := by
  apply (ensures_selectMembership accurate).bind
  rintro found state now ⟨rfl, accurate, -⟩
  cases found with
  | some member => exact Method.ensures_fail
  | none =>
      have counted (status : MembershipStatus) : Ensures state now
          (fun _ after later => after = state ∧ later = now) (countMembers organizationId status) :=
        Method.ensures_select ⟨rfl, rfl⟩
      apply (counted .active).bind
      rintro active state now ⟨rfl, rfl⟩
      apply (counted .invited).bind
      rintro pending state now ⟨rfl, rfl⟩
      let invitee : Membership :=
        ⟨membershipId, organizationId, none, some invitedEmail, none, .invited, []⟩
      -- Past the seat check, whether it was made or not.
      have invited : Ensures state now (fun _ _ later => Exact later) (do
          execute (.insertMembership invitee)
          let invited ← attachRoles invitee (if roleKeys = [] then [SYSTEM_ROLE_MEMBER] else roleKeys)
          flushMembership invitee { invited with inviteTokenHash := some tokenHash }) := by
        have inserted : Ensures state now (fun _ after later => Accurate after later ∧
              Edited later invitee ∧ invitee ∈ later.memberships.rows)
            (execute (.insertMembership invitee)) := by
          refine Method.ensures_mutate fun later written => ?_
          obtain ⟨memberships, -, stored⟩ := insertMembership_eq_ok written
          exact ⟨accurate.congr (by rw [stored]) (by rw [stored]) (by rw [stored]), exact_.insert rfl written⟩
        apply inserted.bind
        rintro _ state now ⟨accurate, editing, here⟩
        apply (ensures_attachRoles accurate editing).bind
        rintro _ state later ⟨-, editing, kept, keys, rfl⟩
        rw [← kept] at here
        exact ensures_flushMembership ⟨editing.others, editing.own⟩ here rfl rfl
      cases seatLimit with
      | none => exact invited
      | some limit =>
          change Ensures state now _ (if active + pending + 1 > limit then _ else _)
          split
          · exact Method.ensures_fail
          · exact invited

theorem exact_accept {member edited : Membership} {user : Option Account} (exact_ : Exact rows)
    (here : member ∈ rows.memberships.rows) (id : edited.id = member.id)
    (organization : edited.organizationId = member.organizationId)
    (keys : edited.permissionKeys = member.permissionKeys) :
    Ensures loaded rows (fun _ _ later => Exact later) (accept member edited user) := by
  have joined (linked : Membership) (same : linked.id = member.id)
      (home : linked.organizationId = member.organizationId)
      (kept : linked.permissionKeys = member.permissionKeys) :
      Ensures loaded rows (fun _ _ later => Exact later) (do
        flushMembership member { linked with status := .active }
        invalidatePerms { linked with status := .active }) := by
    have editing : Edited rows { linked with status := .active } := by
      constructor
      · exact fun other there _ => exact_ other there
      · rw [kept, same]
        exact exact_ member here
    apply (ensures_flushMembership editing here same home).bind
    intro _ state later exact_
    exact ensures_invalidateMember exact_
  cases user with
  | none => exact joined edited id organization keys
  | some user => exact joined _ id organization keys

theorem exact_acceptInviteByEmail {organizationId : Nat} {email : String}
    (accurate : Accurate loaded rows) (exact_ : Exact rows) :
    Ensures loaded rows (fun _ _ later => Exact later)
      (acceptInviteByEmail organizationId email) := by
  apply (ensures_selectMembership accurate).bind
  rintro found state now ⟨rfl, accurate, known⟩
  cases found with
  | none => exact Method.ensures_fail
  | some member =>
      obtain ⟨here, -⟩ := known member rfl
      have looked : Ensures state now (fun _ _ later => later = now)
          (select fun rows => rows.users.rows.filter fun user => user.email = email) :=
        Method.ensures_select rfl
      apply looked.bind
      rintro users state now rfl
      have one : Ensures state now (fun _ _ later => later = now) (scalarOneOrNone users) :=
        ensures_scalarOneOrNone fun _ _ => rfl
      apply one.bind
      rintro user state now rfl
      exact exact_accept exact_ here rfl rfl rfl

theorem exact_acceptInviteByToken {mailbox : String → String} {tokenHash : String} {user : Account}
    (accurate : Accurate loaded rows) (exact_ : Exact rows) :
    Ensures loaded rows (fun _ _ later => Exact later)
      (acceptInviteByToken mailbox tokenHash user) := by
  apply (ensures_selectMembership accurate).bind
  rintro found state now ⟨rfl, accurate, known⟩
  cases found with
  | none => exact Method.ensures_fail
  | some member =>
      obtain ⟨here, -⟩ := known member rfl
      change Ensures state now _ (if mailbox (member.invitedEmail.getD "") ≠ mailbox user.email then _ else _)
      split
      · exact Method.ensures_fail
      · exact exact_accept exact_ here rfl rfl rfl

theorem ensures_getMembership {membershipId : Nat} (accurate : Accurate loaded rows) :
    Ensures loaded rows (fun member after later => later = rows ∧ Accurate after rows ∧
        member ∈ rows.memberships.rows ∧ member.id = membershipId)
      (getMembership membershipId) := by
  apply (ensures_selectMembership accurate).bind
  rintro found state now ⟨rfl, accurate, known⟩
  cases found with
  | none => exact Method.ensures_fail
  | some member =>
      obtain ⟨here, asked⟩ := known member rfl
      exact Method.ensures_pure ⟨rfl, accurate, here, of_decide_eq_true asked⟩

/-- Without its links a membership holds nothing, as its emptied keys say. -/
theorem Exact.unlink {after : Database} (exact_ : Exact rows)
    (written : deleteMembershipRoles (fun link => link.1 = member.id) rows = .ok after) :
    Edited after { member with permissionKeys := [] } := by
  have stored := Tables.check_eq_ok.mp written
  constructor
  · intro other there apart
    have same : after.unionOf other.id = rows.unionOf other.id := by
      apply unionOf_congr
      · rw [stored]
      · rw [stored]
      · rw [stored]
      · intro role
        simp [Database.Holds, stored, apart]
    rw [stored] at there
    rw [same]
    exact exact_ other there
  · have nothing : after.unionOf member.id = ∅ := by
      apply unionOf_eq_empty
      intro link listed
      rw [stored] at listed
      simpa using (Finset.mem_filter.mp listed).2
    rw [nothing]
    simp

theorem ensures_replaceRoles {roleKeys : List String} (accurate : Accurate loaded rows)
    (exact_ : Exact rows) :
    Ensures loaded rows (fun result _ later => Edited later result ∧
        later.memberships = rows.memberships ∧ Rekeyed member result)
      (replaceRoles member roleKeys) := by
  have unlinked : Ensures loaded rows (fun _ after later => Accurate after later ∧
        Edited later { member with permissionKeys := [] } ∧ later.memberships = rows.memberships)
      (execute (.deleteRolesOf member.id)) := by
    refine Method.ensures_mutate fun later written => ?_
    have stored := Tables.check_eq_ok.mp written
    exact ⟨accurate.congr (by rw [stored]) (by rw [stored]) (by rw [stored]), exact_.unlink written, by rw [stored]⟩
  apply unlinked.bind
  rintro _ state now ⟨accurate, editing, kept⟩
  apply (ensures_attachRoles accurate editing).bind
  rintro _ state later ⟨-, editing, still, keys, rfl⟩
  have dropped : Ensures state later (fun _ after final => after = state ∧ final = later)
      (invalidatePerms member) := ensures_invalidateMember ⟨rfl, rfl⟩
  apply dropped.bind
  rintro _ _ _ ⟨rfl, rfl⟩
  exact Method.ensures_pure ⟨editing, still.trans kept, keys, rfl⟩

theorem exact_updateMembership {membershipId : Nat} {roleKeys : Option (List String)}
    {status : Option MembershipStatus} (accurate : Accurate loaded rows) (exact_ : Exact rows) :
    Ensures loaded rows (fun _ _ later => Exact later)
      (OrganizationService.updateMembership membershipId roleKeys status) := by
  apply (ensures_getMembership accurate).bind
  rintro member state now ⟨rfl, accurate, here, -⟩
  -- What follows the replacement of the roles, where it was asked for.
  have saved (edited : Membership) (state : IdentityMap) (later : Database)
      (editing : Edited later edited) (kept : later.memberships = now.memberships)
      (rekeyed : Rekeyed member edited) :
      Ensures state later (fun _ _ last => Exact last) (do
        flushMembership member { edited with status := status.getD edited.status }
        let reloaded ← reload membershipId
        if status.getD edited.status ≠ member.status then invalidatePerms reloaded) := by
    obtain ⟨keys, rfl⟩ := rekeyed
    rw [← kept] at here
    let saved : Membership :=
      { member with permissionKeys := keys, status := status.getD member.status }
    have flushed : Ensures state later (fun _ _ last => Exact last) (flushMembership member saved) :=
      ensures_flushMembership ⟨editing.others, editing.own⟩ here rfl rfl
    apply flushed.bind
    intro _ state final exact_
    -- The reload and the invalidation only read.
    have fetched : Ensures IdentityMap.empty final (fun member after later => later = final ∧
          Accurate after final ∧ member ∈ final.memberships.rows ∧ member.id = membershipId)
        (getMembership membershipId) := ensures_getMembership Accurate.empty
    have reloaded : Ensures state final (fun _ _ last => last = final) (reload membershipId) :=
      fetched.weaken fun _ _ _ read => read.1
    apply reloaded.bind
    rintro member state last rfl
    split
    · exact ensures_invalidateMember exact_
    · exact Method.ensures_pure exact_
  cases roleKeys with
  | none => exact saved member state now (exact_.editing here) rfl ⟨_, rfl⟩
  | some keys =>
      apply (ensures_replaceRoles accurate exact_).bind
      rintro edited state later ⟨editing, kept, rekeyed⟩
      exact saved edited state later editing kept rekeyed

theorem exact_removeMember {membershipId : Nat} (accurate : Accurate loaded rows)
    (exact_ : Exact rows) :
    Ensures loaded rows (fun _ _ later => Exact later) (removeMember membershipId) := by
  apply (ensures_getMembership accurate).bind
  rintro member state now ⟨rfl, -, -, -⟩
  have deleted : Ensures state now (fun _ _ later => Exact later)
      (execute (.deleteMembership membershipId)) := by
    refine Method.ensures_mutate fun later written other there => ?_
    have stored := Tables.check_eq_ok.mp written
    rw [stored] at there
    obtain ⟨old, apart⟩ := Table.mem_remove.mp there
    have same : later.unionOf other.id = now.unionOf other.id := by
      apply unionOf_congr
      · rw [stored]
      · rw [stored]
      · rw [stored]
      · intro role
        have distinct : other.id ≠ membershipId := apart
        simp [Database.Holds, stored, distinct]
    rw [same]
    exact exact_ other old
  have looked : Ensures state now (fun _ after later => after = state ∧ later = now)
      (select fun rows => rows.organizations.rows.filter fun organization =>
        organization.id = member.organizationId ∧ organization.deleted = false) :=
    Method.ensures_select ⟨rfl, rfl⟩
  apply looked.bind
  rintro organizations state now ⟨rfl, rfl⟩
  cases organizations with
  | nil => exact Method.ensures_fail
  | cons organization rest =>
      change Ensures state now _ (if member.userId = organization.ownerUserId then _ else _)
      split
      · exact Method.ensures_fail
      · exact deleted

theorem exact_assignRole {roleKey : String} (accurate : Accurate loaded rows) (exact_ : Exact rows)
    (here : member ∈ rows.memberships.rows) :
    Ensures loaded rows (fun _ _ later => Exact later) (assignRole member roleKey) := by
  apply (ensures_attachRole accurate (exact_.editing here)).bind
  rintro _ state now ⟨-, editing, kept, keys, rfl⟩
  rw [← kept] at here
  apply (ensures_flushMembership editing here rfl rfl).bind
  intro _ state later exact_
  exact ensures_invalidateMember exact_

end Memberships

end SynapseSaas.Tenancy
