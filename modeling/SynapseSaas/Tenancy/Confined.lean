import SynapseSaas.Authorization.RoleEdits

/-! What the methods of a request write, statement by statement. -/

set_option autoImplicit false

namespace SynapseSaas.Tenancy

open Procedures Procedures.Method AuthorizationService OrganizationService

/-- Where the statements see rows of a kind, only allowed ones are executed, and the
answer is as promised. -/
def Confined {Answer : Type} (seen : Database → Prop) (allowed : Statement → Prop)
    (promised : Answer → Prop) (method : TenancyMethod Answer) : Prop :=
  ∀ loaded written, Leaves seen allowed loaded written (fun answer _ _ => promised answer) method

section Confined

variable {First Second Item : Type} {seen : Database → Prop} {allowed : Statement → Prop}

theorem Confined.bind {halfway : First → Prop} {promised : Second → Prop}
    {method : TenancyMethod First} {rest : First → TenancyMethod Second}
    (begun : Confined seen allowed halfway method)
    (continued : ∀ answer, halfway answer → Confined seen allowed promised (rest answer)) :
    Confined seen allowed promised (method >>= rest) := fun loaded written =>
  (begun loaded written).bind fun answer after written kept => continued answer kept after written

/-- What the allowed statements keep of the rows they see holds in the end. -/
theorem Confined.ensures {promised : First → Prop} {method : TenancyMethod First}
    {loaded : IdentityMap} {rows : Database} (confined : Confined seen allowed promised method)
    (one : ∀ statement, allowed statement → ∀ rows after, seen rows →
      statement.run rows = .ok after → seen after) (holds : seen rows) :
    Ensures loaded rows (fun answer _ after => seen after ∧ promised answer) method :=
  (Proc.Leaves.ensures (confined loaded []) one holds).weaken
    fun _ _ ⟨kept, _, answered⟩ => ⟨kept, answered⟩

theorem confined_pure {promised : First → Prop} {answer : First} (kept : promised answer) :
    Confined seen allowed promised (pure answer) := fun _ _ => leaves_pure kept

theorem confined_fail {promised : First → Prop} {failure : Failure} :
    Confined seen allowed promised (Method.fail failure) := fun _ _ => leaves_fail

theorem confined_select (promised : First → Prop) {read : Database → First}
    (kept : ∀ rows, seen rows → promised (read rows)) :
    Confined seen allowed promised (select read) := fun _ _ => leaves_select kept

theorem confined_execute (statement : Statement) (may : allowed statement) :
    Confined seen allowed (fun _ => True) (execute statement) := fun _ _ =>
  leaves_mutate may trivial

theorem confined_forM {body : Item → TenancyMethod PUnit} {items : List Item}
    (one : ∀ item ∈ items, Confined seen allowed (fun _ => True) (body item)) :
    Confined seen allowed (fun _ => True) (items.forM body) := fun _ _ =>
  Leaves.forM (fun _ _ => True) (fun item member loaded written _ => one item member loaded written)
    trivial

theorem confined_scalarOneOrNone (facts : First → Prop) {found : List First}
    (all : ∀ row ∈ found, facts row) :
    Confined seen allowed (fun row : Option First => ∀ value, row = some value → facts value)
      (scalarOneOrNone found) := by
  unfold scalarOneOrNone
  split
  · exact confined_pure fun _ impossible => by cases impossible
  · refine confined_pure fun value same => ?_
    cases same
    exact all _ (List.mem_singleton_self _)
  · exact confined_fail

theorem confined_selectMemberships (facts : Membership → Prop)
    {wanted : Database → Membership → Bool}
    (known : ∀ rows, seen rows → ∀ member ∈ rows.memberships.rows, wanted rows member → facts member) :
    Confined seen allowed (fun found => ∀ member ∈ found, facts member) (selectMemberships wanted) :=
  fun _ _ => leaves_select fun rows kind member found =>
    known rows kind member (List.mem_filter.mp found).1 (List.mem_filter.mp found).2

theorem confined_selectRoles (facts : Role → Prop) {wanted : Database → Role → Bool}
    (known : ∀ rows, seen rows → ∀ role ∈ rows.roles.rows, wanted rows role → facts role) :
    Confined seen allowed (fun found => ∀ role ∈ found, facts role.role) (selectRoles wanted) := by
  refine fun _ _ => leaves_select fun rows kind role found => ?_
  obtain ⟨row, listed, rfl⟩ := List.mem_map.mp found
  exact known rows kind row (List.mem_filter.mp listed).1 (List.mem_filter.mp listed).2

theorem confined_selectMembership (facts : Membership → Prop)
    {wanted : Database → Membership → Bool}
    (known : ∀ rows, seen rows → ∀ member ∈ rows.memberships.rows, wanted rows member → facts member) :
    Confined seen allowed (fun found => ∀ member, found = some member → facts member)
      (selectMembership wanted) :=
  (confined_selectMemberships facts known).bind fun _ => confined_scalarOneOrNone facts

theorem confined_selectRole {wanted : Database → Role → Bool} :
    Confined seen allowed (fun _ => True) (selectRole wanted) := by
  apply (confined_selectRoles (fun _ => True) fun _ _ _ _ _ => trivial).bind
  intro found _ loaded written
  exact (confined_scalarOneOrNone (fun _ => True) (fun _ _ => trivial) loaded written).weaken
    fun _ _ _ _ => trivial

theorem confined_invalidateMember {member : Membership} :
    Confined seen allowed (fun _ => True) (invalidateMember member) := by
  unfold invalidateMember
  split
  · exact fun _ _ => trivial
  · exact confined_pure trivial

theorem confined_invalidateOrgPerms {organizationId : Nat} :
    Confined seen allowed (fun _ => True) (invalidateOrgPerms organizationId) := by
  apply (confined_select (fun _ => True) fun _ _ => trivial).bind
  intro users _
  exact confined_forM fun _ _ _ _ => trivial

theorem confined_flushMembership {member edited : Membership}
    (may : allowed (.updateMembership member edited)) :
    Confined seen allowed (fun _ => True) (flushMembership member edited) := by
  unfold flushMembership
  split
  · exact confined_pure trivial
  · exact confined_execute _ may

end Confined

/-! What lookups of one row find. -/

section Lookups

variable {rows : Database} {loaded : IdentityMap}

theorem ensures_one {Row : Type} {found : List Row} :
    Ensures loaded rows (fun row _ later => later = rows ∧ row.toList = found)
      (scalarOneOrNone found) := by
  unfold scalarOneOrNone
  split
  · exact ensures_pure ⟨rfl, rfl⟩
  · exact ensures_pure ⟨rfl, rfl⟩
  · exact ensures_fail

theorem ensures_oneMembership {wanted : Database → Membership → Bool} :
    Ensures loaded rows (fun found _ later => later = rows ∧
        found.toList = rows.memberships.rows.filter (wanted rows)) (selectMembership wanted) := by
  have selected : Ensures loaded rows (fun found _ later => later = rows ∧
        found = rows.memberships.rows.filter (wanted rows)) (selectMemberships wanted) :=
    ensures_select ⟨rfl, rfl⟩
  apply selected.bind
  rintro found state _ ⟨rfl, rfl⟩
  exact ensures_one

theorem ensures_oneRole {wanted : Database → Role → Bool} :
    Ensures loaded rows (fun found _ later => later = rows ∧
        (found.map LoadedRole.role).toList = rows.roles.rows.filter (wanted rows))
      (selectRole wanted) := by
  have selected : Ensures loaded rows (fun found _ later => later = rows ∧
        found.map LoadedRole.role = rows.roles.rows.filter (wanted rows)) (selectRoles wanted) := by
    refine ensures_select ⟨rfl, ?_⟩
    rw [List.map_map]
    exact (List.map_congr_left fun _ _ => rfl).trans (List.map_id _)
  apply selected.bind
  rintro found state _ ⟨rfl, listed⟩
  refine ensures_one.weaken ?_
  rintro row _ _ ⟨rfl, same⟩
  rw [← listed, ← same]
  cases row with
  | none => exact ⟨rfl, rfl⟩
  | some row => exact ⟨rfl, rfl⟩

end Lookups

/-! The parts of requests that leave memberships where they stand. -/

/-- A statement that changes a membership's keys at most, or what a role grants, or adds
a role to a membership. -/
def Statement.Mild : Statement → Prop
  | .updateMembership loaded edited => Rekeyed loaded edited
  | .insertMembershipRole _ _ | .deleteRolePermissions _ | .insertRolePermission _ _ => True
  | _ => False

section Mild

variable {seen : Database → Prop} {allowed : Statement → Prop}
  (mild : ∀ statement : Statement, statement.Mild → allowed statement)

include mild

theorem confined_attachRole {member : Membership} {roleKey : String} :
    Confined seen allowed (Rekeyed member) (AuthorizationService.attachRole member roleKey) := by
  apply confined_selectRole.bind
  intro role _
  cases role with
  | none => exact confined_fail
  | some role =>
      apply (confined_execute _ (mild (.insertMembershipRole member.id role.role.id) trivial)).bind
      exact fun _ _ => confined_pure ⟨_, rfl⟩

theorem confined_attachRoles {member : Membership} {roleKeys : List String} :
    Confined seen allowed (Rekeyed member) (attachRoles member roleKeys) := by
  induction roleKeys generalizing member with
  | nil => exact confined_pure ⟨_, rfl⟩
  | cons roleKey rest ih =>
      apply (confined_attachRole mild).bind
      intro attached rekeyed loaded written
      exact (ih loaded written).weaken fun _ _ _ again => rekeyed.trans again

theorem confined_assignRole {member : Membership} {roleKey : String} :
    Confined seen allowed (fun _ => True) (assignRole member roleKey) := by
  apply (confined_attachRole mild).bind
  rintro edited rekeyed
  apply (confined_flushMembership (mild (.updateMembership member edited) rekeyed)).bind
  exact fun _ _ => confined_invalidateMember

theorem confined_recompute {member : Membership} :
    Confined seen allowed (fun _ => True) (recomputeMembershipPermissions member) := by
  apply (confined_selectRoles (fun _ => True) fun _ _ _ _ _ => trivial).bind
  exact fun _ _ => confined_flushMembership (mild (.updateMembership member _) ⟨_, rfl⟩)

/-- The memberships of a role are computed again, one after the other. -/
theorem confined_recomputeAll {members : List Membership} :
    Confined seen allowed (fun _ => True) (members.forM fun member => do
      recomputeMembershipPermissions member
      invalidateMember member) := by
  refine confined_forM fun member _ => ?_
  apply (confined_recompute mild).bind
  exact fun _ _ => confined_invalidateMember

theorem confined_setRolePermissions {roleId : Nat} {permissionKeys : List String} :
    Confined seen allowed (fun _ => True) (setRolePermissions roleId permissionKeys) := by
  apply (confined_execute _ (mild (.deleteRolePermissions roleId) trivial)).bind
  intro _ _
  apply (confined_select (fun _ => True) fun _ _ => trivial).bind
  intro permissions _
  apply (confined_forM fun permission _ =>
    confined_execute _ (mild (.insertRolePermission roleId permission.id) trivial)).bind
  intro _ _
  apply (confined_selectMemberships (fun _ => True) fun _ _ _ _ _ => trivial).bind
  exact fun _ _ => confined_recomputeAll mild

end Mild

section Roles

variable {seen : Database → Prop} {allowed : Statement → Prop}

theorem confined_requireKnown {permissionKeys : List String} :
    Confined seen allowed (fun _ => unknownPermissions permissionKeys = ∅)
      (requireKnown permissionKeys) := by
  unfold requireKnown
  simp only
  split
  · next known => exact confined_pure known
  · exact confined_fail

theorem confined_refreshPermissions {roleId : Nat} :
    Confined seen allowed (fun _ => True) (refreshPermissions roleId) :=
  fun _ _ => leaves_select fun _ _ => trivial

theorem confined_getMembership (facts : Membership → Prop) {membershipId : Nat}
    (known : ∀ rows, seen rows → ∀ member ∈ rows.memberships.rows, member.id = membershipId →
      facts member) :
    Confined seen allowed facts (getMembership membershipId) := by
  have found : Confined seen allowed (fun found => ∀ member, found = some member → facts member)
      (selectMembership fun _ member => member.id = membershipId) :=
    confined_selectMembership _ fun rows kind member here wanted =>
      known rows kind member here (of_decide_eq_true wanted)
  apply found.bind
  intro found known
  cases found with
  | none => exact confined_fail
  | some member => exact confined_pure (known member rfl)

/-- A role an organization may edit is its own. -/
theorem confined_getScopedRole (facts : Role → Prop) {roleId organizationId : Nat}
    (known : ∀ rows, seen rows → ∀ role ∈ rows.roles.rows, role.id = roleId →
      role.organizationId = some organizationId → facts role) :
    Confined seen allowed facts (getScopedRole roleId organizationId) := by
  have selected : Confined seen allowed (fun found => ∀ role ∈ found,
        role.role.organizationId = some organizationId → facts role.role)
      (selectRoles fun _ role => role.id = roleId) :=
    confined_selectRoles (fun role => role.organizationId = some organizationId → facts role)
      fun rows kind role here wanted => known rows kind role here (of_decide_eq_true wanted)
  apply selected.bind
  intro found known
  cases found with
  | nil => exact confined_fail
  | cons first rest =>
      change Confined seen allowed _
        (if first.role.organizationId ≠ some organizationId then _ else _)
      split
      · exact confined_fail
      · next home =>
          split
          · exact confined_fail
          · exact confined_pure (known first (by simp) (not_not.mp home))

theorem confined_createCustomRole {roleId organizationId : Nat} {key name : String}
    {description : Option String} {permissionKeys : List String}
    (mild : ∀ statement : Statement, statement.Mild → allowed statement)
    (may : unknownPermissions permissionKeys = ∅ →
      allowed (.insertRole ⟨roleId, some organizationId, key, name, description, false⟩)) :
    Confined seen allowed (fun _ => True)
      (createCustomRole roleId organizationId key name description permissionKeys) := by
  apply confined_requireKnown.bind
  intro _ known
  apply (confined_select (fun _ => True) fun _ _ => trivial).bind
  intro found _
  apply (confined_scalarOneOrNone (fun _ => True) fun _ _ => trivial).bind
  intro taken _
  split
  · exact confined_fail
  · apply (confined_execute _ (may known)).bind
    intro _ _
    apply (confined_setRolePermissions mild).bind
    exact fun _ _ => confined_refreshPermissions

theorem confined_updateCustomRole {roleId organizationId : Nat} {name description : Option String}
    {permissionKeys : Option (List String)}
    (mild : ∀ statement : Statement, statement.Mild → allowed statement)
    (may : ∀ id, allowed (.updateRole id name description)) :
    Confined seen allowed (fun _ => True)
      (updateCustomRole roleId organizationId name description permissionKeys) := by
  apply (confined_getScopedRole (fun _ => True) fun _ _ _ _ _ _ => trivial).bind
  intro role _
  have renamed : Confined seen allowed (fun _ => True) (do
      if name.isSome ∨ description.isSome then execute (.updateRole role.id name description)
      invalidateOrgPerms organizationId) := by
    split
    · apply (confined_execute _ (may role.id)).bind
      exact fun _ _ => confined_invalidateOrgPerms
    · exact confined_invalidateOrgPerms
  cases permissionKeys with
  | none => exact renamed
  | some keys =>
      apply confined_requireKnown.bind
      intro _ _
      apply (confined_setRolePermissions mild).bind
      intro _ _
      apply confined_refreshPermissions.bind
      exact fun _ _ => renamed

theorem confined_deleteCustomRole {roleId organizationId : Nat}
    (mild : ∀ statement : Statement, statement.Mild → allowed statement)
    (may : ∀ rows, seen rows → ∀ role ∈ rows.roles.rows, role.id = roleId →
      role.organizationId = some organizationId →
        allowed (.deleteHoldersOf role.id) ∧ allowed (.deleteRole role.id)) :
    Confined seen allowed (fun _ => True) (deleteCustomRole roleId organizationId) := by
  apply (confined_getScopedRole
    (fun role => allowed (.deleteHoldersOf role.id) ∧ allowed (.deleteRole role.id)) may).bind
  rintro role ⟨holders, own⟩
  apply (confined_selectMemberships (fun _ => True) fun _ _ _ _ _ => trivial).bind
  intro members _
  apply (confined_execute _ holders).bind
  intro _ _
  apply (confined_execute _ own).bind
  intro _ _
  apply (confined_recomputeAll mild).bind
  exact fun _ _ => confined_invalidateOrgPerms

end Roles

end SynapseSaas.Tenancy
