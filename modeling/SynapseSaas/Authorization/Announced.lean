import SynapseSaas.Authorization.Denormalization
import SynapseSaas.Foundation.Announcements

/-! The keys the permission cache is about, and which requests announce to it that they
changed them. -/

set_option autoImplicit false

namespace SynapseSaas.Tenancy

open Procedures (Method)
open Procedures.Method (Tells tells_pure tells_fail tells_select tells_mutate tells_perform)

/-- The user is an active member by this row. -/
def Membership.Stands (member : Membership) (userId organizationId : Nat) : Prop :=
  member.organizationId = organizationId ∧ member.userId = some userId ∧ member.status = .active

instance (member : Membership) (userId organizationId : Nat) :
    Decidable (member.Stands userId organizationId) :=
  inferInstanceAs (Decidable (_ ∧ _ ∧ _))

/-- What `permission_keys_for` selects: the keys of the user's active membership. -/
def Database.keysFor (rows : Database) (userId organizationId : Nat) : Finset String :=
  match rows.memberships.rows.find? fun member => member.Stands userId organizationId with
  | some member => member.permissionKeys.toFinset
  | none => ∅

section Keys

variable {rows after : Database} {userId organizationId : Nat} {member : Membership}

/-- The index on user and organization makes the membership the only one. -/
theorem mem_keysFor {key : String} : key ∈ rows.keysFor userId organizationId ↔
    ∃ member ∈ rows.memberships.rows, member.Stands userId organizationId ∧
      key ∈ member.permissionKeys := by
  unfold Database.keysFor
  constructor
  · intro held
    split at held
    · next member found =>
        have stands := List.find?_some found
        exact ⟨member, List.mem_of_find?_eq_some found, of_decide_eq_true stands,
          List.mem_toFinset.mp held⟩
    · cases held
  · rintro ⟨member, here, stands, held⟩
    split
    · next other found =>
        have selected := List.find?_some found
        have alike : other.Stands userId organizationId := of_decide_eq_true selected
        have one := Table.eq_of_key _ (List.mem_of_find?_eq_some found) here
          (Membership.mem_keys_user alike.1 alike.2.1) (Membership.mem_keys_user stands.1 stands.2.1)
        rw [one]
        exact List.mem_toFinset.mpr held
    · next missing =>
        have absent := List.find?_eq_none.mp missing member here
        exact absurd (decide_eq_true stands) absent

theorem keysFor_congr (same : after.memberships = rows.memberships) :
    after.keysFor userId organizationId = rows.keysFor userId organizationId := by
  unfold Database.keysFor
  rw [same]

/-- Where the memberships by which the user stands are the same, so are the keys. -/
theorem keysFor_of_standing
    (same : ∀ member : Membership, member.Stands userId organizationId →
      (member ∈ after.memberships.rows ↔ member ∈ rows.memberships.rows)) :
    after.keysFor userId organizationId = rows.keysFor userId organizationId := by
  ext key
  rw [mem_keysFor, mem_keysFor]
  constructor
  · rintro ⟨member, here, stands, held⟩
    exact ⟨member, (same member stands).mp here, stands, held⟩
  · rintro ⟨member, here, stands, held⟩
    exact ⟨member, (same member stands).mpr here, stands, held⟩

/-- A row that is written changes the keys of those who stand by it, before or after. -/
theorem keysFor_update {change : Membership → Membership} {id : Nat}
    (written : updateMembership id change rows = .ok after)
    (kept : ∀ row, (change row).id = row.id)
    (apart : ∀ row ∈ rows.memberships.rows, row.id = id →
      ¬ row.Stands userId organizationId ∧ ¬ (change row).Stands userId organizationId) :
    after.keysFor userId organizationId = rows.keysFor userId organizationId := by
  obtain ⟨row, memberships, located, accepted, stored⟩ := updateMembership_eq_ok written
  obtain ⟨here, same⟩ := Table.get_eq_some.mp located
  obtain ⟨before, later⟩ := apart row here same
  apply keysFor_of_standing
  intro member stands
  have listed : after.memberships = memberships := by rw [stored]
  rw [listed, Table.mem_put here (kept row) accepted]
  constructor
  · rintro (rfl | ⟨old, -⟩)
    · exact absurd stands later
    · exact old
  · intro old
    refine .inr ⟨old, ?_⟩
    rintro rfl
    exact before stands

theorem keysFor_insert (written : insertMembership member rows = .ok after)
    (apart : ¬ member.Stands userId organizationId) :
    after.keysFor userId organizationId = rows.keysFor userId organizationId := by
  obtain ⟨memberships, accepted, stored⟩ := insertMembership_eq_ok written
  have listed : after.memberships.rows = rows.memberships.rows ++ [member] := by
    rw [stored]
    exact Table.add_rows accepted
  apply keysFor_of_standing
  intro other stands
  rw [listed, List.mem_append, List.mem_singleton]
  constructor
  · rintro (old | rfl)
    · exact old
    · exact absurd stands apart
  · exact .inl

theorem keysFor_delete {id : Nat} (written : deleteMembership id rows = .ok after)
    (apart : ∀ row ∈ rows.memberships.rows, row.id = id → ¬ row.Stands userId organizationId) :
    after.keysFor userId organizationId = rows.keysFor userId organizationId := by
  have stored := Tables.check_eq_ok.mp written
  apply keysFor_of_standing
  intro member stands
  rw [stored, Table.mem_remove]
  constructor
  · exact fun kept => kept.1
  · exact fun old => ⟨old, fun same => apart member old same stands⟩

/-- The statements that write no membership. -/
def Statement.aside : Statement → Bool
  | .updateMembership _ _ | .insertMembership _ | .deleteMembership _ => false
  | _ => true

theorem memberships_aside {statement : Statement} (aside : statement.aside)
    (written : statement.run rows = .ok after) : after.memberships = rows.memberships := by
  have other : statement.target ≠ .memberships := by
    cases statement with
    | updateMembership | insertMembership | deleteMembership => cases aside
    | insertOrganization | insertRole | updateRole | deleteRole | insertMembershipRole
    | deleteRolesOf | deleteHoldersOf | deleteRolePermissions | insertRolePermission =>
        exact Target.noConfusion
  exact (Statement.frame written).memberships other

end Keys

/-! What has been announced. -/

/-- The permission cache has been told of the user's keys. -/
def Announced (told : List Invalidation) (userId organizationId : Nat) : Prop :=
  (AuthorizationService.permCache, AuthorizationService.permKey userId organizationId) ∈ told

def Membership.Of (member : Membership) (userId organizationId : Nat) : Prop :=
  member.userId = some userId ∧ member.organizationId = organizationId

/-- Whoever had keys before and has others now has been announced, but for those whose
announcement is owed still. -/
def Covers (before : Database) (owed : Nat → Nat → Prop) (rows : Database)
    (told : List Invalidation) : Prop :=
  ∀ userId organizationId, before.keysFor userId organizationId ≠ ∅ →
    owed userId organizationId ∨ Announced told userId organizationId ∨
      rows.keysFor userId organizationId = before.keysFor userId organizationId

def nobody : Nat → Nat → Prop := fun _ _ => False

/-- The row of a loaded membership is still that of its user. -/
def Placed (rows : Database) (member : Membership) : Prop :=
  ∀ row ∈ rows.memberships.rows, row.id = member.id →
    row.userId = member.userId ∧ row.organizationId = member.organizationId

section Covering

variable {before rows after : Database} {owed : Nat → Nat → Prop} {told more : List Invalidation}
  {member : Membership}

theorem covers_self (rows : Database) (told : List Invalidation) : Covers rows nobody rows told :=
  fun _ _ _ => .inr (.inr rfl)

theorem Covers.congr (covers : Covers before owed rows told)
    (same : after.memberships = rows.memberships) : Covers before owed after told := by
  intro userId organizationId had
  rw [keysFor_congr same]
  exact covers userId organizationId had

theorem Covers.tell (covers : Covers before owed rows told) (kept : told ⊆ more) :
    Covers before owed rows more := by
  intro userId organizationId had
  rcases covers userId organizationId had with owing | announced | same
  · exact .inl owing
  · exact .inr (.inl (kept announced))
  · exact .inr (.inr same)

/-- A write of a member's row owes the announcement to its user. -/
theorem Covers.owe (covers : Covers before nobody rows told)
    (same : ∀ userId organizationId, ¬ member.Of userId organizationId →
      after.keysFor userId organizationId = rows.keysFor userId organizationId) :
    Covers before member.Of after told := by
  intro userId organizationId had
  by_cases mine : member.Of userId organizationId
  · exact .inl mine
  · rw [same userId organizationId mine]
    rcases covers userId organizationId had with never | announced | same
    · exact never.elim
    · exact .inr (.inl announced)
    · exact .inr (.inr same)

theorem Covers.announce (covers : Covers before member.Of rows told)
    (announced : ∀ userId, member.userId = some userId →
      Announced told userId member.organizationId) : Covers before nobody rows told := by
  intro userId organizationId had
  rcases covers userId organizationId had with ⟨user, rfl⟩ | already | same
  · exact .inr (.inl (announced userId user))
  · exact .inr (.inl already)
  · exact .inr (.inr same)

theorem placed_of_mem (here : member ∈ rows.memberships.rows) : Placed rows member := by
  intro row there same
  rw [Table.eq_of_id _ there here same]
  exact ⟨rfl, rfl⟩

theorem Placed.congr (placed : Placed rows member) (same : after.memberships = rows.memberships) :
    Placed after member := by
  unfold Placed
  rw [same]
  exact placed

end Covering

section Statements

variable {rows : Database} {told : List Invalidation} {member edited : Membership} {α : Type}

/-- Nothing but the loaded collections is different. -/
def Quiet (rows : Database) (told : List Invalidation) (after : Database)
    (more : List Invalidation) : Prop :=
  rows = after ∧ told = more

theorem tells_read {read : Database → α} :
    Tells rows told (fun answer after more => answer = read rows ∧ Quiet rows told after more)
      (select read) :=
  tells_select fun _ => ⟨rfl, rfl, rfl⟩

theorem tells_selectRoles {wanted : Database → Role → Bool} :
    Tells rows told (fun _ => Quiet rows told) (selectRoles wanted) :=
  tells_select fun _ => ⟨rfl, rfl⟩

theorem tells_selectMemberships {wanted : Database → Membership → Bool} :
    Tells rows told (fun found after more => Quiet rows told after more ∧
        ∀ member ∈ found, member ∈ rows.memberships.rows ∧ wanted rows member)
      (selectMemberships wanted) :=
  tells_select fun _ => ⟨⟨rfl, rfl⟩, fun _ found => List.mem_filter.mp found⟩

theorem tells_scalarOneOrNone {found : List α} :
    Tells rows told (fun row after more => Quiet rows told after more ∧
        ∀ value, row = some value → value ∈ found)
      (scalarOneOrNone found) := by
  unfold scalarOneOrNone
  split
  · exact tells_pure ⟨⟨rfl, rfl⟩, fun _ never => by cases never⟩
  · refine tells_pure ⟨⟨rfl, rfl⟩, fun value same => ?_⟩
    cases same
    exact List.mem_singleton_self _
  · exact tells_fail

theorem tells_selectRole {wanted : Database → Role → Bool} :
    Tells rows told (fun _ => Quiet rows told) (selectRole wanted) := by
  apply tells_selectRoles.bind
  rintro found _ _ ⟨rfl, rfl⟩
  exact tells_scalarOneOrNone.weaken fun _ _ _ kept => kept.1

theorem tells_selectMembership {wanted : Database → Membership → Bool} :
    Tells rows told (fun found after more => Quiet rows told after more ∧
        ∀ member, found = some member → member ∈ rows.memberships.rows ∧ wanted rows member)
      (selectMembership wanted) := by
  apply tells_selectMemberships.bind
  rintro found _ _ ⟨⟨rfl, rfl⟩, known⟩
  apply tells_scalarOneOrNone.weaken
  rintro one _ _ ⟨⟨rfl, rfl⟩, inside⟩
  exact ⟨⟨rfl, rfl⟩, fun member same => known member (inside member same)⟩

theorem tells_aside {statement : Statement} (aside : statement.aside) :
    Tells rows told (fun _ after more => after.memberships = rows.memberships ∧ more = told)
      (execute statement) :=
  tells_mutate fun _ written => ⟨memberships_aside aside written, rfl⟩

theorem tells_invalidateUserPerms {userId organizationId : Nat} :
    Tells rows told (fun _ after more => after = rows ∧ told ⊆ more ∧
        Announced more userId organizationId)
      (AuthorizationService.invalidateUserPerms userId organizationId) := by
  have first : Tells rows told (fun _ after more => after = rows ∧ told ⊆ more ∧
        Announced more userId organizationId)
      (Method.perform (AuthorizationService.permCache,
        AuthorizationService.permKey userId organizationId) : TenancyMethod Unit) :=
    tells_perform ⟨rfl, List.subset_append_left _ _, List.mem_append_right _ List.mem_cons_self⟩
  apply first.bind
  rintro _ _ more ⟨rfl, kept, announced⟩
  exact tells_perform
    ⟨rfl, List.Subset.trans kept (List.subset_append_left _ _),
      List.mem_append_left _ announced⟩

theorem tells_invalidateMember :
    Tells rows told (fun _ after more => after = rows ∧ told ⊆ more ∧
        ∀ userId, member.userId = some userId → Announced more userId member.organizationId)
      (AuthorizationService.invalidateMember member) := by
  unfold AuthorizationService.invalidateMember
  split
  · next userId user =>
      apply tells_invalidateUserPerms.weaken
      rintro _ _ more ⟨rfl, kept, announced⟩
      refine ⟨rfl, kept, fun other same => ?_⟩
      rw [user] at same
      cases same
      exact announced
  · next nameless =>
      refine tells_pure ⟨rfl, List.Subset.refl _, fun userId same => ?_⟩
      rw [nameless] at same
      cases same

theorem tells_invalidateOrgPerms {organizationId : Nat} :
    Tells rows told (fun _ after more => after = rows ∧ told ⊆ more)
      (AuthorizationService.invalidateOrgPerms organizationId) := by
  apply tells_read.bind
  rintro users _ _ ⟨-, rfl, rfl⟩
  apply Tells.forM fun after more => after = _ ∧ _ ⊆ more
  · rintro userId - _ more ⟨rfl, kept⟩
    apply tells_invalidateUserPerms.weaken
    rintro _ _ later ⟨rfl, further, -⟩
    exact ⟨rfl, List.Subset.trans kept further⟩
  · exact ⟨rfl, List.Subset.refl _⟩

/-- A flush that leaves the user alone changes at most the user's own keys. -/
theorem tells_flushMembership (placed : Placed rows member) (user : edited.userId = member.userId) :
    Tells rows told (fun _ after more => more = told ∧
        (∀ other, Placed rows other → Placed after other) ∧
        ∀ userId organizationId, ¬ member.Of userId organizationId →
          after.keysFor userId organizationId = rows.keysFor userId organizationId)
      (flushMembership member edited) := by
  unfold flushMembership
  split
  · exact tells_pure ⟨rfl, fun _ kept => kept, fun _ _ _ => rfl⟩
  · refine tells_mutate fun after written =>
      ⟨rfl, fun other before => ?_, fun userId organizationId apart => ?_⟩
    · obtain ⟨row, memberships, located, accepted, stored⟩ := updateMembership_eq_ok written
      obtain ⟨here, same⟩ := Table.get_eq_some.mp located
      have listed : after.memberships = memberships := by rw [stored]
      have id : Keyed.id (member.changes edited row) = Keyed.id row := rfl
      intro listedRow inside named
      rw [listed, Table.mem_put here id accepted] at inside
      rcases inside with rfl | ⟨old, -⟩
      · obtain ⟨owner, home⟩ := before row here named
        refine ⟨?_, home⟩
        simp only [Membership.changes, if_pos user]
        exact owner
      · exact before listedRow old named
    · apply keysFor_update written
      · exact fun _ => rfl
      · intro row here same
        obtain ⟨owner, home⟩ := placed row here same
        constructor
        · rintro ⟨org, stands, -⟩
          exact apart ⟨owner ▸ stands, home ▸ org⟩
        · rintro ⟨org, stands, -⟩
          simp only [Membership.changes, if_pos user] at org stands
          exact apart ⟨owner ▸ stands, home ▸ org⟩

theorem tells_attachRole {roleKey : String} :
    Tells rows told (fun attached after more => after.memberships = rows.memberships ∧
        more = told ∧ Rekeyed member attached)
      (AuthorizationService.attachRole member roleKey) := by
  apply tells_selectRole.bind
  rintro role _ _ ⟨rfl, rfl⟩
  cases role with
  | none => exact tells_fail
  | some role =>
      apply (tells_aside rfl).bind
      rintro _ after _ ⟨same, rfl⟩
      exact tells_pure ⟨same, rfl, _, rfl⟩

theorem tells_attachRoles {roleKeys : List String} :
    Tells rows told (fun attached after more => after.memberships = rows.memberships ∧
        more = told ∧ Rekeyed member attached)
      (OrganizationService.attachRoles member roleKeys) := by
  induction roleKeys generalizing rows member with
  | nil => exact tells_pure ⟨rfl, rfl, member.permissionKeys, rfl⟩
  | cons roleKey rest ih =>
      apply tells_attachRole.bind
      rintro attached now _ ⟨first, rfl, rekeyed⟩
      apply ih.weaken
      rintro last after _ ⟨second, rfl, again⟩
      exact ⟨second.trans first, rfl, rekeyed.trans again⟩

end Statements

/-! The requests. -/

/-- In the end everything that was changed has been announced. -/
def Announces (rows : Database) (method : TenancyMethod Unit) : Prop :=
  Tells rows [] (fun _ after told => Covers rows nobody after told) method

section Requests

open OrganizationService AuthorizationService

variable {before rows : Database} {told : List Invalidation} {member edited : Membership}

theorem tells_getMembership {membershipId : Nat} :
    Tells rows told (fun member after more => Quiet rows told after more ∧
        member ∈ rows.memberships.rows ∧ member.id = membershipId)
      (getMembership membershipId) := by
  apply tells_selectMembership.bind
  rintro found _ _ ⟨⟨rfl, rfl⟩, known⟩
  cases found with
  | none => exact tells_fail
  | some member =>
      obtain ⟨here, asked⟩ := known member rfl
      exact tells_pure ⟨⟨rfl, rfl⟩, here, of_decide_eq_true asked⟩

/-- A flush of the user's own row, followed by the announcement. -/
theorem tells_flush_announce (covers : Covers before nobody rows told) (placed : Placed rows member)
    (user : edited.userId = member.userId) :
    Tells rows told (fun _ after more => Covers before nobody after more ∧
        ∀ other, Placed rows other → Placed after other)
      (do flushMembership member edited; invalidateMember member) := by
  apply (tells_flushMembership placed user).bind
  rintro _ now _ ⟨rfl, kept, same⟩
  apply tells_invalidateMember.weaken
  rintro _ _ more ⟨rfl, grown, announced⟩
  exact ⟨((covers.owe same).tell grown).announce announced, kept⟩

/-- Every member whose keys are computed anew is announced. -/
theorem tells_recomputeAll {members : List Membership} (covers : Covers before nobody rows told)
    (placed : ∀ member ∈ members, Placed rows member) :
    Tells rows told (fun _ after more => Covers before nobody after more)
      (members.forM fun member => do
        recomputeMembershipPermissions member
        invalidateMember member) := by
  have looped : Tells rows told (fun _ after more => Covers before nobody after more ∧
        ∀ member ∈ members, Placed after member)
      (members.forM fun member => do
        recomputeMembershipPermissions member
        invalidateMember member) := by
    apply Tells.forM fun after more => Covers before nobody after more ∧
      ∀ member ∈ members, Placed after member
    · rintro member inside now more ⟨covers, placed⟩
      have recomputed : Tells now more (fun _ after later => later = more ∧
            (∀ other, Placed now other → Placed after other) ∧
            ∀ userId organizationId, ¬ member.Of userId organizationId →
              after.keysFor userId organizationId = now.keysFor userId organizationId)
          (recomputeMembershipPermissions member) := by
        apply tells_selectRoles.bind
        rintro roles _ _ ⟨rfl, rfl⟩
        exact tells_flushMembership (placed member inside) rfl
      apply recomputed.bind
      rintro _ after _ ⟨rfl, kept, same⟩
      apply tells_invalidateMember.weaken
      rintro _ _ later ⟨rfl, grown, announced⟩
      exact ⟨((covers.owe same).tell grown).announce announced,
        fun other among => kept other (placed other among)⟩
    · exact ⟨covers, placed⟩
  exact looped.weaken fun _ _ _ kept => kept.1

theorem tells_setRolePermissions {roleId : Nat} {permissionKeys : List String}
    (covers : Covers before nobody rows told) :
    Tells rows told (fun _ after more => Covers before nobody after more)
      (setRolePermissions roleId permissionKeys) := by
  apply (tells_aside rfl).bind
  rintro _ cleared more ⟨same, eq⟩
  subst more
  apply tells_read.bind
  rintro permissions _ _ ⟨-, rfl, rfl⟩
  have granted : Tells cleared told (fun _ after more => Covers before nobody after more)
      (permissions.forM fun permission => execute (.insertRolePermission roleId permission.id)) := by
    apply Tells.forM fun after more => Covers before nobody after more
    · intro permission _ now more covers
      apply (tells_aside rfl).weaken
      rintro _ after _ ⟨same, rfl⟩
      exact covers.congr same
    · exact covers.congr same
  apply granted.bind
  intro _ now more covers
  apply tells_selectMemberships.bind
  rintro members _ _ ⟨⟨rfl, rfl⟩, known⟩
  exact tells_recomputeAll covers fun member inside => placed_of_mem (known member inside).1

theorem announces_assignRole {membershipId : Nat} {roleKey : String} :
    Announces rows (do let member ← getMembership membershipId; assignRole member roleKey) := by
  apply tells_getMembership.bind
  rintro member _ _ ⟨⟨rfl, rfl⟩, here, -⟩
  apply tells_attachRole.bind
  rintro _ now _ ⟨same, rfl, keys, rfl⟩
  have user : ({ member with permissionKeys := keys } : Membership).userId = member.userId := rfl
  apply (tells_flush_announce ((covers_self rows []).congr same)
    ((placed_of_mem here).congr same) user).weaken
  exact fun _ _ _ kept => kept.1

theorem tells_requireKnown {permissionKeys : List String} :
    Tells rows told (fun _ => Quiet rows told) (requireKnown permissionKeys) := by
  unfold requireKnown
  dsimp only
  split
  · exact tells_pure ⟨rfl, rfl⟩
  · exact tells_fail

theorem tells_refreshPermissions {roleId : Nat} :
    Tells rows told (fun _ => Quiet rows told) (refreshPermissions roleId) :=
  tells_select fun _ => ⟨rfl, rfl⟩

theorem announces_createCustomRole {roleId organizationId : Nat} {key name : String}
    {description : Option String} {permissionKeys : List String} :
    Announces rows
      (createCustomRole roleId organizationId key name description permissionKeys) := by
  apply tells_requireKnown.bind
  rintro _ _ _ ⟨rfl, rfl⟩
  apply tells_read.bind
  rintro found _ _ ⟨-, rfl, rfl⟩
  apply tells_scalarOneOrNone.bind
  rintro taken _ _ ⟨⟨rfl, rfl⟩, -⟩
  split
  · exact tells_fail
  · apply (tells_aside rfl).bind
    rintro _ now _ ⟨same, rfl⟩
    apply (tells_setRolePermissions ((covers_self _ []).congr same)).bind
    intro _ after more covers
    apply tells_refreshPermissions.weaken
    rintro _ _ _ ⟨rfl, rfl⟩
    exact covers

theorem tells_getScopedRole {roleId organizationId : Nat} :
    Tells rows told (fun _ => Quiet rows told) (getScopedRole roleId organizationId) := by
  apply tells_selectRoles.bind
  rintro found _ _ ⟨rfl, rfl⟩
  split
  · exact tells_fail
  · split
    · exact tells_fail
    · split
      · exact tells_fail
      · exact tells_pure ⟨rfl, rfl⟩

theorem announces_updateCustomRole {roleId organizationId : Nat}
    {name description : Option String} {permissionKeys : Option (List String)} :
    Announces rows (updateCustomRole roleId organizationId name description permissionKeys) := by
  apply tells_getScopedRole.bind
  rintro role _ _ ⟨rfl, rfl⟩
  -- Whether keys were given or not, the edit ends with the name and the announcements.
  have told {now : Database} {more : List Invalidation} (covers : Covers rows nobody now more) :
      Tells now more (fun _ after later => Covers rows nobody after later)
        (invalidateOrgPerms organizationId) := by
    apply tells_invalidateOrgPerms.weaken
    rintro _ _ last ⟨rfl, grown⟩
    exact covers.tell grown
  have renamed {now : Database} {more : List Invalidation} (covers : Covers rows nobody now more) :
      Tells now more (fun _ after later => Covers rows nobody after later)
        (if name.isSome ∨ description.isSome then do
          execute (.updateRole role.id name description)
          invalidateOrgPerms organizationId
        else invalidateOrgPerms organizationId) := by
    split
    · apply (tells_aside rfl).bind
      rintro _ after _ ⟨same, rfl⟩
      exact told (covers.congr same)
    · exact told covers
  cases permissionKeys with
  | none => exact renamed (covers_self rows [])
  | some keys =>
      apply tells_requireKnown.bind
      rintro _ _ _ ⟨rfl, rfl⟩
      apply (tells_setRolePermissions (covers_self rows [])).bind
      intro _ after more covers
      apply tells_refreshPermissions.bind
      rintro _ _ _ ⟨rfl, rfl⟩
      exact renamed covers

theorem announces_deleteCustomRole {roleId organizationId : Nat} :
    Announces rows (deleteCustomRole roleId organizationId) := by
  apply tells_getScopedRole.bind
  rintro role _ _ ⟨rfl, rfl⟩
  apply tells_selectMemberships.bind
  rintro holders _ _ ⟨⟨rfl, rfl⟩, known⟩
  apply (tells_aside rfl).bind
  rintro _ unlinked _ ⟨first, rfl⟩
  apply (tells_aside rfl).bind
  rintro _ removed _ ⟨second, rfl⟩
  have same := second.trans first
  apply (tells_recomputeAll ((covers_self _ []).congr same) fun member inside =>
    (placed_of_mem (known member inside).1).congr same).bind
  intro _ after more covers
  apply tells_invalidateOrgPerms.weaken
  rintro _ _ last ⟨rfl, grown⟩
  exact covers.tell grown

/-- An acceptance announces the user it makes a member. -/
theorem announces_joining {loaded joined : Membership} (here : loaded ∈ rows.memberships.rows)
    (invited : loaded.status = .invited) (home : joined.organizationId = loaded.organizationId) :
    Announces rows (do flushMembership loaded joined; invalidatePerms joined) := by
  have flushed : Tells rows [] (fun _ after more => more = [] ∧
        ∀ userId organizationId, ¬ joined.Of userId organizationId →
          after.keysFor userId organizationId = rows.keysFor userId organizationId)
      (flushMembership loaded joined) := by
    unfold flushMembership
    split
    · exact tells_pure ⟨rfl, fun _ _ _ => rfl⟩
    · refine tells_mutate fun after written => ⟨rfl, fun userId organizationId apart => ?_⟩
      apply keysFor_update written
      · exact fun _ => rfl
      · intro row there same
        rw [Table.eq_of_id _ there here same]
        constructor
        · rintro ⟨-, -, active⟩
          rw [invited] at active
          cases active
        · rintro ⟨at_, stands, -⟩
          refine apart ⟨?_, home.trans at_⟩
          simp only [Membership.changes] at stands
          split at stands
          · next unchanged => exact unchanged.trans stands
          · exact stands
  apply flushed.bind
  rintro _ now _ ⟨rfl, same⟩
  apply tells_invalidateMember.weaken
  rintro _ _ more ⟨rfl, grown, announced⟩
  exact (((covers_self rows []).owe same).tell grown).announce announced

theorem announces_accept {loaded : Membership} {user : Option Account}
    (here : loaded ∈ rows.memberships.rows) (invited : loaded.status = .invited)
    (home : member.organizationId = loaded.organizationId) :
    Announces rows (accept loaded member user) := by
  unfold accept
  cases user with
  | none => exact announces_joining here invited home
  | some user => exact announces_joining here invited home

theorem announces_acceptInviteByEmail {organizationId : Nat} {email : String} :
    Announces rows (acceptInviteByEmail organizationId email) := by
  apply tells_selectMembership.bind
  rintro found _ _ ⟨⟨rfl, rfl⟩, known⟩
  cases found with
  | none => exact tells_fail
  | some member =>
      obtain ⟨here, pending⟩ := known member rfl
      obtain ⟨-, -, invited⟩ := of_decide_eq_true pending
      apply tells_read.bind
      rintro users _ _ ⟨-, rfl, rfl⟩
      apply tells_scalarOneOrNone.bind
      rintro user _ _ ⟨⟨rfl, rfl⟩, -⟩
      exact announces_accept here invited rfl

theorem announces_acceptInviteByToken {mailbox : String → String} {tokenHash : String}
    {user : Account} : Announces rows (acceptInviteByToken mailbox tokenHash user) := by
  apply tells_selectMembership.bind
  rintro found _ _ ⟨⟨rfl, rfl⟩, known⟩
  cases found with
  | none => exact tells_fail
  | some member =>
      obtain ⟨here, pending⟩ := known member rfl
      obtain ⟨-, invited⟩ := of_decide_eq_true pending
      dsimp only
      split
      · exact tells_fail
      · exact announces_accept here invited rfl

/-- Who is invited has no user yet, so nobody's keys change. -/
theorem announces_inviteMember {membershipId organizationId : Nat} {invitedEmail : String}
    {roleKeys : List String} {seatLimit : Option Nat} {tokenHash : String} :
    Announces rows
      (inviteMember membershipId organizationId invitedEmail roleKeys seatLimit tokenHash) := by
  apply tells_selectMembership.bind
  rintro found _ _ ⟨⟨rfl, rfl⟩, -⟩
  cases found with
  | some member => exact tells_fail
  | none =>
      let invitee : Membership :=
        ⟨membershipId, organizationId, none, some invitedEmail, none, .invited, []⟩
      have nameless : invitee.userId = none := rfl
      have invited : Tells rows [] (fun _ after told => Covers rows nobody after told) (do
          execute (.insertMembership invitee)
          let invited ← attachRoles invitee (if roleKeys = [] then [SYSTEM_ROLE_MEMBER] else roleKeys)
          flushMembership invitee { invited with inviteTokenHash := some tokenHash }) := by
        have inserted : Tells rows [] (fun _ after more => more = [] ∧
              invitee ∈ after.memberships.rows ∧ Covers rows nobody after more)
            (execute (.insertMembership invitee)) := by
          refine tells_mutate fun after written => ⟨rfl, ?_, fun userId organizationId had => ?_⟩
          · obtain ⟨memberships, accepted, stored⟩ := insertMembership_eq_ok written
            rw [stored]
            dsimp only
            rw [Table.add_rows accepted]
            simp
          · refine .inr (.inr (keysFor_insert written ?_))
            rintro ⟨-, impossible, -⟩
            cases impossible
        apply inserted.bind
        rintro _ now _ ⟨rfl, here, covers⟩
        apply tells_attachRoles.bind
        rintro _ linked _ ⟨same, rfl, keys, rfl⟩
        have placed := (placed_of_mem here).congr same
        refine Tells.weaken (tells_flushMembership placed ?_) ?_
        · rfl
        · rintro _ after _ ⟨rfl, -, others⟩
          apply ((covers.congr same).owe others).announce
          intro userId impossible
          cases impossible
      apply tells_read.bind
      rintro active _ _ ⟨-, rfl, rfl⟩
      apply tells_read.bind
      rintro pending _ _ ⟨-, rfl, rfl⟩
      cases seatLimit with
      | none => exact invited
      | some limit =>
          dsimp only
          split
          · exact tells_fail
          · exact invited

/-- The owner of a new organization had no keys in it. -/
theorem announces_createOrganization {organizationId membershipId ownerId : Nat}
    {slug name : String} :
    Announces rows (createOrganization organizationId membershipId ownerId slug name) := by
  let owner : Membership := ⟨membershipId, organizationId, some ownerId, none, none, .active, []⟩
  apply (tells_aside rfl).bind
  rintro _ founded _ ⟨same, rfl⟩
  have inserted : Tells founded [] (fun _ after more => more = [] ∧
        owner ∈ after.memberships.rows ∧ rows.keysFor ownerId organizationId = ∅ ∧
        ∀ userId other, ¬ owner.Of userId other →
          after.keysFor userId other = rows.keysFor userId other)
      (execute (.insertMembership owner)) := by
    refine tells_mutate fun after written => ?_
    obtain ⟨memberships, accepted, stored⟩ := insertMembership_eq_ok written
    have listed : after.memberships.rows = founded.memberships.rows ++ [owner] := by
      rw [stored]
      exact Table.add_rows accepted
    refine ⟨rfl, by simp [listed], ?_, fun userId other apart => ?_⟩
    · -- The index would have refused a second membership of the user.
      rw [← keysFor_congr same, Finset.eq_empty_iff_forall_notMem]
      intro key held
      obtain ⟨row, here, stands, -⟩ := mem_keysFor.mp held
      have pairwise := after.memberships.pairwise
      rw [listed, List.pairwise_append] at pairwise
      have apart := (pairwise.2.2 row here owner (List.mem_singleton_self _)).2
        (.user organizationId ownerId)
      simp [Keyed.keys, stands.1, stands.2.1, owner] at apart
    · rw [← keysFor_congr same]
      apply keysFor_insert written
      rintro ⟨org, user, -⟩
      exact apart ⟨user, org⟩
  apply inserted.bind
  rintro _ now _ ⟨rfl, here, bare, others⟩
  apply tells_selectRole.bind
  rintro role _ _ ⟨rfl, rfl⟩
  cases role with
  | none => exact tells_fail
  | some role =>
      apply (tells_aside rfl).bind
      rintro _ linked _ ⟨kept, rfl⟩
      have placed := (placed_of_mem here).congr kept
      refine Tells.weaken (tells_flushMembership placed ?_) ?_
      · rfl
      · rintro _ after _ ⟨rfl, -, rekeyed⟩
        intro userId other had
        by_cases mine : owner.Of userId other
        · obtain ⟨user, org⟩ := mine
          cases user
          cases org
          exact absurd bare had
        · refine .inr (.inr ?_)
          rw [rekeyed userId other mine, keysFor_congr kept, others userId other mine]

/-- Replacing the roles announces the user before the new keys are written. -/
theorem tells_replaceRoles {roleKeys : List String} :
    Tells rows [] (fun replaced after more => after.memberships = rows.memberships ∧
        Rekeyed member replaced ∧
        ∀ userId, member.userId = some userId → Announced more userId member.organizationId)
      (replaceRoles member roleKeys) := by
  apply (tells_aside rfl).bind
  rintro _ cleared _ ⟨first, rfl⟩
  apply tells_attachRoles.bind
  rintro _ linked _ ⟨second, rfl, keys, rfl⟩
  apply tells_invalidateMember.bind
  rintro _ _ more ⟨rfl, -, announced⟩
  exact tells_pure ⟨second.trans first, ⟨keys, rfl⟩, announced⟩

/-- What follows a flush of the member: the row is loaded anew, and announced if its
status is another. -/
theorem tells_reload_announce {status : MembershipStatus} {userId : Option Nat}
    {membershipId organizationId : Nat}
    (placed : ∀ row ∈ rows.memberships.rows, row.id = membershipId →
      row.userId = userId ∧ row.organizationId = organizationId)
    (covers : Covers before (fun user other => userId = some user ∧ organizationId = other) rows
      told)
    (already : status = member.status → Covers before nobody rows told) :
    Tells rows told (fun _ after more => Covers before nobody after more) (do
      let reloaded ← reload membershipId
      if status ≠ member.status then OrganizationService.invalidatePerms reloaded) := by
  have reloading : Tells rows told (fun reloaded after more => Quiet rows told after more ∧
        reloaded ∈ rows.memberships.rows ∧ reloaded.id = membershipId)
      (reload membershipId) := by
    have emptied : Tells rows told (fun _ => Quiet rows told)
        (Method.select fun _ _ => ((), IdentityMap.empty) : TenancyMethod Unit) :=
      tells_select fun _ => ⟨rfl, rfl⟩
    apply emptied.bind
    rintro _ _ _ ⟨rfl, rfl⟩
    exact tells_getMembership
  apply reloading.bind
  rintro reloaded _ _ ⟨⟨rfl, rfl⟩, here, asked⟩
  split
  · apply tells_invalidateMember.weaken
    rintro _ _ more ⟨rfl, grown, announced⟩
    obtain ⟨user, home⟩ := placed reloaded here asked
    intro owner other had
    rcases covers owner other had with ⟨mine, rfl⟩ | told | same
    · rw [← home]
      exact .inr (.inl (announced owner (user.trans mine)))
    · exact .inr (.inl (grown told))
    · exact .inr (.inr same)
  · next same => exact tells_pure (already (not_not.mp same))

theorem announces_updateMembership {membershipId : Nat} {roleKeys : Option (List String)}
    {status : Option MembershipStatus} :
    Announces rows (OrganizationService.updateMembership membershipId roleKeys status) := by
  apply tells_getMembership.bind
  rintro member _ _ ⟨⟨rfl, rfl⟩, here, rfl⟩
  cases roleKeys with
  | none =>
      have loaded : Tells rows [] (fun answer after more => member = answer ∧ Quiet rows [] after more)
          (pure member : TenancyMethod Membership) :=
        tells_pure ⟨rfl, rfl, rfl⟩
      apply loaded.bind
      rintro _ _ _ ⟨rfl, rfl, rfl⟩
      let edited : Membership := { member with status := status.getD member.status }
      have placed := placed_of_mem here
      by_cases unchanged : edited = member
      · -- Nothing is flushed, and nothing announced.
        have flushed : Tells rows [] (fun _ => Quiet rows []) (flushMembership member edited) := by
          rw [flushMembership, if_pos unchanged]
          exact tells_pure ⟨rfl, rfl⟩
        apply flushed.bind
        rintro _ _ _ ⟨rfl, rfl⟩
        exact tells_reload_announce placed (fun _ _ _ => .inr (.inr rfl))
          fun _ => covers_self rows []
      · have status_ne : edited.status ≠ member.status := by
          intro same
          apply unchanged
          cases member
          simp only [edited] at same ⊢
          rw [same]
        have user : edited.userId = member.userId := rfl
        apply (tells_flushMembership placed user).bind
        rintro _ now _ ⟨rfl, kept, others⟩
        exact tells_reload_announce (kept member placed) ((covers_self rows []).owe others)
          fun same => absurd same status_ne
  | some keys =>
      apply tells_replaceRoles.bind
      rintro _ linked more ⟨same, ⟨held, rfl⟩, announced⟩
      have placed := (placed_of_mem here).congr same
      have covers : Covers rows nobody linked more :=
        ((covers_self rows []).congr same).tell (List.nil_subset _)
      let edited : Membership :=
        { member with permissionKeys := held, status := status.getD member.status }
      have user : edited.userId = member.userId := rfl
      apply (tells_flushMembership placed user).bind
      rintro _ now _ ⟨rfl, kept, others⟩
      have owed := covers.owe others
      exact tells_reload_announce (kept member placed) owed fun _ => owed.announce announced

end Requests

/-- The request removes a user who had keys. Nothing announces it. -/
def TenancyRequest.removesHolder (rows : Database) : TenancyRequest → Bool
  | .removeMember membershipId =>
      match rows.memberships.get membershipId with
      | some member =>
          member.status = .active ∧ member.userId.isSome ∧ member.permissionKeys ≠ [] ∧
            rows.organizations.rows.any fun organization =>
              organization.id = member.organizationId ∧ organization.deleted = false ∧
                member.userId ≠ organization.ownerUserId
      | none => false
  | _ => false

section Announcing

open OrganizationService

variable {rows : Database}

theorem announces_removeMember {membershipId : Nat}
    (spares : (TenancyRequest.removeMember membershipId).removesHolder rows = false) :
    Announces rows (removeMember membershipId) := by
  apply tells_getMembership.bind
  rintro member _ _ ⟨⟨rfl, rfl⟩, here, rfl⟩
  apply tells_read.bind
  rintro organizations _ _ ⟨found, rfl, rfl⟩
  cases organizations with
  | nil => exact tells_fail
  | cons organization rest =>
      dsimp only
      split
      · exact tells_fail
      · next other =>
          have selected : organization ∈ rows.organizations.rows ∧
              (organization.id = member.organizationId ∧ organization.deleted = false) := by
            have inside : organization ∈ organization :: rest := List.mem_cons_self
            rw [found, List.mem_filter] at inside
            exact ⟨inside.1, of_decide_eq_true inside.2⟩
          refine tells_mutate fun after written userId organizationId had => ?_
          refine .inr (.inr (keysFor_delete written fun row there same => ?_))
          rw [Table.eq_of_id _ there here same]
          rintro ⟨home, user, active⟩
          -- Whoever stands by the row had its keys, so the row is spared only without any.
          obtain ⟨key, held⟩ := Finset.nonempty_iff_ne_empty.mpr had
          obtain ⟨holder, inside, stands, keyed⟩ := mem_keysFor.mp held
          have one : holder = member := Table.eq_of_key _ inside here
            (Membership.mem_keys_user stands.1 stands.2.1) (Membership.mem_keys_user home user)
          have keys : member.permissionKeys ≠ [] := List.ne_nil_of_mem (one ▸ keyed)
          have located : rows.memberships.get member.id = some member :=
            Table.get_eq_some.mpr ⟨here, rfl⟩
          simp only [TenancyRequest.removesHolder, located, decide_eq_false_iff_not] at spares
          apply spares
          refine ⟨active, by rw [user]; rfl, keys, List.any_eq_true.mpr ⟨organization, selected.1, ?_⟩⟩
          exact decide_eq_true ⟨selected.2.1, selected.2.2, other⟩

/-- Every request but the removal of a user with keys announces what it changes. -/
theorem announces_request (mailbox : String → String) {request : TenancyRequest}
    (spares : request.removesHolder rows = false) : Announces rows (request.method mailbox) := by
  cases request with
  | createOrganization => exact announces_createOrganization
  | inviteMember => exact announces_inviteMember
  | acceptInviteByEmail => exact announces_acceptInviteByEmail
  | acceptInviteByToken => exact announces_acceptInviteByToken
  | updateMembership => exact announces_updateMembership
  | removeMember => exact announces_removeMember spares
  | assignRole => exact announces_assignRole
  | createCustomRole => exact announces_createCustomRole
  | updateCustomRole => exact announces_updateCustomRole
  | deleteCustomRole => exact announces_deleteCustomRole

end Announcing

end SynapseSaas.Tenancy
