import SynapseSaas.Authorization.Denormalization

/-! Custom roles made, deleted and edited: what becomes of the keys of those who hold them. -/

set_option autoImplicit false

namespace SynapseSaas.Tenancy

open Procedures Procedures.Method AuthorizationService OrganizationService

/-! Grants of one role. -/

section Grants

variable {rows after : Database} {roleId : Nat} {loaded : IdentityMap}

/-- Only the grants of one role were written. -/
def Regrants (rows : Database) (roleId : Nat) (after : Database) : Prop :=
  ∃ rolePermissions, after.toTables = { rows.toTables with rolePermissions } ∧
    ∀ link : Nat × Nat, link.1 ≠ roleId → (link ∈ rolePermissions ↔ link ∈ rows.rolePermissions)

theorem Regrants.trans {last : Database} (first : Regrants rows roleId after)
    (second : Regrants after roleId last) : Regrants rows roleId last := by
  obtain ⟨grants, stored, same⟩ := first
  obtain ⟨others, written, still⟩ := second
  refine ⟨others, ?_, fun link apart => ?_⟩
  · rw [written, stored]
  · rw [still link apart, stored]
    exact same link apart

theorem Regrants.permissionsOf (regrants : Regrants rows roleId after) {id : Nat}
    (apart : id ≠ roleId) : after.permissionsOf id = rows.permissionsOf id := by
  obtain ⟨grants, stored, same⟩ := regrants
  have granted (permission : Permission) :
      (id, permission.id) ∈ grants ↔ (id, permission.id) ∈ rows.rolePermissions :=
    same (id, permission.id) apart
  unfold Database.permissionsOf
  rw [stored]
  simp only [granted]

/-- Who does not hold the role is not concerned. -/
theorem Regrants.unionOf (regrants : Regrants rows roleId after) {id : Nat}
    (unheld : (id, roleId) ∉ rows.membershipRoles) : after.unionOf id = rows.unionOf id := by
  have others := @Regrants.permissionsOf rows after roleId regrants
  obtain ⟨grants, stored, -⟩ := regrants
  ext key
  simp only [Database.mem_unionOf, Database.Holds, stored]
  constructor
  · rintro ⟨role, there, held, granted⟩
    rw [others fun same => unheld (same ▸ held)] at granted
    exact ⟨role, there, held, granted⟩
  · rintro ⟨role, there, held, granted⟩
    rw [← others fun same => unheld (same ▸ held)] at granted
    exact ⟨role, there, held, granted⟩

theorem regrants_delete (written : deleteRolePermissions roleId rows = .ok after) :
    Regrants rows roleId after := by
  refine ⟨_, Tables.check_eq_ok.mp written, fun link apart => ?_⟩
  simp [apart]

theorem regrants_insert {permissionId : Nat}
    (written : insertRolePermission roleId permissionId rows = .ok after) :
    Regrants rows roleId after := by
  refine ⟨_, insertRolePermission_eq_ok written, fun link apart => ?_⟩
  have other : link ≠ (roleId, permissionId) := fun same => apart (congrArg Prod.fst same)
  simp [other]

/-- The role is held by nobody. -/
def Unheld (rows : Database) (roleId : Nat) : Prop := ∀ link ∈ rows.membershipRoles, link.2 ≠ roleId

theorem Regrants.unheld (regrants : Regrants rows roleId after) (unheld : Unheld rows roleId) :
    Unheld after roleId := by
  obtain ⟨grants, stored, -⟩ := regrants
  rw [Unheld, stored]
  exact unheld

theorem Regrants.exact_ (regrants : Regrants rows roleId after) (unheld : Unheld rows roleId)
    (exact_ : Exact rows) : Exact after := by
  intro member there
  rw [regrants.unionOf fun held => unheld _ held rfl]
  obtain ⟨grants, stored, -⟩ := regrants
  rw [stored] at there
  exact exact_ member there

theorem exact_setRolePermissions {permissionKeys : List String} (exact_ : Exact rows)
    (unheld : Unheld rows roleId) :
    Ensures loaded rows (fun _ _ later => Exact later) (setRolePermissions roleId permissionKeys) := by
  have cleared : Ensures loaded rows (fun _ _ later => Exact later ∧ Unheld later roleId)
      (execute (.deleteRolePermissions roleId)) := by
    refine Method.ensures_mutate fun later written => ?_
    have regrants := regrants_delete written
    exact ⟨regrants.exact_ unheld exact_, regrants.unheld unheld⟩
  apply cleared.bind
  rintro _ state now ⟨exact_, unheld⟩
  have looked : Ensures state now (fun _ after later => after = state ∧ later = now)
      (select fun rows => rows.permissions.rows.filter fun permission =>
        permission.key ∈ permissionKeys) := Method.ensures_select ⟨rfl, rfl⟩
  apply looked.bind
  rintro permissions state now ⟨rfl, rfl⟩
  have granted : Ensures state now (fun _ _ later => Exact later ∧ Unheld later roleId)
      (permissions.forM fun permission => execute (.insertRolePermission roleId permission.id)) := by
    refine Ensures.forM (fun _ _ rows => Exact rows ∧ Unheld rows roleId) ?_ ⟨exact_, unheld⟩
    rintro permission rest state rows ⟨exact_, unheld⟩
    refine Method.ensures_mutate fun later written => ?_
    have regrants := regrants_insert written
    exact ⟨regrants.exact_ unheld exact_, regrants.unheld unheld⟩
  apply granted.bind
  rintro _ state now ⟨exact_, unheld⟩
  -- Nobody holds the role, so no membership is computed again.
  have nobody : Ensures state now (fun members _ later => members = [] ∧ later = now)
      (selectMemberships fun rows member => (member.id, roleId) ∈ rows.membershipRoles) := by
    refine Method.ensures_select ⟨List.filter_eq_nil_iff.mpr fun member _ held => ?_, rfl⟩
    exact unheld _ (of_decide_eq_true held) rfl
  apply nobody.bind
  rintro _ state now ⟨rfl, rfl⟩
  exact Method.ensures_pure exact_

end Grants

/-- An edit of the permissions of a role of the organization that is accepted. -/
def Database.Editable (rows : Database) (roleId organizationId : Nat) (permissionKeys : List String) :
    Prop :=
  ∃ role ∈ rows.roles.rows, role.id = roleId ∧ role.organizationId = some organizationId ∧
    role.isSystem = false ∧ unknownPermissions permissionKeys = ∅

/-- The permissions an edit grants: those of the catalogue that it names. -/
def Database.granted (rows : Database) (permissionKeys : List String) : Finset String :=
  ((rows.permissions.rows.filter fun permission => permission.key ∈ permissionKeys).map
    Permission.key).toFinset

/-- The union of a membership's roles as an edit of one of them makes it. -/
def Database.unionEdited (rows : Database) (roleId : Nat) (permissionKeys : List String)
    (membershipId : Nat) : Finset String :=
  ((rows.rolesOf membershipId).map Role.id).toFinset.biUnion
    (Function.update rows.permissionsOf roleId (rows.granted permissionKeys))

section Requests

variable {rows : Database} {loaded : IdentityMap} {roleId organizationId : Nat}

theorem ensures_requireKnown {permissionKeys : List String}
    {promised : Unit → IdentityMap → Database → Prop}
    (kept : unknownPermissions permissionKeys = ∅ → promised () loaded rows) :
    Ensures loaded rows promised (requireKnown permissionKeys) := by
  change Ensures loaded rows promised (if unknownPermissions permissionKeys = ∅ then _ else _)
  split
  · next known => exact kept known
  · exact Method.ensures_fail

/-- A new role has no holder: the links know only roles that exist. -/
theorem unheld_insertRole {role : Role} {after : Database} (exact_ : Exact rows)
    (written : insertRole role rows = .ok after) : Exact after ∧ Unheld after role.id := by
  obtain ⟨roles, accepted, stored⟩ := insertRole_eq_ok written
  have listed : after.roles.rows = rows.roles.rows ++ [role] := by
    rw [stored]
    exact Table.add_rows accepted
  have unheld : Unheld rows role.id := by
    intro link there
    obtain ⟨-, known, here, same⟩ := rows.references.2 link there
    rw [← same]
    exact Table.add_fresh accepted known here
  constructor
  · intro member there
    have same : after.unionOf member.id = rows.unionOf member.id := by
      ext key
      simp only [Database.mem_unionOf, listed, List.mem_append, List.mem_singleton]
      simp only [Database.permissionsOf, Database.Holds, stored]
      constructor
      · rintro ⟨other, old | rfl, held, granted⟩
        · exact ⟨other, old, held, granted⟩
        · exact absurd rfl (unheld _ held)
      · rintro ⟨other, old, held, granted⟩
        exact ⟨other, .inl old, held, granted⟩
    rw [stored] at there
    rw [same]
    exact exact_ member there
  · rw [Unheld, stored]
    exact unheld

theorem exact_createCustomRole {key name : String} {description : Option String}
    {permissionKeys : List String} (exact_ : Exact rows) :
    Ensures loaded rows (fun _ _ later => Exact later)
      (createCustomRole roleId organizationId key name description permissionKeys) := by
  have checked : Ensures loaded rows (fun _ _ later => later = rows) (requireKnown permissionKeys) :=
    ensures_requireKnown fun _ => rfl
  apply checked.bind
  rintro _ state now rfl
  have looked : Ensures state now (fun _ _ later => later = now)
      (select fun rows => rows.roles.rows.filter fun role =>
        role.organizationId = some organizationId ∧ role.key = key) := Method.ensures_select rfl
  apply looked.bind
  rintro found state now rfl
  have one : Ensures state now (fun _ _ later => later = now) (scalarOneOrNone found) :=
    ensures_scalarOneOrNone fun _ _ => rfl
  apply one.bind
  rintro taken state now rfl
  split
  · exact Method.ensures_fail
  · have inserted : Ensures state now (fun _ _ later => Exact later ∧ Unheld later roleId)
        (execute (.insertRole ⟨roleId, some organizationId, key, name, description, false⟩)) :=
      Method.ensures_mutate fun later written => unheld_insertRole exact_ written
    apply inserted.bind
    rintro _ state now ⟨exact_, unheld⟩
    apply (exact_setRolePermissions exact_ unheld).bind
    intro _ state later exact_
    exact Method.ensures_select exact_

theorem ensures_getScopedRole (accurate : Accurate loaded rows) :
    Ensures loaded rows (fun role after later => later = rows ∧ Accurate after rows ∧
        role ∈ rows.roles.rows ∧ role.id = roleId ∧ role.organizationId = some organizationId ∧
        role.isSystem = false)
      (getScopedRole roleId organizationId) := by
  have selected : Ensures loaded rows (fun found after later => later = rows ∧
        Accurate after rows ∧ ∀ role ∈ found, role.role ∈ rows.roles.rows ∧ role.role.id = roleId)
      (selectRoles fun _ role => role.id = roleId) := by
    refine ensures_selectRoles accurate fun after accurate => ⟨rfl, accurate, fun role found => ?_⟩
    obtain ⟨row, listed, rfl⟩ := List.mem_map.mp found
    obtain ⟨there, asked⟩ := List.mem_filter.mp listed
    exact ⟨there, of_decide_eq_true asked⟩
  apply selected.bind
  rintro found state now ⟨rfl, accurate, known⟩
  cases found with
  | nil => exact Method.ensures_fail
  | cons first rest =>
      obtain ⟨there, asked⟩ := known first (by simp)
      change Ensures state now _ (if first.role.organizationId ≠ some organizationId then _ else _)
      split
      · exact Method.ensures_fail
      · next own =>
          split
          · exact Method.ensures_fail
          · next custom =>
              exact Method.ensures_pure
                ⟨rfl, accurate, there, asked, not_not.mp own, Bool.eq_false_iff.mpr custom⟩

/-- What is left to compute again of the memberships that held a deleted role. -/
structure Recomputing (left : List Membership) (loaded : IdentityMap) (rows : Database) : Prop where
  accurate : Accurate loaded rows
  done : ∀ member ∈ rows.memberships.rows, member ∉ left →
    member.permissionKeys = sorted (rows.unionOf member.id)
  there : ∀ member ∈ left, member ∈ rows.memberships.rows
  once : left.Nodup

theorem unionOfRoles_loaded {membershipId : Nat} :
    unionOfRoles (loadedRoles rows fun rows role => rows.Holds membershipId role) =
      rows.unionOf membershipId := by
  have folded (roles : List Role) (key : String) :
      key ∈ unionOfRoles (roles.map fun role => ⟨role, rows.permissionsOf role.id⟩) ↔
        ∃ role ∈ roles, key ∈ rows.permissionsOf role.id := by
    unfold unionOfRoles
    induction roles with
    | nil => simp
    | cons role rest ih =>
        rw [List.map_cons, List.foldr_cons, Finset.mem_union, ih]
        simp
  ext key
  rw [loadedRoles, folded, Database.mem_unionOf]
  simp [and_assoc]

theorem ensures_recompute {member : Membership} {rest : List Membership}
    (computing : Recomputing (member :: rest) loaded rows) :
    Ensures loaded rows (fun _ after later => Recomputing rest after later) (do
      recomputeMembershipPermissions member
      invalidateMember member) := by
  obtain ⟨accurate, finished, there, once⟩ := computing
  obtain ⟨fresh, once⟩ := List.nodup_cons.mp once
  have here : member ∈ rows.memberships.rows := there member (by simp)
  have recomputed : Ensures loaded rows (fun _ after later => Recomputing rest after later)
      (recomputeMembershipPermissions member) := by
    have selected : Ensures loaded rows (fun roles after later => later = rows ∧
          Accurate after rows ∧ unionOfRoles roles = rows.unionOf member.id)
        (selectRoles fun rows role => rows.Holds member.id role) :=
      ensures_selectRoles accurate fun after accurate => ⟨rfl, accurate, unionOfRoles_loaded⟩
    apply selected.bind
    rintro roles state now ⟨rfl, accurate, union⟩
    let edited : Membership := { member with permissionKeys := sorted (unionOfRoles roles) }
    have flushed := @ensures_flush now state member edited here rfl rfl
    apply flushed.weaken
    rintro _ _ later ⟨rfl, memberships, stored, among⟩
    have listed (other : Membership) (listed : other ∈ later.memberships.rows) :
        other ∈ memberships.rows := by rwa [stored] at listed
    constructor
    · exact accurate.congr (by rw [stored]) (by rw [stored]) (by rw [stored])
    · intro other there unlisted
      rw [unionOf_memberships stored]
      rcases (among other).mp (listed other there) with rfl | ⟨old, distinct⟩
      · exact congrArg sorted union
      · exact finished other old (by simp [distinct, unlisted])
    · intro other remains
      rw [stored]
      have distinct : other ≠ member := fun same => fresh (same ▸ remains)
      exact (among other).mpr (.inr ⟨there other (by simp [remains]), distinct⟩)
    · exact once
  apply recomputed.bind
  intro _ state later computing
  exact ensures_invalidateMember computing

/-- Once the role and its links are gone, its former holders are to be computed again. -/
theorem recomputing_deleted {role : Role} {between after : Database} (accurate : Accurate loaded rows)
    (exact_ : Exact rows)
    (unlinked : deleteMembershipRoles (fun link => link.2 = role.id) rows = .ok between)
    (deleted : deleteRole role.id between = .ok after) :
    Recomputing (rows.memberships.rows.filter fun member => (member.id, role.id) ∈ rows.membershipRoles)
      loaded after := by
  have stored := Tables.check_eq_ok.mp deleted
  rw [Tables.check_eq_ok.mp unlinked] at stored
  have survivors (other : Role) :
      other ∈ after.roles.rows ↔ other ∈ rows.roles.rows ∧ other.id ≠ role.id := by
    rw [stored]
    exact Table.mem_remove
  have collections (id : Nat) (apart : id ≠ role.id) :
      after.permissionsOf id = rows.permissionsOf id := by
    unfold Database.permissionsOf
    rw [stored]
    simp [apart]
  constructor
  · intro other there permissions found
    obtain ⟨old, apart⟩ := (survivors other).mp there
    rw [collections other.id apart]
    exact accurate other old permissions found
  · intro member there unlisted
    rw [stored] at there
    have unheld : (member.id, role.id) ∉ rows.membershipRoles := by
      intro held
      exact unlisted (List.mem_filter.mpr ⟨there, decide_eq_true held⟩)
    have same : after.unionOf member.id = rows.unionOf member.id := by
      ext key
      simp only [Database.mem_unionOf, survivors]
      constructor
      · rintro ⟨other, ⟨old, apart⟩, held, granted⟩
        rw [collections other.id apart] at granted
        rw [Database.Holds, stored] at held
        have kept := (Finset.mem_filter.mp (Finset.mem_filter.mp held).1).1
        exact ⟨other, old, kept, granted⟩
      · rintro ⟨other, old, held, granted⟩
        have apart : other.id ≠ role.id := fun same => unheld (same ▸ held)
        refine ⟨other, ⟨old, apart⟩, ?_, ?_⟩
        · rw [Database.Holds, stored]
          simpa [apart] using (show (member.id, other.id) ∈ rows.membershipRoles from held)
        · rwa [collections other.id apart]
    rw [same]
    exact exact_ member there
  · intro member holder
    rw [stored]
    exact (List.mem_filter.mp holder).1
  · apply List.Nodup.filter
    apply rows.memberships.pairwise.imp
    intro first second compatible same
    exact compatible.1 (congrArg Membership.id same)

theorem exact_deleteCustomRole (accurate : Accurate loaded rows) (exact_ : Exact rows) :
    Ensures loaded rows (fun _ _ later => Exact later) (deleteCustomRole roleId organizationId) := by
  apply (ensures_getScopedRole accurate).bind
  rintro role state now ⟨rfl, accurate, -⟩
  have selected : Ensures state now (fun holders after later => later = now ∧ Accurate after now ∧
        holders = now.memberships.rows.filter fun member => (member.id, role.id) ∈ now.membershipRoles)
      (selectMemberships fun rows member => (member.id, role.id) ∈ rows.membershipRoles) :=
    ensures_selectMemberships accurate fun after accurate => ⟨rfl, accurate, rfl⟩
  apply selected.bind
  rintro holders state now ⟨rfl, accurate, listed⟩
  have cut : Ensures state now (fun _ after later => after = state ∧
        deleteMembershipRoles (fun link => link.2 = role.id) now = .ok later)
      (execute (.deleteHoldersOf role.id)) :=
    Method.ensures_mutate fun later written => ⟨rfl, written⟩
  apply cut.bind
  rintro _ state between ⟨rfl, unlinked⟩
  have removed : Ensures state between (fun _ after later => Recomputing holders after later)
      (execute (.deleteRole role.id)) := by
    refine Method.ensures_mutate fun later deleted => ?_
    rw [listed]
    exact recomputing_deleted accurate exact_ unlinked deleted
  apply removed.bind
  intro _ state later computing
  have computed : Ensures state later (fun _ after last => Recomputing [] after last)
      (holders.forM fun member => do
        recomputeMembershipPermissions member
        invalidateMember member) :=
    Ensures.forM Recomputing (fun _ _ _ _ computing => ensures_recompute computing) computing
  apply computed.bind
  intro _ state last computed
  exact ensures_invalidateOrgPerms fun member there => computed.done member there List.not_mem_nil

theorem Role.id_rename (name description : Option String) (role : Role) :
    (role.rename name description).id = role.id := rfl

/-- A role keeps its id under another name, and with it its holders and its grants. -/
theorem unionOf_updateRole {change : Role → Role} {after : Database} {membershipId : Nat}
    (kept : ∀ role, (change role).id = role.id)
    (written : updateRole roleId change rows = .ok after) :
    after.unionOf membershipId = rows.unionOf membershipId := by
  obtain ⟨role, roles, found, accepted, stored⟩ := updateRole_eq_ok written
  obtain ⟨here, -⟩ := Table.get_eq_some.mp found
  ext key
  simp only [Database.mem_unionOf, Database.permissionsOf, Database.Holds, stored,
    Table.mem_put here (kept role) accepted]
  constructor
  · rintro ⟨other, rfl | ⟨old, -⟩, held, granted⟩
    · rw [kept] at held granted
      exact ⟨role, here, held, granted⟩
    · exact ⟨other, old, held, granted⟩
  · rintro ⟨other, old, held, granted⟩
    by_cases renamed : other = role
    · rw [renamed, ← kept role] at held granted
      exact ⟨change role, .inl rfl, held, granted⟩
    · exact ⟨other, .inr ⟨old, renamed⟩, held, granted⟩

theorem memberships_updateRole {change : Role → Role} {after : Database}
    (written : updateRole roleId change rows = .ok after) : after.memberships = rows.memberships := by
  obtain ⟨role, roles, -, -, stored⟩ := updateRole_eq_ok written
  rw [stored]

/-- An edit without permissions, or one that is refused. -/
theorem exact_updateCustomRole {name description : Option String}
    {permissionKeys : Option (List String)} (accurate : Accurate loaded rows) (exact_ : Exact rows)
    (refused : ∀ keys, permissionKeys = some keys → ¬rows.Editable roleId organizationId keys) :
    Ensures loaded rows (fun _ _ later => Exact later)
      (updateCustomRole roleId organizationId name description permissionKeys) := by
  apply (ensures_getScopedRole accurate).bind
  rintro role state now ⟨rfl, accurate, here, id, own, custom⟩
  cases permissionKeys with
  | none =>
      have saved (after : Database) (exact_ : Exact after) :
          Ensures state after (fun _ _ later => Exact later) (invalidateOrgPerms organizationId) :=
        ensures_invalidateOrgPerms exact_
      change Ensures state now _ (if name.isSome ∨ description.isSome then _ else _)
      split
      · intro after written
        refine saved after fun member there => ?_
        rw [memberships_updateRole written] at there
        have same : after.unionOf member.id = now.unionOf member.id :=
          unionOf_updateRole (Role.id_rename name description) written
        rw [same]
        exact exact_ member there
      · exact saved now exact_
  | some keys =>
      have checked : Ensures state now (fun _ _ later => False) (requireKnown keys) :=
        ensures_requireKnown fun known => refused keys rfl ⟨role, here, id, own, custom, known⟩
      apply checked.bind
      intro _ state later impossible
      cases impossible

end Requests

/-! An accepted edit of the permissions of a role. -/

section Edits

variable {before rows : Database} {loaded : IdentityMap} {roleId : Nat}

/-- In the middle of an edit: the session still has the collection the role had before. -/
structure Editing (before : Database) (roleId : Nat) (loaded : IdentityMap) (rows : Database) : Prop where
  regrants : Regrants before roleId rows
  stale : loaded roleId = some (before.permissionsOf roleId)
  accurate : Accurate loaded before

theorem Editing.permissions (editing : Editing before roleId loaded rows) {role : Role}
    (there : role ∈ before.roles.rows) :
    loaded.permissions rows role.id = before.permissionsOf role.id := by
  unfold IdentityMap.permissions
  cases found : loaded role.id with
  | some permissions => exact editing.accurate role there permissions found
  | none =>
      have apart : role.id ≠ roleId := by
        intro same
        rw [same, editing.stale] at found
        cases found
      exact editing.regrants.permissionsOf apart

theorem Editing.load (editing : Editing before roleId loaded rows)
    (here : ∃ role ∈ before.roles.rows, role.id = roleId) (roleIds : List Nat) :
    Editing before roleId (loaded.load rows roleIds) rows := by
  constructor
  · exact editing.regrants
  · obtain ⟨role, there, rfl⟩ := here
    unfold IdentityMap.load
    split
    · rw [editing.permissions there]
    · exact editing.stale
  · intro role there permissions found
    unfold IdentityMap.load at found
    split at found
    · rw [← Option.some.inj found, editing.permissions there]
    · exact editing.accurate role there permissions found

theorem Editing.written {after : Database} (editing : Editing before roleId loaded rows)
    (regrants : Regrants rows roleId after) : Editing before roleId loaded after :=
  ⟨editing.regrants.trans regrants, editing.stale, editing.accurate⟩

theorem achieves_invalidateMember {member : Membership}
    {promised : Unit → IdentityMap → Database → Prop} (kept : promised () loaded rows) :
    Achieves loaded rows promised (invalidateMember member) := by
  unfold invalidateMember
  split
  · exact (Method.achieves_perform kept).bind fun _ _ _ kept => Method.achieves_perform kept
  · exact Method.achieves_pure kept

theorem achieves_invalidateOrgPerms {organizationId : Nat}
    {promised : Unit → IdentityMap → Database → Prop} (kept : promised () loaded rows) :
    Achieves loaded rows promised (invalidateOrgPerms organizationId) := by
  have listed : Achieves loaded rows (fun _ after later => promised () after later)
      (select fun rows => (rows.memberships.rows.filter fun member =>
        member.organizationId = organizationId).filterMap Membership.userId) :=
    Method.achieves_select kept
  apply listed.bind
  intro users state now kept
  refine Achieves.forM (fun _ => promised ()) ?_ kept
  intro user rest state rows kept
  exact (Method.achieves_perform kept).bind fun _ _ _ kept => Method.achieves_perform kept

/-- It computes with the collections from before the edit, and finds what is stored. -/
theorem achieves_recompute {member : Membership} (editing : Editing before roleId loaded rows)
    (here : ∃ role ∈ before.roles.rows, role.id = roleId)
    (exact_ : member.permissionKeys = sorted (before.unionOf member.id)) :
    Achieves loaded rows (fun _ after later => Editing before roleId after later ∧ later = rows) (do
      recomputeMembershipPermissions member
      invalidateMember member) := by
  obtain ⟨grants, stored, -⟩ := editing.regrants
  have found : rows.roles.rows.filter (fun role => rows.Holds member.id role) =
      before.roles.rows.filter fun role => before.Holds member.id role := by
    have roles : rows.roles = before.roles := by rw [stored]
    rw [roles]
    refine List.filter_congr fun role _ => decide_eq_decide.mpr ?_
    simp only [Database.Holds, stored]
  have collections : (rows.roles.rows.filter fun role => rows.Holds member.id role).map
        (fun role => (⟨role, loaded.permissions rows role.id⟩ : LoadedRole)) =
      loadedRoles before fun rows role => rows.Holds member.id role := by
    rw [found, loadedRoles]
    refine List.map_congr_left fun role listed => ?_
    rw [editing.permissions (List.mem_filter.mp listed).1]
  have selected : Achieves loaded rows (fun roles after later =>
        unionOfRoles roles = before.unionOf member.id ∧ Editing before roleId after later ∧
          later = rows)
      (selectRoles fun rows role => rows.Holds member.id role) := by
    refine Method.achieves_select ⟨?_, editing.load here _, rfl⟩
    exact (congrArg unionOfRoles collections).trans unionOfRoles_loaded
  have recomputed : Achieves loaded rows (fun _ after later =>
        Editing before roleId after later ∧ later = rows)
      (recomputeMembershipPermissions member) := by
    apply selected.bind
    rintro roles state now ⟨union, still, rfl⟩
    -- Nothing changed, so nothing is flushed.
    have same : { member with permissionKeys := sorted (unionOfRoles roles) } = member := by
      rw [union, ← exact_]
    rw [same, flushMembership, if_pos rfl]
    exact Method.achieves_pure ⟨still, rfl⟩
  apply recomputed.bind
  intro _ state now kept
  exact achieves_invalidateMember kept

theorem achieves_refreshMemberships (editing : Editing before roleId loaded rows)
    (here : ∃ role ∈ before.roles.rows, role.id = roleId) (exact_ : Exact before) :
    Achieves loaded rows (fun _ _ later => later = rows) (refreshMembershipsForRole roleId) := by
  obtain ⟨grants, stored, -⟩ := editing.regrants
  have selected : Achieves loaded rows (fun members after later =>
        (∀ member ∈ members, member ∈ before.memberships.rows) ∧
          Editing before roleId after later ∧ later = rows)
      (selectMemberships fun rows member => (member.id, roleId) ∈ rows.membershipRoles) := by
    refine Method.achieves_select ⟨fun member listed => ?_, editing.load here _, rfl⟩
    have there := (List.mem_filter.mp listed).1
    rwa [stored] at there
  apply selected.bind
  rintro members state now ⟨known, still, rfl⟩
  have computed : Achieves state now (fun _ after later =>
        (∀ member ∈ ([] : List Membership), member ∈ before.memberships.rows) ∧
          Editing before roleId after later ∧ later = now)
      (members.forM fun member => do
        recomputeMembershipPermissions member
        invalidateMember member) := by
    refine Achieves.forM (fun left after later => (∀ member ∈ left, member ∈ before.memberships.rows) ∧
      Editing before roleId after later ∧ later = now) ?_ ⟨known, still, rfl⟩
    rintro member rest between now ⟨left, amid, rfl⟩
    obtain ⟨there, left⟩ := List.forall_mem_cons.mp left
    obtain ⟨ended, later, ran, kept, same⟩ := achieves_recompute amid here (exact_ member there)
    exact ⟨ended, later, ran, left, kept, same⟩
  obtain ⟨ended, later, ran, -, -, same⟩ := computed
  exact ⟨ended, later, ran, same⟩

/-- In the middle of the grants: what is linked is what was asked for, less what is left. -/
structure Granting (before : Database) (roleId : Nat) (permissionKeys : List String)
    (left : List Permission) (loaded : IdentityMap) (rows : Database) : Prop where
  editing : Editing before roleId loaded rows
  linked : ∀ permission ∈ before.permissions.rows, (roleId, permission.id) ∈ rows.rolePermissions ↔
    permission.key ∈ permissionKeys ∧ permission ∉ left
  asked : ∀ permission ∈ left, permission ∈ before.permissions.rows ∧ permission.key ∈ permissionKeys
  once : left.Nodup

theorem achieves_deleteRolePermissions {permissionKeys : List String}
    (editing : Editing before roleId loaded before) :
    Achieves loaded before (fun _ after later => Granting before roleId permissionKeys
        (before.permissions.rows.filter fun permission => permission.key ∈ permissionKeys) after later)
      (execute (.deleteRolePermissions roleId)) := by
  have references : Tables.References { before.toTables with
      rolePermissions := before.rolePermissions.filter fun link => link.1 ≠ roleId } :=
    ⟨fun link there => before.references.1 link (Finset.mem_filter.mp there).1, before.references.2⟩
  refine Method.achieves_mutate (dif_pos references) ?_
  constructor
  · exact editing.written (regrants_delete (dif_pos references))
  · intro permission there
    simp [there]
  · intro permission asked
    obtain ⟨there, named⟩ := List.mem_filter.mp asked
    exact ⟨there, of_decide_eq_true named⟩
  · apply List.Nodup.filter
    apply before.permissions.pairwise.imp
    intro first second compatible same
    exact compatible.1 (congrArg Permission.id same)

theorem achieves_insertRolePermission {permissionKeys : List String} {permission : Permission}
    {rest : List Permission} (here : ∃ role ∈ before.roles.rows, role.id = roleId)
    (granting : Granting before roleId permissionKeys (permission :: rest) loaded rows) :
    Achieves loaded rows (fun _ after later => Granting before roleId permissionKeys rest after later)
      (execute (.insertRolePermission roleId permission.id)) := by
  obtain ⟨editing, linked, asked, once⟩ := granting
  obtain ⟨fresh, once⟩ := List.nodup_cons.mp once
  obtain ⟨known, named⟩ := asked permission (by simp)
  have free : (roleId, permission.id) ∉ rows.rolePermissions := by
    intro taken
    exact ((linked permission known).mp taken).2 (by simp)
  obtain ⟨grants, stored, -⟩ := editing.regrants
  have references : Tables.References { rows.toTables with
      rolePermissions := insert (roleId, permission.id) rows.rolePermissions } := by
    refine ⟨fun link there => ?_, rows.references.2⟩
    rcases Finset.mem_insert.mp there with rfl | old
    · constructor
      · rw [stored]
        exact here
      · rw [stored]
        exact ⟨permission, known, rfl⟩
    · exact rows.references.1 link old
  have written : insertRolePermission roleId permission.id rows = .ok ⟨_, references⟩ := by
    rw [insertRolePermission, if_neg free]
    exact dif_pos references
  refine Method.achieves_mutate written ?_
  constructor
  · exact editing.written (regrants_insert written)
  · intro other listed
    simp only [Finset.mem_insert, Prod.mk.injEq, true_and, linked other listed, List.mem_cons]
    by_cases same : other.id = permission.id
    · have one : other = permission := before.permissions.eq_of_id listed known same
      simp [one, named, fresh]
    · have apart : other ≠ permission := fun one => same (congrArg Permission.id one)
      simp [same, apart]
  · exact fun other remains => asked other (by simp [remains])
  · exact once

theorem Granting.unionOf {permissionKeys : List String}
    (granting : Granting before roleId permissionKeys [] loaded rows) (membershipId : Nat) :
    rows.unionOf membershipId = before.unionEdited roleId permissionKeys membershipId := by
  obtain ⟨editing, linked, -, -⟩ := granting
  have collections : rows.permissionsOf =
      Function.update before.permissionsOf roleId (before.granted permissionKeys) := by
    funext id
    by_cases same : id = roleId
    · rw [same, Function.update_self]
      obtain ⟨grants, stored, -⟩ := editing.regrants
      unfold Database.permissionsOf Database.granted
      have permissions : rows.permissions = before.permissions := by rw [stored]
      rw [permissions]
      refine congrArg (fun found : List Permission => (found.map Permission.key).toFinset) ?_
      refine List.filter_congr fun permission listed => decide_eq_decide.mpr ?_
      simp [linked permission listed]
    · rw [Function.update_of_ne same]
      exact editing.regrants.permissionsOf same
  have roles : rows.rolesOf membershipId = before.rolesOf membershipId := by
    obtain ⟨grants, stored, -⟩ := editing.regrants
    have roles : rows.roles = before.roles := by rw [stored]
    unfold Database.rolesOf
    rw [roles]
    refine List.filter_congr fun role _ => decide_eq_decide.mpr ?_
    simp only [Database.Holds, stored]
  unfold Database.unionOf Database.unionEdited
  rw [collections, roles]

theorem achieves_setRolePermissions {permissionKeys : List String}
    (here : ∃ role ∈ before.roles.rows, role.id = roleId) (exact_ : Exact before)
    (editing : Editing before roleId loaded before) :
    Achieves loaded before (fun _ _ later => ∃ last, Granting before roleId permissionKeys [] last later)
      (setRolePermissions roleId permissionKeys) := by
  apply (@achieves_deleteRolePermissions before loaded roleId permissionKeys editing).bind
  intro _ state now granting
  have looked : Achieves state now (fun permissions after later =>
        Granting before roleId permissionKeys permissions after later)
      (select fun rows => rows.permissions.rows.filter fun permission =>
        permission.key ∈ permissionKeys) := by
    apply Method.achieves_select
    obtain ⟨grants, stored, -⟩ := granting.editing.regrants
    have permissions : now.permissions = before.permissions := by rw [stored]
    simp only [permissions]
    exact granting
  apply looked.bind
  intro permissions state now granting
  have granted : Achieves state now (fun _ after later =>
        Granting before roleId permissionKeys [] after later)
      (permissions.forM fun permission => execute (.insertRolePermission roleId permission.id)) :=
    Achieves.forM (Granting before roleId permissionKeys)
      (fun _ _ _ _ granting => achieves_insertRolePermission here granting) granting
  apply granted.bind
  intro _ state now granting
  obtain ⟨ended, later, ran, rfl⟩ := achieves_refreshMemberships granting.editing here exact_
  exact ⟨ended, later, ran, state, granting⟩

theorem achieves_getScopedRole {organizationId : Nat} {role : Role} (here : role ∈ before.roles.rows)
    (own : role.organizationId = some organizationId) (custom : role.isSystem = false) :
    Achieves IdentityMap.empty before (fun found after later => found = role ∧ later = before ∧
        Editing before role.id after before)
      (getScopedRole role.id organizationId) := by
  have selected : Achieves IdentityMap.empty before (fun found after later => later = before ∧
        Editing before role.id after before ∧ ∃ permissions rest, found = ⟨role, permissions⟩ :: rest)
      (selectRoles fun _ other => other.id = role.id) := by
    refine Method.achieves_select ⟨rfl, ?_, ?_⟩
    · have among : role.id ∈
          (before.roles.rows.filter fun other => other.id = role.id).map Role.id :=
        List.mem_map_of_mem (List.mem_filter.mpr ⟨here, decide_eq_true rfl⟩)
      constructor
      · exact ⟨before.rolePermissions, rfl, fun _ _ => Iff.rfl⟩
      · simp only [IdentityMap.load, if_pos among]
        exact congrArg some (Accurate.empty.permissions here)
      · exact Accurate.empty.load _
    · have listed : role ∈ before.roles.rows.filter fun other => other.id = role.id :=
        List.mem_filter.mpr ⟨here, decide_eq_true rfl⟩
      cases found : before.roles.rows.filter fun other => other.id = role.id with
      | nil =>
          rw [found] at listed
          cases listed
      | cons first rest =>
          -- Only one row has the id.
          have head : first ∈ before.roles.rows.filter fun other => other.id = role.id := by
            rw [found]
            exact List.mem_cons_self
          obtain ⟨there, same⟩ := List.mem_filter.mp head
          have one : first = role :=
            before.roles.eq_of_id there here (of_decide_eq_true same)
          simp only [List.map_cons, one]
          exact ⟨_, _, rfl⟩
  apply selected.bind
  rintro _ state _ ⟨rfl, editing, permissions, rest, rfl⟩
  change Achieves state _ _ (if role.organizationId ≠ some organizationId then _ else _)
  rw [if_neg (not_not.mpr own), custom]
  exact Method.achieves_pure ⟨rfl, rfl, editing⟩

theorem achieves_updateRole {name description : Option String} {role : Role}
    (here : role ∈ rows.roles.rows) :
    Achieves loaded rows
      (fun _ _ later => updateRole role.id (Role.rename name description) rows = .ok later)
      (execute (.updateRole role.id name description)) := by
  -- Neither the id nor an index entry changes, so the row is accepted.
  have kept := Role.id_rename name description
  obtain ⟨roles, accepted⟩ := rows.roles.put_accepted here (kept role) fun _ mine => mine
  have references : Tables.References { rows.toTables with roles } := by
    have survives (id : Nat) (known : ∃ old ∈ rows.roles.rows, old.id = id) :
        ∃ new ∈ roles.rows, new.id = id := by
      obtain ⟨old, there, rfl⟩ := known
      by_cases renamed : old = role
      · subst renamed
        exact ⟨old.rename name description, (Table.mem_put here (kept old) accepted _).mpr (.inl rfl), kept old⟩
      · exact ⟨old, (Table.mem_put here (kept role) accepted _).mpr (.inr ⟨there, renamed⟩), rfl⟩
    constructor
    · intro link there
      obtain ⟨holder, permission⟩ := rows.references.1 link there
      exact ⟨survives _ holder, permission⟩
    · intro link there
      obtain ⟨member, holder⟩ := rows.references.2 link there
      exact ⟨member, survives _ holder⟩
  have found : rows.roles.get role.id = some role := Table.get_eq_some.mpr ⟨here, rfl⟩
  have written : updateRole role.id (Role.rename name description) rows = .ok ⟨_, references⟩ := by
    simp only [updateRole, found, accepted]
    exact dif_pos references
  exact Method.achieves_mutate written written

/-- An accepted edit grants what it names, and leaves the memberships as they were. -/
theorem achieves_updateCustomRole {organizationId : Nat} {name description : Option String}
    {permissionKeys : List String} (exact_ : Exact before)
    (editable : before.Editable roleId organizationId permissionKeys) :
    Achieves IdentityMap.empty before (fun _ _ later => later.memberships = before.memberships ∧
        ∀ membershipId, later.unionOf membershipId =
          before.unionEdited roleId permissionKeys membershipId)
      (updateCustomRole roleId organizationId name description (some permissionKeys)) := by
  obtain ⟨role, here, rfl, own, custom, known⟩ := editable
  apply (achieves_getScopedRole here own custom).bind
  rintro role state before ⟨rfl, rfl, editing⟩
  have checked : Achieves state before (fun _ after later => later = before ∧
        Editing before role.id after before) (requireKnown permissionKeys) := by
    change Achieves state before _ (if unknownPermissions permissionKeys = ∅ then _ else _)
    rw [if_pos known]
    exact Method.achieves_pure ⟨rfl, editing⟩
  apply checked.bind
  rintro _ state before ⟨rfl, editing⟩
  apply (achieves_setRolePermissions ⟨role, here, rfl⟩ exact_ editing).bind
  rintro _ state now ⟨last, granting⟩
  have refreshed : Achieves state now (fun _ _ later => later = now) (refreshPermissions role.id) :=
    Method.achieves_select rfl
  apply refreshed.bind
  rintro _ state now rfl
  obtain ⟨grants, stored, -⟩ := granting.editing.regrants
  have invalidated (state : IdentityMap) (after : Database) (kept : after.memberships = now.memberships)
      (unions : ∀ membershipId, after.unionOf membershipId = now.unionOf membershipId) :
      Achieves state after (fun _ _ later => later.memberships = before.memberships ∧
          ∀ membershipId, later.unionOf membershipId =
            before.unionEdited role.id permissionKeys membershipId)
        (invalidateOrgPerms organizationId) := by
    refine achieves_invalidateOrgPerms ⟨?_, fun membershipId => ?_⟩
    · rw [kept, stored]
    · rw [unions, granting.unionOf]
  change Achieves state now _ (if name.isSome ∨ description.isSome then _ else _)
  split
  · have there : role ∈ now.roles.rows := by rwa [stored]
    apply (achieves_updateRole there).bind
    intro _ state after written
    exact invalidated state after (memberships_updateRole written) fun _ =>
      unionOf_updateRole (Role.id_rename name description) written
  · exact invalidated state now rfl fun _ => rfl

end Edits

/-! Runs of requests. -/

/-- An accepted edit of a role changes the union of no membership. -/
def TenancyRequest.KeepsUnions (rows : Database) : TenancyRequest → Prop
  | .updateCustomRole roleId organizationId _ _ (some permissionKeys) =>
      rows.Editable roleId organizationId permissionKeys →
        ∀ member ∈ rows.memberships.rows,
          rows.unionEdited roleId permissionKeys member.id = rows.unionOf member.id
  | _ => True

section Runs

variable {mailbox : String → String} {rows : Database}

theorem exact_edit_iff {roleId organizationId : Nat} {name description : Option String}
    {permissionKeys : List String} (exact_ : Exact rows)
    (editable : rows.Editable roleId organizationId permissionKeys) :
    Exact (tenancyService mailbox rows
        (.updateCustomRole roleId organizationId name description (some permissionKeys))) ↔
      ∀ member ∈ rows.memberships.rows,
        rows.unionEdited roleId permissionKeys member.id = rows.unionOf member.id := by
  obtain ⟨ended, later, ran, memberships, unions⟩ :=
    @achieves_updateCustomRole rows roleId organizationId name description permissionKeys exact_ editable
  have committed : tenancyService mailbox rows
      (.updateCustomRole roleId organizationId name description (some permissionKeys)) = later := by
    have answered : (TenancyRequest.updateCustomRole roleId organizationId name description
        (some permissionKeys) |>.proc mailbox).alone rows = .ok (ended, later) := ran
    rw [tenancyService, Transaction.requests, answered]
    rfl
  rw [committed, Exact, memberships]
  constructor
  · intro held member there
    have same := (exact_ member there).symm.trans (held member there)
    rw [unions, sorted_inj] at same
    exact same.symm
  · intro kept member there
    rw [unions, kept member there]
    exact exact_ member there

/-- A request keeps the stored keys exact where it keeps the unions an edit concerns. -/
theorem exact_step (exact_ : Exact rows) (request : TenancyRequest) :
    Exact (tenancyService mailbox rows request) ↔ request.KeepsUnions rows := by
  have kept (request : TenancyRequest)
      (ensured : Ensures IdentityMap.empty rows (fun _ _ later => Exact later)
        (request.method mailbox)) (nothing : request.KeepsUnions rows) :
      Exact (tenancyService mailbox rows request) ↔ request.KeepsUnions rows :=
    iff_of_true (service_of_ensures exact_ ensured) nothing
  cases request with
  | createOrganization => exact kept _ (exact_createOrganization Accurate.empty exact_) trivial
  | inviteMember => exact kept _ (exact_inviteMember Accurate.empty exact_) trivial
  | acceptInviteByEmail => exact kept _ (exact_acceptInviteByEmail Accurate.empty exact_) trivial
  | acceptInviteByToken => exact kept _ (exact_acceptInviteByToken Accurate.empty exact_) trivial
  | updateMembership => exact kept _ (exact_updateMembership Accurate.empty exact_) trivial
  | removeMember => exact kept _ (exact_removeMember Accurate.empty exact_) trivial
  | createCustomRole => exact kept _ (exact_createCustomRole exact_) trivial
  | deleteCustomRole => exact kept _ (exact_deleteCustomRole Accurate.empty exact_) trivial
  | assignRole membershipId roleKey =>
      refine kept _ ?_ trivial
      apply (ensures_getMembership Accurate.empty).bind
      rintro member state now ⟨rfl, accurate, here, -⟩
      exact exact_assignRole accurate exact_ here
  | updateCustomRole roleId organizationId name description permissionKeys =>
      have refused (never : ∀ keys, permissionKeys = some keys →
            ¬rows.Editable roleId organizationId keys) :=
        @exact_updateCustomRole rows IdentityMap.empty roleId organizationId name description
          permissionKeys Accurate.empty exact_ never
      cases permissionKeys with
      | none => exact kept _ (refused fun _ impossible => by cases impossible) trivial
      | some keys =>
          by_cases editable : rows.Editable roleId organizationId keys
          · rw [exact_edit_iff exact_ editable]
            exact ⟨fun same _ => same, fun same => same editable⟩
          · refine kept _ (refused fun other same => ?_) fun edited => absurd edited editable
            cases same
            exact editable

/-- From exact rows, the stored permission keys of every membership are the sorted
union of its roles' permissions in every state of a run exactly when every accepted
edit of a role's permissions leaves the unions of those who hold it as they are. -/
theorem permission_keys_exact_iff (mailbox : String → String) {start : Database}
    (exact_ : Exact start) (requests : List TenancyRequest) :
    Runs.Always (tenancyService mailbox) Exact start requests ↔
      Runs.Guarded (tenancyService mailbox) (fun rows request => request.KeepsUnions rows) start
        requests := by
  refine Runs.always_iff_guarded _ (fun _ _ (_ : True) => trivial) ?_ trivial ?_ requests
  · exact fun _ request _ held => exact_step held request
  · exact exact_

end Runs

/-- A deployment before its first organization: one account, and the owner's role. -/
def seeded : Database where
  users := ⟨[⟨1, "owner@acme.test"⟩], 2, by decide⟩
  organizations := .empty
  memberships := .empty
  roles := ⟨[⟨1, none, "owner", "Owner", none, true⟩], 2, by decide⟩
  permissions := ⟨[⟨1, "org:read"⟩, ⟨2, "member:read"⟩], 3, by decide⟩
  rolePermissions := {(1, 1)}
  membershipRoles := ∅
  references := by decide

/-- An organization with a custom role, which its owner comes to hold. -/
def staffing : List TenancyRequest :=
  [.createOrganization 1 10 1 "acme" "Acme",
    .createCustomRole 20 1 "support" "Support" none ["member:read"],
    .updateMembership 10 (some ["support"]) none]

/-- The role is edited to grant nothing; its holder carries the revoked permission on. -/
theorem revoked_permission_carried_on :
    ¬Runs.Always (tenancyService id) Exact seeded
        (staffing ++ [.updateCustomRole 20 1 none none (some [])]) ∧
      (Runs.run (tenancyService id) seeded
        (staffing ++ [.updateCustomRole 20 1 none none (some [])])).memberships.rows.map
          (fun member => (member.permissionKeys, member.id)) = [(["member:read"], 10)] ∧
      (Runs.run (tenancyService id) seeded
        (staffing ++ [.updateCustomRole 20 1 none none (some [])])).unionOf 10 = ∅ := by
  refine ⟨fun always => absurd (Runs.Always.last _ always) ?_, ?_, ?_⟩
  · decide +kernel
  · decide +kernel
  · decide +kernel

/-- Edited before anybody holds it, the role is granted as it then stands. -/
theorem permission_keys_exact_unheld :
    Runs.Always (tenancyService id) Exact seeded
      [.createOrganization 1 10 1 "acme" "Acme",
        .createCustomRole 20 1 "support" "Support" none ["member:read"],
        .updateCustomRole 20 1 none none (some []),
        .updateMembership 10 (some ["support"]) none] := by
  refine (permission_keys_exact_iff id (by decide +kernel) _).mpr ⟨trivial, trivial, ?_, trivial, trivial⟩
  intro _
  decide +kernel

end SynapseSaas.Tenancy
