import SynapseSaas.Authorization.Service
import SynapseSaas.Foundation.Usersets

/-! The authorization model of OpenFGA, generated from the catalog of permissions, and
the tuples that stand for what a member holds. -/

set_option autoImplicit false

namespace SynapseSaas.Tenancy

open Usersets

def ROLE_ORDER : List String :=
  [SYSTEM_ROLE_OWNER, SYSTEM_ROLE_ADMIN, SYSTEM_ROLE_BILLING, SYSTEM_ROLE_DEVELOPER, SYSTEM_ROLE_MEMBER]

/-- The replacement of colons. -/
def underscored (letter : Char) : Char := if letter = ':' then '_' else letter

/-- `org:delete` becomes `can_org_delete`. -/
def relationFor (permission : String) : String := "can_" ++ permission.map underscored

def rolesHolding (permission : String) : List String :=
  ROLE_ORDER.filter fun role => permission ∈ systemPermissions role

/-! The model in its JSON form. -/

structure TypeDefinition where
  type : String
  relations : List (String × Rewrite String)
  directlyRelatedUserTypes : List (String × List String)

/-- One child stands for itself. -/
def rewriteUnion : List (Rewrite String) → Rewrite String
  | [child] => child
  | children => .union children

def userType : TypeDefinition := ⟨"user", [], []⟩

def permissionRewrite (permission : String) : Rewrite String :=
  rewriteUnion (.this :: (rolesHolding permission).map .computed)

def organizationType : TypeDefinition where
  type := "organization"
  relations :=
    ROLE_ORDER.map (fun role => (role, .this)) ++
      permissionCatalog.map fun permission => (relationFor permission, permissionRewrite permission)
  directlyRelatedUserTypes :=
    (ROLE_ORDER ++ permissionCatalog.map relationFor).map fun relation => (relation, ["user"])

def projectType : TypeDefinition where
  type := "project"
  relations :=
    [("org", .this),
      ("viewer", rewriteUnion
        [.this, .computed "editor", .tupleToUserset "org" (relationFor "project:read")]),
      ("editor", rewriteUnion [.this, .tupleToUserset "org" (relationFor "project:manage")])]
  directlyRelatedUserTypes := [("org", ["organization"]), ("viewer", ["user"]), ("editor", ["user"])]

def buildModel : List TypeDefinition := [userType, organizationType, projectType]

/-- The type of an object is its text up to the colon. -/
def typeOf (object : String) : String := String.ofList (object.toList.takeWhile (· ≠ ':'))

/-- How OpenFGA reads a model. -/
def interpret (definitions : List TypeDefinition) : Model String String where
  rewrite object relation :=
    (definitions.find? (·.type = typeOf object)).bind (·.relations.lookup relation)
  accepts object relation user :=
    ((definitions.find? (·.type = typeOf object)).bind
      (·.directlyRelatedUserTypes.lookup relation)).any (typeOf user ∈ ·)

/-! What OpenFGA must hold for one active member. -/

abbrev FgaTuple := Tuple String String

def userObject (userId : Nat) : String := "user:" ++ uuidText userId

def desiredTuples (userId organizationId : Nat) (roleKeys permissionKeys : List String) :
    Finset FgaTuple :=
  let org := AuthorizationService.orgObject organizationId
  let user := userObject userId
  let systemRoles := roleKeys.filter (· ∈ ROLE_ORDER)
  let covered := (systemRoles.map systemPermissions).foldr (· ∪ ·) ∅
  (systemRoles.map fun role => (⟨user, role, org⟩ : FgaTuple)).toFinset ∪
    ((permissionKeys.filter (· ∉ covered)).map fun permission =>
      (⟨user, relationFor permission, org⟩ : FgaTuple)).toFinset

/-- The tuples for the membership of a user in an organization, as the database has it;
uq_memberships_org_user leaves at most one. -/
def memberTuples (rows : Database) (organizationId userId : Nat) : Finset FgaTuple :=
  match rows.memberships.rows.find? fun member =>
      member.organizationId = organizationId ∧ member.userId = some userId with
  | none => ∅
  | some member =>
      if member.status ≠ .active then ∅
      else desiredTuples userId organizationId ((rows.rolesOf member.id).map Role.key)
        member.permissionKeys

/-! The relations of the permissions. -/

section Relations

theorem underscored_eq {first second : Char} (same : underscored first = underscored second)
    (plain : second ≠ '_') : first = second ∨ (first = '_' ∧ second = ':') := by
  unfold underscored at same
  split at same
  · rename_i colon
    split at same
    · rename_i other
      exact .inl (colon.trans other.symm)
    · exact absurd same.symm plain
  · split at same
    · rename_i colon
      exact .inr ⟨same, colon⟩
    · exact .inl same

/-- Where the second text has no underscore, the first has no colon that it has not. -/
theorem count_colon_le {first second : List Char}
    (same : first.map underscored = second.map underscored) (plain : '_' ∉ second) :
    first.count ':' ≤ second.count ':' := by
  induction first generalizing second with
  | nil => exact Nat.zero_le _
  | cons letter rest ih =>
      cases second with
      | nil => simp at same
      | cons other others =>
          simp only [List.map_cons, List.cons.injEq] at same
          simp only [List.mem_cons, not_or] at plain
          have fewer := ih same.2 plain.2
          rcases underscored_eq same.1 (Ne.symm plain.1) with equal | ⟨dash, colon⟩
          · rw [equal, List.count_cons, List.count_cons]
            omega
          · rw [dash, colon, List.count_cons, List.count_cons]
            simp only [beq_self_eq_true, if_true]
            have apart : ('_' == ':') = false := rfl
            simp only [apart, Bool.false_eq_true, if_false]
            omega

theorem eq_of_map_underscored {first second : List Char}
    (same : first.map underscored = second.map underscored) (plain : '_' ∉ second)
    (enough : second.count ':' ≤ first.count ':') : first = second := by
  induction first generalizing second with
  | nil => exact (List.map_eq_nil_iff.mp same.symm).symm
  | cons letter rest ih =>
      cases second with
      | nil => simp at same
      | cons other others =>
          simp only [List.map_cons, List.cons.injEq] at same
          simp only [List.mem_cons, not_or] at plain
          have fewer := count_colon_le same.2 plain.2
          rcases underscored_eq same.1 (Ne.symm plain.1) with equal | ⟨dash, colon⟩
          · rw [equal, List.count_cons, List.count_cons] at enough
            rw [equal, ih same.2 plain.2 (by omega)]
          · have apart : ('_' == ':') = false := rfl
            rw [dash, colon, List.count_cons, List.count_cons] at enough
            simp only [beq_self_eq_true, if_true, apart, Bool.false_eq_true, if_false] at enough
            omega

/-- The keys of the catalog have one colon and no underscore. -/
theorem permissionCatalog_shape :
    ∀ permission ∈ permissionCatalog,
      '_' ∉ permission.toList ∧ permission.toList.count ':' = 1 := by decide +kernel

/-- A key with a colon has the relation of a permission of the catalog only if it is
that permission. -/
theorem eq_of_relationFor_eq {held permission : String} (shape : ':' ∈ held.toList)
    (known : permission ∈ permissionCatalog) (same : relationFor held = relationFor permission) :
    held = permission := by
  obtain ⟨plain, once⟩ := permissionCatalog_shape permission known
  have letters := congrArg String.toList same
  simp only [relationFor, String.toList_append, String.toList_map, List.append_cancel_left_eq]
    at letters
  have enough : permission.toList.count ':' ≤ held.toList.count ':' := by
    rw [once]
    exact List.count_pos_iff.mpr shape
  exact String.toList_inj.mp (eq_of_map_underscored letters plain enough)

/-- No role is named like the relation of a permission. -/
theorem relationFor_notMem (permission : String) : relationFor permission ∉ ROLE_ORDER := by
  have start : (relationFor permission).toList.take 4 = ['c', 'a', 'n', '_'] := by
    simp [relationFor]
  have roles : ∀ role ∈ ROLE_ORDER, role.toList.take 4 ≠ ['c', 'a', 'n', '_'] := by decide +kernel
  intro inside
  exact roles _ inside start

end Relations

/-! What the model says of an organization. -/

section Organization

open AuthorizationService (orgObject)

variable {organizationId userId : Nat} {permission role : String}

@[simp] theorem typeOf_orgObject : typeOf (orgObject organizationId) = "organization" := by
  unfold typeOf orgObject
  rw [String.toList_append]
  rfl

@[simp] theorem typeOf_userObject : typeOf (userObject userId) = "user" := by
  unfold typeOf userObject
  rw [String.toList_append]
  rfl

/-- An entry is found under its name where no other has the name. -/
theorem lookup_map_of_mem {Item Value : Type} {items : List Item} (name : Item → String)
    (value : Item → Value) {item : Item} (there : item ∈ items)
    (alone : ∀ other ∈ items, name other = name item → other = item) :
    (items.map fun entry => (name entry, value entry)).lookup (name item) = some (value item) := by
  induction items with
  | nil => cases there
  | cons head rest ih =>
      rw [List.map_cons, List.lookup_cons]
      by_cases same : name head = name item
      · rw [alone head List.mem_cons_self same, beq_self_eq_true]
      · have apart : (name item == name head) = false := by simpa using Ne.symm same
        rw [apart]
        have later : item ∈ rest := by
          cases there with
          | head => exact absurd rfl same
          | tail _ later => exact later
        exact ih later fun other inside => alone other (List.mem_cons_of_mem _ inside)

theorem rewrite_org (relation : String) :
    (interpret buildModel).rewrite (orgObject organizationId) relation =
      organizationType.relations.lookup relation := by
  unfold interpret
  simp only [typeOf_orgObject]
  rfl

theorem accepts_user {relation : String}
    (known : relation ∈ ROLE_ORDER ++ permissionCatalog.map relationFor) :
    (interpret buildModel).accepts (orgObject organizationId) relation (userObject userId) := by
  have found : organizationType.directlyRelatedUserTypes.lookup relation = some ["user"] :=
    lookup_map_of_mem id (fun _ => ["user"]) known fun _ _ same => same
  unfold interpret
  simp only [typeOf_orgObject, typeOf_userObject]
  change (organizationType.directlyRelatedUserTypes.lookup relation).any ("user" ∈ ·)
  rw [found]
  rfl

theorem rewrite_role (known : role ∈ ROLE_ORDER) :
    (interpret buildModel).rewrite (orgObject organizationId) role = some .this := by
  have found : (ROLE_ORDER.map fun role => (role, (Rewrite.this : Rewrite String))).lookup role =
      some .this := lookup_map_of_mem id (fun _ => Rewrite.this) known fun _ _ same => same
  rw [rewrite_org]
  unfold organizationType
  rw [List.lookup_append, found]
  rfl

theorem rewrite_permission (known : permission ∈ permissionCatalog) :
    (interpret buildModel).rewrite (orgObject organizationId) (relationFor permission) =
      some (permissionRewrite permission) := by
  have colon : ∀ other ∈ permissionCatalog, ':' ∈ other.toList := fun other inside =>
    List.count_pos_iff.mp (by rw [(permissionCatalog_shape other inside).2]; decide)
  have found := lookup_map_of_mem relationFor permissionRewrite known fun other inside same =>
    eq_of_relationFor_eq (colon other inside) known same
  have noRole : (ROLE_ORDER.map fun role => (role, (Rewrite.this : Rewrite String))).lookup
      (relationFor permission) = none := by
    rw [List.lookup_eq_none_iff]
    intro entry inside
    obtain ⟨role, listed, rfl⟩ := List.mem_map.mp inside
    rw [bne_iff_ne]
    rintro same
    exact relationFor_notMem permission (same ▸ listed)
  rw [rewrite_org]
  unfold organizationType
  rw [List.lookup_append, noRole, found]
  rfl

/-- A user has a role by a tuple only. -/
theorem check_role {tuples : Set FgaTuple} (known : role ∈ ROLE_ORDER) :
    Check (interpret buildModel) tuples (userObject userId) role (orgObject organizationId) ↔
      ⟨userObject userId, role, orgObject organizationId⟩ ∈ tuples := by
  rw [check_this (rewrite_role known)]
  have accepted : (interpret buildModel).accepts (orgObject organizationId) role (userObject userId) :=
    accepts_user (List.mem_append_left (permissionCatalog.map relationFor) known)
  simp only [accepted, and_true]

theorem member_rewriteUnion {tuples : Set FgaTuple} {user object relation : String}
    {children : List (Rewrite String)} (model : Model String String) :
    Member model tuples user object relation (rewriteUnion children) ↔
      ∃ child ∈ children, Member model tuples user object relation child := by
  cases children with
  | nil => exact member_union
  | cons first rest =>
      cases rest with
      | nil => simp [rewriteUnion]
      | cons second others => exact member_union

/-- A user has a permission by a tuple or by a role that holds it. -/
theorem check_permission {tuples : Set FgaTuple} (known : permission ∈ permissionCatalog) :
    Check (interpret buildModel) tuples (userObject userId) (relationFor permission)
        (orgObject organizationId) ↔
      ⟨userObject userId, relationFor permission, orgObject organizationId⟩ ∈ tuples ∨
        ∃ role ∈ ROLE_ORDER, permission ∈ systemPermissions role ∧
          ⟨userObject userId, role, orgObject organizationId⟩ ∈ tuples := by
  have accepted : (interpret buildModel).accepts (orgObject organizationId) (relationFor permission)
      (userObject userId) :=
    accepts_user (List.mem_append_right ROLE_ORDER (List.mem_map_of_mem known))
  rw [check_iff (rewrite_permission known), permissionRewrite, member_rewriteUnion]
  simp only [List.mem_cons, List.mem_map, exists_eq_or_imp, member_this, accepted, and_true]
  apply or_congr Iff.rfl
  constructor
  · rintro ⟨child, ⟨role, holding, rfl⟩, member⟩
    obtain ⟨listed, held⟩ := List.mem_filter.mp holding
    exact ⟨role, listed, of_decide_eq_true held, (check_role listed).mp (member_computed.mp member)⟩
  · rintro ⟨role, listed, held, stored⟩
    exact ⟨.computed role, ⟨role, List.mem_filter.mpr ⟨listed, decide_eq_true held⟩, rfl⟩,
      member_computed.mpr ((check_role listed).mpr stored)⟩

end Organization

/-! The tuples of a member. -/

section Desired

variable {userId organizationId : Nat} {roleKeys permissionKeys : List String}

/-- What the system roles of a member give. -/
theorem mem_covered {permission : String} :
    permission ∈ ((roleKeys.filter (· ∈ ROLE_ORDER)).map systemPermissions).foldr (· ∪ ·) ∅ ↔
      ∃ role ∈ roleKeys, role ∈ ROLE_ORDER ∧ permission ∈ systemPermissions role := by
  induction roleKeys with
  | nil => simp
  | cons role rest ih =>
      by_cases listed : role ∈ ROLE_ORDER
      · simp [listed, ih]
      · simp [listed, ih]

theorem mem_desiredTuples {relation : String} :
    (⟨userObject userId, relation, AuthorizationService.orgObject organizationId⟩ : FgaTuple) ∈
        desiredTuples userId organizationId roleKeys permissionKeys ↔
      (relation ∈ roleKeys ∧ relation ∈ ROLE_ORDER) ∨
        ∃ permission ∈ permissionKeys, relationFor permission = relation ∧
          ¬∃ role ∈ roleKeys, role ∈ ROLE_ORDER ∧ permission ∈ systemPermissions role := by
  unfold desiredTuples
  simp only [Finset.mem_union, List.mem_toFinset, List.mem_map, List.mem_filter, mem_covered,
    decide_eq_true_eq, Tuple.mk.injEq, true_and, and_true, exists_eq_right]
  apply or_congr Iff.rfl
  constructor
  · rintro ⟨permission, ⟨held, uncovered⟩, same⟩
    exact ⟨permission, held, same, uncovered⟩
  · rintro ⟨permission, held, same, uncovered⟩
    exact ⟨permission, ⟨held, uncovered⟩, same⟩

end Desired

/-! The two representations agree. -/

section Agreement

open AuthorizationService (orgObject)

variable {rows : Database} {member : Membership} {userId : Nat}

/-- Every permission key is `resource:action`. -/
def Database.KeysHaveColons (rows : Database) : Prop :=
  ∀ permission ∈ rows.permissions.rows, ':' ∈ permission.key.toList

instance : DecidablePred Database.KeysHaveColons := fun rows =>
  inferInstanceAs (Decidable (∀ permission ∈ rows.permissions.rows, _))

/-- The roles of a membership that are named like system roles hold what those hold. -/
def Database.SystemRolesIntact (rows : Database) (membershipId : Nat) : Prop :=
  ∀ role ∈ rows.rolesOf membershipId, role.key ∈ ROLE_ORDER →
    rows.permissionsOf role.id = systemPermissions role.key

instance (rows : Database) (membershipId : Nat) : Decidable (rows.SystemRolesIntact membershipId) :=
  inferInstanceAs (Decidable (∀ role ∈ rows.rolesOf membershipId, _))

theorem memberTuples_of_active (there : member ∈ rows.memberships.rows)
    (active : member.status = .active) (holder : member.userId = some userId) :
    memberTuples rows member.organizationId userId =
      desiredTuples userId member.organizationId ((rows.rolesOf member.id).map Role.key)
        member.permissionKeys := by
  have found : rows.memberships.rows.find? (fun other =>
      other.organizationId = member.organizationId ∧ other.userId = some userId) = some member := by
    cases search : rows.memberships.rows.find? (fun other =>
        other.organizationId = member.organizationId ∧ other.userId = some userId) with
    | none => simpa [holder] using List.find?_eq_none.mp search member there
    | some other =>
        have named : other.organizationId = member.organizationId ∧ other.userId = some userId := by
          simpa using List.find?_some search
        rw [rows.memberships.eq_of_key (List.mem_of_find?_eq_some search) there
          (Membership.mem_keys_user named.1 named.2) (Membership.mem_keys_user rfl holder)]
  unfold memberTuples
  rw [found]
  simp [active]

theorem colon_of_mem_unionOf (shaped : rows.KeysHaveColons) {membershipId : Nat} {key : String}
    (held : key ∈ rows.unionOf membershipId) : ':' ∈ key.toList := by
  obtain ⟨role, -, -, granted⟩ := rows.mem_unionOf.mp held
  obtain ⟨permission, inside, rfl⟩ := List.mem_map.mp (List.mem_toFinset.mp granted)
  exact shaped permission (List.mem_filter.mp inside).1

/-- OpenFGA derives a permission from the tuples of an active member if and only if the
membership carries it. -/
theorem check_memberTuples_iff (there : member ∈ rows.memberships.rows)
    (active : member.status = .active) (holder : member.userId = some userId)
    (intact : rows.SystemRolesIntact member.id)
    (exact : member.permissionKeys.toFinset = rows.unionOf member.id)
    (shaped : rows.KeysHaveColons) {permission : String} (known : permission ∈ permissionCatalog) :
    Check (interpret buildModel) (memberTuples rows member.organizationId userId)
        (userObject userId) (relationFor permission) (orgObject member.organizationId) ↔
      permission ∈ member.permissionKeys := by
  have carried {key : String} : key ∈ member.permissionKeys ↔ key ∈ rows.unionOf member.id := by
    rw [← exact, List.mem_toFinset]
  -- A system role among the member's roles gives what the model gives for its name.
  have given {role : Role} (held : role ∈ rows.rolesOf member.id) (listed : role.key ∈ ROLE_ORDER)
      (holds : permission ∈ systemPermissions role.key) : permission ∈ member.permissionKeys := by
    have row := List.mem_filter.mp held
    rw [carried, rows.mem_unionOf]
    exact ⟨role, row.1, of_decide_eq_true row.2, intact role held listed ▸ holds⟩
  rw [check_permission known, memberTuples_of_active there active holder]
  simp only [Finset.mem_coe, mem_desiredTuples]
  constructor
  · rintro ((⟨-, listed⟩ | ⟨key, held, same, -⟩) | ⟨role, listed, holds, stored | ⟨key, -, same, -⟩⟩)
    · exact absurd listed (relationFor_notMem permission)
    · exact eq_of_relationFor_eq (colon_of_mem_unionOf shaped (carried.mp held)) known same ▸ held
    · obtain ⟨row, held, rfl⟩ := List.mem_map.mp stored.1
      exact given held listed holds
    · exact absurd (same ▸ listed) (relationFor_notMem key)
  · intro held
    by_cases covered : ∃ role ∈ (rows.rolesOf member.id).map Role.key,
        role ∈ ROLE_ORDER ∧ permission ∈ systemPermissions role
    · obtain ⟨role, mine, listed, holds⟩ := covered
      exact .inr ⟨role, listed, holds, .inl ⟨mine, listed⟩⟩
    · exact .inl (.inr ⟨permission, held, rfl, covered⟩)

/-- An auditor by a custom role who also has the system role of a member. -/
def auditor : Membership :=
  ⟨1, 1, some 1, none, none, .active, ["audit:read", "member:read", "org:read", "project:read"]⟩

def audited : Database where
  users := ⟨[⟨1, "ann@audited.test"⟩], 2, by decide⟩
  organizations := ⟨[⟨1, "audited", "Audited", some 1, false⟩], 2, by decide⟩
  memberships := ⟨[auditor], 2, by decide⟩
  roles := ⟨[⟨1, none, "member", "Member", none, true⟩, ⟨2, some 1, "auditor", "Auditor", none, false⟩], 3,
    by decide⟩
  permissions := ⟨[⟨1, "org:read"⟩, ⟨2, "member:read"⟩, ⟨3, "project:read"⟩, ⟨4, "audit:read"⟩], 5,
    by decide⟩
  rolePermissions := {(1, 1), (1, 2), (1, 3), (2, 4)}
  membershipRoles := {(1, 1), (1, 2)}
  references := by decide +kernel

theorem check_auditor :
    Check (interpret buildModel) (memberTuples audited auditor.organizationId 1) (userObject 1)
        (relationFor "audit:read") (orgObject auditor.organizationId) ↔
      "audit:read" ∈ auditor.permissionKeys := by
  have there : auditor ∈ audited.memberships.rows := List.mem_singleton_self auditor
  have active : auditor.status = .active := rfl
  have holder : auditor.userId = some 1 := rfl
  have intact : audited.SystemRolesIntact auditor.id := by decide +kernel
  have union : auditor.permissionKeys.toFinset = audited.unionOf auditor.id := by decide +kernel
  have shaped : audited.KeysHaveColons := by decide +kernel
  exact check_memberTuples_iff there active holder intact union shaped (by decide)

end Agreement

end SynapseSaas.Tenancy
