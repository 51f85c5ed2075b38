import SynapseSaas.ApiKeys.Service

/-! What bounds the authority of an API key: its scopes, whoever created it, and
what the creator may do now. -/

set_option autoImplicit false

namespace SynapseSaas.ApiKeys

variable {hashKey : String → String} {world : KeyWorld}

/-! What the checks of a request establish. -/

theorem verify_eq_some {plaintext : String} {now : Int} {key : ApiKey}
    (found : verify hashKey world plaintext now = some key) :
    key ∈ world.keys.rows ∧ key.keyHash = hashKey plaintext ∧ key.revokedAt = none ∧
      ∀ expiry ∈ key.expiresAt, now < expiry := by
  unfold verify at found
  split at found
  · obtain ⟨stored, active⟩ := Option.filter_eq_some_iff.mp found
    have hash : key.keyHash = hashKey plaintext := by simpa using List.find?_some stored
    simp only [ApiKey.isActive, Option.isNone_iff_eq_none, decide_eq_true_eq] at active
    exact ⟨List.mem_of_find?_eq_some stored, hash, active.1, active.2⟩
  · cases found

/-- A request comes from a user, or from a key that is active. -/
theorem authenticate_cases {now : Int} {credential : Credential} {principal : UserContext}
    {tenant : TenantContext}
    (known : authenticate hashKey world now credential = .ok (principal, tenant)) :
    (∃ user admin, principal = .user user admin ∅) ∨
      ∃ key plaintext, credential = .apiKey plaintext ∧
        verify hashKey world plaintext now = some key ∧
        principal = bindApiKeyContext key ∧ tenant = ⟨key.organizationId⟩ := by
  cases credential with
  | apiKey plaintext =>
      simp only [authenticate] at known
      split at known
      · cases known
      · case h_2 key found =>
        split at known
        · cases known
          exact .inr ⟨key, plaintext, rfl, found, rfl, rfl⟩
        · cases known
  | jwt userId organizationId =>
      simp only [authenticate] at known
      repeat' split at known
      all_goals cases known
      exact .inl ⟨_, _, rfl⟩

theorem authenticate_apiKey_ne_user {now : Int} {plaintext : String} {user : Nat} {admin : Bool}
    {keys : Finset String} {tenant : TenantContext} :
    authenticate hashKey world now (.apiKey plaintext) ≠ .ok (.user user admin keys, tenant) := by
  intro known
  simp only [authenticate] at known
  repeat' split at known
  all_goals cases known

theorem requirePermission_apiKey {directory : Directory} {permission : String}
    {tenant : TenantContext} {keyId : Nat} {scopes : Finset String} {creator : Option Nat}
    {bound : UserContext}
    (passed : requirePermission directory permission tenant (.apiKey keyId scopes creator) =
      .ok bound) :
    bound = .apiKey keyId scopes creator ∧ permission ∈ scopes ∧
      ∃ user account, creator = some user ∧ directory.user user = some account ∧
        account.isActive = true ∧ (account.isPlatformAdmin = true ∨
          permission ∈ directory.permissionKeysFor user tenant.organizationId) := by
  simp only [requirePermission] at passed
  split at passed
  · cases passed
  · case isFalse inScope =>
    cases creator with
    | none => cases passed
    | some user =>
        simp only at passed
        split at passed
        · case h_1 admin found =>
          split at passed
          · cases passed
          · case isFalse holds =>
            cases passed
            refine ⟨rfl, not_not.mp inScope, user, ⟨true, admin⟩, rfl, found, rfl, ?_⟩
            by_cases platform : admin = true
            · exact .inl platform
            · exact .inr (by simpa [platform] using holds)
        · cases passed

/-- A user acts with what the user holds, an administrator with everything. -/
theorem requirePermission_user {directory : Directory} {permission : String}
    {tenant : TenantContext} {user : Nat} {admin : Bool} {keys : Finset String}
    {bound : UserContext}
    (passed : requirePermission directory permission tenant (.user user admin keys) = .ok bound) :
    bound = .user user admin
      (if admin then {"*"} else directory.permissionKeysFor user tenant.organizationId) := by
  cases admin with
  | true => exact (Except.ok.inj passed).symm
  | false =>
      simp only [requirePermission] at passed
      split at passed
      · case isTrue impossible => cases impossible
      · split at passed
        · exact (Except.ok.inj passed).symm
        · cases passed

theorem permissionKeysFor_subset (directory : Directory) (user organization : Nat) :
    directory.permissionKeysFor user organization ⊆ PERMISSION_KEYS := by
  unfold Directory.permissionKeysFor
  split
  · case h_1 member found =>
    split
    · exact fun key held => member.catalogued key (List.mem_toFinset.mp held)
    · exact Finset.empty_subset _
  · exact Finset.empty_subset _

theorem grantedScopes_subset {scopes granted : List String} {creatorKeys : Finset String}
    (accepted : grantedScopes scopes creatorKeys = .ok granted) :
    ∀ scope ∈ granted, scope ∈ creatorKeys := by
  simp only [grantedScopes] at accepted
  split at accepted
  · cases accepted
  · generalize (if scopes = [] then sorted creatorKeys else scopes) = requested at accepted
    split at accepted
    · cases accepted
    · case isFalse exceeding =>
      have within := Finset.sdiff_eq_empty_iff_subset.mp (not_not.mp exceeding)
      rw [Except.ok.inj accepted] at within
      exact fun scope member => within (List.mem_toFinset.mpr member)

/-! What the keys keep. -/

/-- The record of a key's creation bounds the key. -/
def Minted (rows : List ApiKey) (key : ApiKey) : Prop :=
  match key.mintedBy with
  | .user user held =>
      (∀ scope ∈ key.scopes, scope ∈ held) ∧ ∀ creator ∈ key.createdByUserId, creator = user
  | .key parent => ∃ origin ∈ rows, origin.id = parent ∧ origin.id < key.id ∧
      (∀ scope ∈ key.scopes, scope ∈ origin.scopes) ∧
      key.createdByUserId = origin.createdByUserId

structure KeysBounded (world : KeyWorld) : Prop where
  minted : ∀ key ∈ world.keys.rows, Minted world.keys.rows key
  catalogued : ∀ key ∈ world.keys.rows, ∀ scope ∈ key.scopes, scope ∈ PERMISSION_KEYS

theorem Minted.imp {rows others : List ApiKey} {key : ApiKey} (minted : Minted rows key)
    (kept : ∀ row ∈ rows, ∃ other ∈ others, other.id = row.id ∧ other.scopes = row.scopes ∧
      other.createdByUserId = row.createdByUserId) : Minted others key := by
  unfold Minted at minted ⊢
  cases issuer : key.mintedBy with
  | user user held =>
      rw [issuer] at minted
      exact minted
  | key parent =>
      rw [issuer] at minted
      obtain ⟨origin, here, same, earlier, within, creator⟩ := minted
      obtain ⟨other, there, id, scopes, creators⟩ := kept origin here
      exact ⟨other, there, id.trans same, id ▸ earlier, scopes ▸ within, creators ▸ creator⟩

theorem KeysBounded.direct (bounded : KeysBounded world) (directory : Directory) :
    KeysBounded { world with directory } :=
  ⟨bounded.minted, bounded.catalogued⟩

/-- A deleted user is forgotten by every key of the chain alike. -/
theorem KeysBounded.forgets (bounded : KeysBounded world) (directory : Directory) (userId : Nat) :
    KeysBounded
      { directory
        keys := world.keys.revise (ApiKey.forget userId) fun _ => ⟨rfl, rfl⟩ } where
  minted key member := by
    obtain ⟨old, here, rfl⟩ := List.mem_map.mp member
    have minted := bounded.minted old here
    unfold Minted at minted ⊢
    change (match old.mintedBy with | .user _ _ => _ | .key _ => _)
    cases issuer : old.mintedBy with
    | user user held =>
        rw [issuer] at minted
        refine ⟨minted.1, fun creator recorded => minted.2 creator ?_⟩
        exact (Option.mem_filter_iff.mp recorded).1
    | key parent =>
        rw [issuer] at minted
        obtain ⟨origin, there, same, earlier, within, creator⟩ := minted
        refine ⟨origin.forget userId, List.mem_map_of_mem there, same, earlier, within, ?_⟩
        exact congrArg (Option.filter _) creator
  catalogued key member := by
    obtain ⟨old, here, rfl⟩ := List.mem_map.mp member
    exact bounded.catalogued old here

/-- What a creation writes, and what bounds it. -/
theorem createKey_cases {now : Int} {credential : Credential} {body : ApiKeyCreate}
    {after : KeyWorld} (made : createKey hashKey world now credential body = .ok after) :
    ∃ principal tenant bound scopes,
      authenticate hashKey world now credential = .ok (principal, tenant) ∧
      requirePermission world.directory "apikey:manage" tenant principal = .ok bound ∧
      (∀ scope ∈ scopes, scope ∈ bound.creatorKeys) ∧
      after.keys.rows = world.keys.rows ++ [newKey hashKey tenant body now scopes bound.creatorId
        (issuerOf world.directory tenant principal) world.keys.next] := by
  simp only [createKey, Result.bind_eq_ok, accepted_eq_ok] at made
  obtain ⟨⟨principal, tenant⟩, known, bound, passed, scopes, granted, keys, inserted, result⟩ := made
  rw [← Except.ok.inj result]
  exact ⟨principal, tenant, bound, scopes, known, passed, grantedScopes_subset granted,
    Table.insert_rows inserted⟩

/-- A user's creation is bounded by what is on record about the user. -/
theorem creatorKeys_user (directory : Directory) (user : Nat) (admin : Bool)
    (tenant : TenantContext) :
    (UserContext.user user admin (if admin then {"*"}
        else directory.permissionKeysFor user tenant.organizationId)).creatorKeys =
      if admin then PERMISSION_KEYS
      else directory.permissionKeysFor user tenant.organizationId := by
  cases admin with
  | true => simp [UserContext.creatorKeys, UserContext.permissionKeys]
  | false =>
      have no_star : "*" ∉ directory.permissionKeysFor user tenant.organizationId :=
        fun held => star_notMem_permissionKeys (permissionKeysFor_subset _ _ _ held)
      simp [UserContext.creatorKeys, UserContext.permissionKeys, no_star]

theorem creatorKeys_apiKey {key : ApiKey} (catalogued : ∀ scope ∈ key.scopes, scope ∈ PERMISSION_KEYS) :
    (bindApiKeyContext key).creatorKeys = key.scopes.toFinset := by
  have no_star : "*" ∉ key.scopes := fun held => star_notMem_permissionKeys (catalogued _ held)
  simp [UserContext.creatorKeys, bindApiKeyContext, UserContext.permissionKeys, no_star]

theorem KeysBounded.created (bounded : KeysBounded world) {now : Int} {credential : Credential}
    {body : ApiKeyCreate} {after : KeyWorld}
    (made : createKey hashKey world now credential body = .ok after) : KeysBounded after := by
  obtain ⟨principal, tenant, bound, scopes, known, passed, within, rows⟩ := createKey_cases made
  have kept : ∀ row ∈ world.keys.rows, ∃ other ∈ after.keys.rows, other.id = row.id ∧
      other.scopes = row.scopes ∧ other.createdByUserId = row.createdByUserId := by
    intro row here
    exact ⟨row, by rw [rows]; exact List.mem_append_left _ here, rfl, rfl, rfl⟩
  have creation : (∀ scope ∈ scopes, scope ∈ PERMISSION_KEYS) ∧
      Minted after.keys.rows (newKey hashKey tenant body now scopes bound.creatorId
        (issuerOf world.directory tenant principal) world.keys.next) := by
    rcases authenticate_cases known with ⟨user, admin, rfl⟩ | ⟨key, plaintext, -, verified, rfl, rfl⟩
    · rw [requirePermission_user passed, creatorKeys_user] at within
      refine ⟨fun scope member => ?_, within, ?_⟩
      · have held := within scope member
        split at held
        · exact held
        · exact permissionKeysFor_subset _ _ _ held
      · rw [requirePermission_user passed]
        exact fun creator recorded => (Option.mem_some_iff.mp recorded).symm
    · obtain ⟨here, -⟩ := verify_eq_some verified
      obtain ⟨rfl, -⟩ := requirePermission_apiKey passed
      change ∀ scope ∈ scopes, scope ∈ (bindApiKeyContext key).creatorKeys at within
      rw [creatorKeys_apiKey (bounded.catalogued key here)] at within
      have inherited : ∀ scope ∈ scopes, scope ∈ key.scopes :=
        fun scope member => List.mem_toFinset.mp (within scope member)
      refine ⟨fun scope member => bounded.catalogued key here scope (inherited scope member), ?_⟩
      obtain ⟨origin, there, id, same, creator⟩ := kept key here
      refine ⟨origin, there, id, ?_, fun scope member => same ▸ inherited scope member, ?_⟩
      · change origin.id < world.keys.next
        rw [id]
        exact world.keys.id_lt_next here
      · exact creator.symm
  refine ⟨fun key member => ?_, fun key member => ?_⟩
  · rcases List.mem_append.mp (rows ▸ member) with old | new
    · exact (bounded.minted key old).imp kept
    · rw [List.mem_singleton.mp new]
      exact creation.2
  · rcases List.mem_append.mp (rows ▸ member) with old | new
    · exact bounded.catalogued key old
    · rw [List.mem_singleton.mp new]
      exact creation.1

theorem KeysBounded.revoked (bounded : KeysBounded world) {now : Int} {credential : Credential}
    {keyId : Nat} {after : KeyWorld}
    (done : revokeKey hashKey world now credential keyId = .ok after) : KeysBounded after := by
  simp only [revokeKey, Result.bind_eq_ok] at done
  obtain ⟨⟨principal, tenant⟩, -, -, -, rest⟩ := done
  split at rest
  · case h_1 key found =>
    split at rest
    · simp only [Result.bind_eq_ok, accepted_eq_ok] at rest
      obtain ⟨keys, put, result⟩ := rest
      rw [← Except.ok.inj result]
      obtain ⟨here, -⟩ := Table.get_eq_some.mp found
      -- The row is marked, and nothing else about it changes.
      have member (row : ApiKey) : row ∈ keys.rows ↔
          row = { key with revokedAt := some now } ∨ row ∈ world.keys.rows ∧ row ≠ key := by
        have same : Keyed.id { key with revokedAt := some now } = Keyed.id key := rfl
        exact Table.mem_put here same put row
      have kept : ∀ row ∈ world.keys.rows, ∃ other ∈ keys.rows, other.id = row.id ∧
          other.scopes = row.scopes ∧ other.createdByUserId = row.createdByUserId := by
        intro row there
        by_cases same : row = key
        · exact ⟨_, (member _).mpr (.inl rfl), by rw [same], by rw [same], by rw [same]⟩
        · exact ⟨row, (member row).mpr (.inr ⟨there, same⟩), rfl, rfl, rfl⟩
      refine ⟨fun row listed => ?_, fun row listed => ?_⟩
      · rcases (member row).mp listed with rfl | ⟨there, -⟩
        · exact (bounded.minted key here).imp kept
        · exact (bounded.minted row there).imp kept
      · rcases (member row).mp listed with rfl | ⟨there, -⟩
        · exact bounded.catalogued key here
        · exact bounded.catalogued row there
    · cases rest
  · cases rest

theorem KeysBounded.step (bounded : KeysBounded world) (action : KeyAction) :
    KeysBounded (keyStep hashKey world action) := by
  cases action with
  | create now credential body =>
      exact Transaction.commit_cases bounded fun _ made => bounded.created made
  | revoke now credential keyId =>
      exact Transaction.commit_cases bounded fun _ done => bounded.revoked done
  | direct directory => exact bounded.direct directory
  | deleteUser userId => exact bounded.forgets _ userId

/-! What a request that passes shows. -/

/-- Along the chain of keys that created keys up to the user at its root. -/
theorem KeysBounded.root (bounded : KeysBounded world) {key : ApiKey}
    (here : key ∈ world.keys.rows) :
    ∃ root ∈ world.keys.rows, ∃ user held, root.mintedBy = .user user held ∧
      (∀ scope ∈ key.scopes, scope ∈ held) ∧ ∀ creator ∈ key.createdByUserId, creator = user := by
  -- A key is younger than the key that created it.
  induction position : key.id using Nat.strongRecOn generalizing key with
  | ind id ih =>
      have minted := bounded.minted key here
      unfold Minted at minted
      cases issuer : key.mintedBy with
      | user user held =>
          rw [issuer] at minted
          exact ⟨key, here, user, held, issuer, minted⟩
      | key parent =>
          rw [issuer] at minted
          obtain ⟨origin, there, -, earlier, within, creator⟩ := minted
          obtain ⟨root, known, user, held, by_user, bound, recorded⟩ :=
            ih origin.id (position ▸ earlier) there rfl
          refine ⟨root, known, user, held, by_user, ?_, ?_⟩
          · exact fun scope member => bound scope (within scope member)
          · rw [creator]
            exact recorded

/-- What a key may do at this moment, at most. -/
structure Authorized (world : KeyWorld) (now : Int) (key : ApiKey) (permission : String) : Prop where
  inScopes : permission ∈ key.scopes
  unrevoked : key.revokedAt = none
  unexpired : ∀ expiry ∈ key.expiresAt, now < expiry
  minted : Minted world.keys.rows key
  creator : ∃ user account, key.createdByUserId = some user ∧
    world.directory.user user = some account ∧ account.isActive = true ∧
    (account.isPlatformAdmin = true ∨
      permission ∈ world.directory.permissionKeysFor user key.organizationId)
  root : ∃ root ∈ world.keys.rows, ∃ user held, root.mintedBy = .user user held ∧
    (∀ scope ∈ key.scopes, scope ∈ held) ∧ key.createdByUserId = some user

theorem KeysBounded.authorized (bounded : KeysBounded world) {now : Int}
    {plaintext permission : String} (passes : Passes hashKey world now plaintext permission) :
    ∃ key ∈ world.keys.rows, key.keyHash = hashKey plaintext ∧
      Authorized world now key permission := by
  obtain ⟨principal, tenant, bound, known, passed⟩ := passes
  rcases authenticate_cases known with ⟨user, admin, rfl⟩ | ⟨key, text, same, verified, rfl, rfl⟩
  · -- a key never acts as a user
    exact absurd known authenticate_apiKey_ne_user
  · cases same
    obtain ⟨here, hash, unrevoked, unexpired⟩ := verify_eq_some verified
    obtain ⟨-, inScopes, user, account, recorded, found, active, holds⟩ :=
      requirePermission_apiKey passed
    obtain ⟨root, known_root, rooted, held, by_user, within, creator⟩ := bounded.root here
    have same_user : user = rooted := creator user recorded
    refine ⟨key, here, hash, List.mem_toFinset.mp inScopes, unrevoked, unexpired,
      bounded.minted key here, ⟨user, account, recorded, found, active, holds⟩, ?_⟩
    exact ⟨root, known_root, rooted, held, by_user, within, same_user ▸ recorded⟩

/-- In every history of creations, revocations and changes to users, organizations,
memberships and roles: a request authenticated by a key passes the check for a
permission only if the key is active and has it among its scopes, if the scopes
are among those of the key that created it, or what the user held who did, and if
the recorded creator, the user at the root of the chain, may do it now. -/
theorem key_never_exceeds_creators (hashKey : String → String) (directory : Directory)
    (actions : List KeyAction) :
    Runs.Always (keyStep hashKey)
      (fun world => ∀ now plaintext permission, Passes hashKey world now plaintext permission →
        ∃ key ∈ world.keys.rows, key.keyHash = hashKey plaintext ∧
          Authorized world now key permission)
      ⟨directory, Table.empty⟩ actions := by
  have started : KeysBounded ⟨directory, Table.empty⟩ :=
    ⟨fun _ member => absurd member List.not_mem_nil, fun _ member => absurd member List.not_mem_nil⟩
  have preserved (world : KeyWorld) (action : KeyAction) (bounded : KeysBounded world) :
      KeysBounded (keyStep hashKey world action) := bounded.step action
  have always := Runs.always_of_invariant (keyStep hashKey) preserved started actions
  exact always.mono _ fun world bounded now plaintext permission passes =>
    bounded.authorized passes

end SynapseSaas.ApiKeys
