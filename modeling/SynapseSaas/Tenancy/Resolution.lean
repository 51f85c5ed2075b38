import SynapseSaas.Core.Errors
import SynapseSaas.Core.PythonText
import SynapseSaas.Core.RowSecurity
import SynapseSaas.Tenancy.Models

/-! Which organization a request is for: the bearer's identity, what the headers, the host and
the token name, and the membership check. What an outsider is told depends on nothing it has no
part in. -/

set_option autoImplicit false

namespace SynapseSaas.Resolution

open CachedBody (UUID)
open RowSecurity (Binding)

/-! The rows. -/

structure UserRow where
  id : UUID
  isActive : Bool
  isPlatformAdmin : Bool
  deriving DecidableEq

structure OrganizationRow where
  id : UUID
  slug : Text
  deleted : Bool
  status : String
  deriving DecidableEq

structure MembershipRow where
  organizationId : UUID
  userId : UUID
  status : Tenancy.MembershipStatus
  deriving DecidableEq

/-- The tables, with the unique index on slugs, and the organization of each plaintext that is an
active API key. -/
structure Directory where
  users : List UserRow
  organizations : List OrganizationRow
  memberships : List MembershipRow
  verify : Text → Option UUID
  ids_unique : (organizations.map OrganizationRow.id).Nodup
  slugs_unique : (organizations.map OrganizationRow.slug).Nodup

namespace Directory

variable (directory : Directory)

def user (id : UUID) : Option UserRow := directory.users.find? fun row => row.id = id

/-- `OrganizationRepository.get`. -/
def organization (id : UUID) : Option OrganizationRow :=
  directory.organizations.find? fun row => row.id = id

/-- `OrganizationRepository.get_by_slug`. -/
def getBySlug (slug : Text) : Option OrganizationRow :=
  directory.organizations.find? fun row => row.slug = slug ∧ ¬ row.deleted

/-- `MembershipRepository.get_active`. -/
def getActive (organizationId userId : UUID) : Option MembershipRow :=
  directory.memberships.find? fun row =>
    row.organizationId = organizationId ∧ row.userId = userId ∧ row.status = .active

end Directory

/-! The request. -/

/-- The headers a request is resolved by; the empty text for one it does not have. -/
structure Request where
  authorization : Text := []
  xOrgId : Text := []
  xOrgSlug : Text := []
  host : Text := []
  deriving DecidableEq

/-- The claims of a token that are read here. -/
structure Claims where
  type : Option Text
  sub : Option Text
  org : Option Text
  deriving DecidableEq

/-- `jwt.decode` with the secret, the algorithm and the issuer pinned; none is an invalid token. -/
abbrev Decoder := Text → Option Claims

structure TenantContext where
  organizationId : UUID
  slug : Text
  deriving DecidableEq

/-- A user, or a key, which is its organization's credential. -/
inductive Principal where
  | user (row : UserRow)
  | apiKey (context : TenantContext)
  deriving DecidableEq

def bearer (authorization : Text) : Option Text :=
  if "Bearer ".toList.isPrefixOf authorization then some (authorization.drop 7) else none

def parseUuid (text : Text) : Option UUID := UUID.parse (String.ofList text)

section Requests

variable (decode : Decoder) (directory : Directory)

def decodeAccessToken (token : Text) : Result Claims :=
  match decode token with
  | none => raise .authentication "Access token is invalid or expired"
  | some claims =>
      if claims.type = some "access".toList then .ok claims
      else raise .authentication "Access token is invalid or expired"

/-- The bearer, with what it binds in the transaction of the request. -/
def getCurrentUser (request : Request) : Result (Principal × List Binding) :=
  match bearer request.authorization with
  | none => raise .authentication "Missing bearer token"
  | some token =>
      if "sk_".toList.isPrefixOf token then
        match (directory.verify token).bind directory.organization with
        | some organization =>
            if organization.deleted ∨ organization.status ≠ "active" then
              raise .authentication "Invalid API key"
            else
              .ok (.apiKey ⟨organization.id, organization.slug⟩, [.tenant organization.id])
        | none => raise .authentication "Invalid API key"
      else do
        let claims ← decodeAccessToken decode token
        match (claims.sub.filter (· ≠ [])).bind parseUuid with
        | none => raise .authentication "Invalid token subject"
        | some userId =>
            match directory.user userId with
            | none => raise .authentication "User not found or inactive"
            | some row =>
                if row.isActive then .ok (.user row, [.user row.id])
                else raise .authentication "User not found or inactive"

/-- `str.lower` up to U+00FF. -/
def lower (text : Text) : Text :=
  text.map fun char =>
    let code := char.toNat
    if (65 ≤ code ∧ code ≤ 90) ∨ (192 ≤ code ∧ code ≤ 222 ∧ code ≠ 215) then Char.ofNat (code + 32)
    else char

/-- A decimal octet as `ipaddress` reads it: no leading zero, at most 255. -/
def isOctet (part : Text) : Bool :=
  part ≠ [] ∧ part.length ≤ 3 ∧ part.all Char.isDigit ∧ (part.head? = some '0' → part.length = 1) ∧
    part.foldl (fun number digit => 10 * number + (digit.toNat - 48)) 0 ≤ 255

/-- `_is_ip_literal` of a host cut at its first colon, which no IPv6 literal survives. -/
def isIpLiteral (host : Text) : Bool :=
  let bracket (char : Char) : Bool := char = '[' ∨ char = ']'
  let parts := ((host.dropWhile bracket).rdropWhile bracket).splitOn '.'
  parts.length = 4 ∧ parts.all isOctet

inductive Reference where
  | id (value : UUID)
  | slug (text : Text)
  deriving DecidableEq

/-- The claim of the token, which a token that cannot be read leaves out. -/
def claimedOrganization (request : Request) : Result (Option Reference) :=
  match (bearer request.authorization).map (decodeAccessToken decode) with
  | some (.ok claims) =>
      match claims.org.filter (· ≠ []) with
      | none => .ok none
      | some text =>
          match parseUuid text with
          | some value => .ok (some (.id value))
          | none => .error (.other .invalidData)
  | _ => .ok none

/-- `_resolve_org_reference`. -/
def resolveOrgReference (request : Request) : Result (Option Reference) :=
  if request.xOrgId ≠ [] then
    match parseUuid request.xOrgId with
    | some value => .ok (some (.id value))
    | none => raise .tenantNotResolved "Invalid X-Org-Id header"
  else if request.xOrgSlug ≠ [] then .ok (some (.slug request.xOrgSlug))
  else
    let host := lower (request.host.takeWhile (· ≠ ':'))
    let label := host.takeWhile (· ≠ '.')
    if '.' ∈ host ∧ ¬ isIpLiteral host ∧ ["www", "api", "app"].all (label ≠ ·.toList) then
      .ok (some (.slug label))
    else claimedOrganization decode request

def Directory.lookup : Reference → Option OrganizationRow
  | .id value => directory.organization value
  | .slug text => directory.getBySlug text

/-- The organization of a request by a user, with what the request has bound by then. -/
def resolveFor (user : UserRow) (reference : Reference) : Result (TenantContext × List Binding) :=
  match (directory.lookup reference).filter fun row => !row.deleted with
  | none => raise .tenantNotResolved "Organization not found"
  | some organization =>
      if (directory.getActive organization.id user.id).isNone ∧ ¬ user.isPlatformAdmin then
        raise .tenantNotResolved "Organization not found"
      else if organization.status ≠ "active" ∧ ¬ user.isPlatformAdmin then
        raise .organizationSuspended "Organization is suspended"
          [("organization_id", .str organization.id.str), ("organization_status", .str organization.status)]
      else .ok (⟨organization.id, organization.slug⟩, [.tenant organization.id])

def resolveTenant (request : Request) : Principal → Result (TenantContext × List Binding)
  | .apiKey context => .ok (context, [])
  | .user row => do
      match ← resolveOrgReference decode request with
      | none => raise .tenantNotResolved "No organization context for this request"
      | some reference => resolveFor directory row reference

/-- The principal and the organization of a request, and all it has bound. -/
structure Admission where
  principal : Principal
  context : TenantContext
  bindings : List Binding
  deriving DecidableEq

def admitRequest (request : Request) : Result Admission := do
  let (principal, identified) ← getCurrentUser decode directory request
  let (context, resolved) ← resolveTenant decode directory request principal
  return ⟨principal, context, identified ++ resolved⟩

end Requests

/-! Look-ups by unique columns. -/

theorem find_of_unique {Row Key : Type} [DecidableEq Key] {key : Row → Key} {rows : List Row}
    (unique : (rows.map key).Nodup) {keep : Row → Bool} {row : Row} (member : row ∈ rows)
    (kept : keep row = true) (same : ∀ other, keep other = true → key other = key row) :
    rows.find? keep = some row := by
  cases found : rows.find? keep with
  | none => exact absurd kept (by simpa using List.find?_eq_none.mp found row member)
  | some other =>
      have here := List.mem_of_find?_eq_some found
      have equal := same other (List.find?_some found)
      rw [List.inj_on_of_nodup_map unique here member equal]

namespace Directory

variable {directory : Directory} {row : OrganizationRow}

theorem organization_eq_some {id : UUID} :
    directory.organization id = some row ↔ row ∈ directory.organizations ∧ row.id = id := by
  constructor
  · intro found
    exact ⟨List.mem_of_find?_eq_some found, by simpa using List.find?_some found⟩
  · rintro ⟨member, rfl⟩
    exact find_of_unique directory.ids_unique member (by simp) fun other kept => by simpa using kept

theorem getBySlug_eq_some {slug : Text} :
    directory.getBySlug slug = some row ↔
      row ∈ directory.organizations ∧ row.slug = slug ∧ row.deleted = false := by
  constructor
  · intro found
    exact ⟨List.mem_of_find?_eq_some found, by simpa using List.find?_some found⟩
  · rintro ⟨member, rfl, live⟩
    refine find_of_unique directory.slugs_unique member (by simp [live]) fun other kept => ?_
    simp only [decide_eq_true_eq] at kept
    exact kept.1

/-- The organization a reference finds, by its id. -/
theorem organization_of_lookup {reference : Reference} (found : directory.lookup reference = some row) :
    directory.organization row.id = some row := by
  cases reference with
  | id value =>
      obtain ⟨member, -⟩ := organization_eq_some.mp found
      exact organization_eq_some.mpr ⟨member, rfl⟩
  | slug text =>
      obtain ⟨member, -⟩ := getBySlug_eq_some.mp found
      exact organization_eq_some.mpr ⟨member, rfl⟩

end Directory

/-! What an outsider is told. -/

/-- The two directories are the same as far as the user is concerned: its own row, which
organizations it is an active member of, and what these are. -/
structure Indistinct (user : UserRow) (first second : Directory) : Prop where
  account : first.user user.id = second.user user.id
  memberships : ∀ id, (first.getActive id user.id).isSome = (second.getActive id user.id).isSome
  organizations : ∀ id, (first.getActive id user.id).isSome →
    first.organization id = second.organization id

theorem Indistinct.symm {user : UserRow} {first second : Directory}
    (alike : Indistinct user first second) : Indistinct user second first where
  account := alike.account.symm
  memberships id := (alike.memberships id).symm
  organizations id member := (alike.organizations id (alike.memberships id ▸ member)).symm

section Outsiders

variable {decode : Decoder} {first second : Directory} {user : UserRow} {reference : Reference}

/-- A reference to one of the user's organizations finds the same one in both. -/
theorem Indistinct.lookup (alike : Indistinct user first second) {row : OrganizationRow}
    (found : (first.lookup reference).filter (fun row => !row.deleted) = some row)
    (member : (first.getActive row.id user.id).isSome) :
    (second.lookup reference).filter (fun row => !row.deleted) = some row := by
  obtain ⟨found, live⟩ := Option.filter_eq_some_iff.mp found
  have there : second.organization row.id = some row :=
    (alike.organizations row.id member).symm.trans (Directory.organization_of_lookup found)
  refine Option.filter_eq_some_iff.mpr ⟨?_, live⟩
  cases reference with
  | id value =>
      obtain ⟨-, rfl⟩ := Directory.organization_eq_some.mp found
      exact there
  | slug text =>
      obtain ⟨-, named, deleted⟩ := Directory.getBySlug_eq_some.mp found
      exact Directory.getBySlug_eq_some.mpr
        ⟨(Directory.organization_eq_some.mp there).1, named, deleted⟩

/-- Where the user is no member of what the reference finds, the answer is that nothing is found. -/
theorem resolveFor_stranger (stranger : user.isPlatformAdmin = false)
    (outside : ∀ row, (first.lookup reference).filter (fun row => !row.deleted) = some row →
      (first.getActive row.id user.id).isSome = false) :
    resolveFor first user reference = raise .tenantNotResolved "Organization not found" := by
  unfold resolveFor
  cases found : (first.lookup reference).filter fun row => !row.deleted with
  | none => rfl
  | some row =>
      have none_active : (first.getActive row.id user.id).isNone = true := by
        simpa using outside row found
      simp [none_active, stranger]

theorem Indistinct.resolveFor (alike : Indistinct user first second)
    (stranger : user.isPlatformAdmin = false) (reference : Reference) :
    resolveFor first user reference = resolveFor second user reference := by
  by_cases inside : ∃ row, (first.lookup reference).filter (fun row => !row.deleted) = some row ∧
      (first.getActive row.id user.id).isSome
  · obtain ⟨row, found, member⟩ := inside
    have there := alike.lookup found member
    have same : (first.getActive row.id user.id).isNone = (second.getActive row.id user.id).isNone := by
      have membership := alike.memberships row.id
      rw [← Option.not_isSome, ← Option.not_isSome, membership]
    simp only [Resolution.resolveFor, found, there, same]
  · have outside (row : OrganizationRow)
        (found : (first.lookup reference).filter (fun row => !row.deleted) = some row) :
        (first.getActive row.id user.id).isSome = false :=
      Bool.eq_false_iff.mpr fun member => inside ⟨row, found, member⟩
    have also (row : OrganizationRow)
        (found : (second.lookup reference).filter (fun row => !row.deleted) = some row) :
        (second.getActive row.id user.id).isSome = false := by
      refine Bool.eq_false_iff.mpr fun member => inside ⟨row, alike.symm.lookup found member, ?_⟩
      rw [alike.memberships]
      exact member
    rw [resolveFor_stranger stranger outside, resolveFor_stranger stranger also]

theorem getCurrentUser_user {request : Request} {bindings : List Binding}
    (known : getCurrentUser decode first request = .ok (.user user, bindings)) :
    first.user user.id = some user ∧ user.isActive = true ∧ bindings = [.user user.id] ∧
      ∀ other : Directory, other.user user.id = first.user user.id →
        getCurrentUser decode other request = .ok (.user user, bindings) := by
  unfold getCurrentUser at known ⊢
  cases presented : bearer request.authorization with
  | none =>
      rw [presented] at known
      cases known
  | some token =>
      simp only [presented] at known ⊢
      by_cases key : "sk_".toList.isPrefixOf token = true
      · rw [if_pos key] at known
        split at known
        · split at known <;> cases known
        · cases known
      · rw [if_neg key] at known
        simp only [if_neg key]
        obtain ⟨claims, decoded, rest⟩ := Result.bind_eq_ok.mp known
        simp only [decoded, Result.ok_bind]
        cases subject : (claims.sub.filter (· ≠ [])).bind parseUuid with
        | none =>
            rw [subject] at rest
            cases rest
        | some userId =>
            simp only [subject] at rest ⊢
            cases found : first.user userId with
            | none =>
                rw [found] at rest
                cases rest
            | some row =>
                rw [found] at rest
                simp only at rest
                split at rest
                · rename_i active
                  cases rest
                  have named : user.id = userId := by
                    simpa [Directory.user] using List.find?_some found
                  subst named
                  refine ⟨found, active, rfl, fun other same => ?_⟩
                  simp only [same, found, if_pos active]
                · cases rest

/-- Whatever a user who is no platform administrator asks for, the answer is the same in any two
states of the database that differ only in organizations the user is no active member of. -/
theorem outsiders_cannot_tell {request : Request} {bindings : List Binding}
    (known : getCurrentUser decode first request = .ok (.user user, bindings))
    (stranger : user.isPlatformAdmin = false) (alike : Indistinct user first second) :
    admitRequest decode first request = admitRequest decode second request := by
  obtain ⟨-, -, -, also⟩ := getCurrentUser_user known
  rw [admitRequest, admitRequest, known, also second alike.account.symm]
  simp only [Result.ok_bind]
  congr 1
  unfold resolveTenant
  cases resolveOrgReference decode request with
  | error failure => rfl
  | ok reference =>
      cases reference with
      | none => rfl
      | some reference => exact alike.resolveFor stranger reference

def sampleUser : UserRow := ⟨⟨List.replicate 32 (Fin.last 15), rfl⟩, true, false⟩

/-- One organization, of which the user is a member. -/
def sampleDirectory : Directory where
  users := [sampleUser]
  organizations := [⟨RowSecurity.firstTenant, "acme".toList, false, "active"⟩]
  memberships := [⟨RowSecurity.firstTenant, sampleUser.id, .active⟩]
  verify _ := none
  ids_unique := by decide
  slugs_unique := by decide

/-- A second organization, suspended, of which it is none. -/
def largerDirectory : Directory where
  users := [sampleUser]
  organizations := [⟨RowSecurity.secondTenant, "globex".toList, false, "suspended"⟩,
    ⟨RowSecurity.firstTenant, "acme".toList, false, "active"⟩]
  memberships := [⟨RowSecurity.firstTenant, sampleUser.id, .active⟩,
    ⟨RowSecurity.secondTenant, sampleUser.id, .suspended⟩]
  verify _ := none
  ids_unique := by decide
  slugs_unique := by decide

/-- Every token is one of the user's. -/
def sampleDecoder : Decoder := fun _ =>
  some ⟨some "access".toList, some sampleUser.id.str.toList, some RowSecurity.firstTenant.str.toList⟩

theorem parseUuid_str (value : UUID) : parseUuid value.str.toList = some value := by
  rw [parseUuid, String.ofList_toList]
  exact CachedBody.UUID.parse_str value

theorem sampleUser_known (directory : Directory) (here : directory.user sampleUser.id = some sampleUser)
    (request : Request) (presented : bearer request.authorization = some "t".toList) :
    getCurrentUser sampleDecoder directory request = .ok (.user sampleUser, [.user sampleUser.id]) := by
  have subject : ((some sampleUser.id.str.toList).filter (· ≠ [])).bind parseUuid =
      some sampleUser.id := by
    rw [show (some sampleUser.id.str.toList).filter (· ≠ []) = some sampleUser.id.str.toList from rfl]
    exact parseUuid_str _
  have decoded : decodeAccessToken sampleDecoder "t".toList = .ok ⟨some "access".toList,
      some sampleUser.id.str.toList, some RowSecurity.firstTenant.str.toList⟩ := rfl
  simp only [getCurrentUser, presented]
  rw [if_neg (by decide), decoded]
  simp only [Result.ok_bind, subject, here]
  rfl

theorem sample_indistinct : Indistinct sampleUser sampleDirectory largerDirectory where
  account := rfl
  memberships id := by
    by_cases here : RowSecurity.firstTenant = id <;>
      simp [Directory.getActive, sampleDirectory, largerDirectory, here]
  organizations id member := by
    have here : RowSecurity.firstTenant = id := by
      by_contra apart
      simp [Directory.getActive, sampleDirectory, apart] at member
    subst here
    decide

/-- By the slug of an organization it is no member of: whether that exists makes no difference. -/
theorem outsiders_cannot_tell_globex :
    admitRequest sampleDecoder sampleDirectory
        { authorization := "Bearer t".toList, xOrgSlug := "globex".toList } =
      admitRequest sampleDecoder largerDirectory
        { authorization := "Bearer t".toList, xOrgSlug := "globex".toList } := by
  have known := sampleUser_known sampleDirectory (by decide)
    { authorization := "Bearer t".toList, xOrgSlug := "globex".toList } (by decide)
  exact outsiders_cannot_tell known rfl sample_indistinct

end Outsiders

/-! What a request that is admitted shows, and what it can reach. -/

section Admitted

variable {decode : Decoder} {directory : Directory} {request : Request}

theorem getCurrentUser_apiKey {context : TenantContext} {bindings : List Binding}
    (known : getCurrentUser decode directory request = .ok (.apiKey context, bindings)) :
    ∃ token organization, bearer request.authorization = some token ∧
      directory.verify token = some organization.id ∧
      organization ∈ directory.organizations ∧ organization.deleted = false ∧
      organization.status = "active" ∧ context = ⟨organization.id, organization.slug⟩ ∧
      bindings = [.tenant organization.id] := by
  unfold getCurrentUser at known
  cases presented : bearer request.authorization with
  | none =>
      rw [presented] at known
      cases known
  | some token =>
      simp only [presented] at known
      split at known
      · cases verified : (directory.verify token).bind directory.organization with
        | none =>
            rw [verified] at known
            cases known
        | some organization =>
            simp only [verified] at known
            split at known
            · cases known
            · rename_i usable
              cases known
              obtain ⟨id, here, found⟩ := Option.bind_eq_some_iff.mp verified
              obtain ⟨member, rfl⟩ := Directory.organization_eq_some.mp found
              rw [not_or, Bool.not_eq_true, not_not] at usable
              exact ⟨token, organization, rfl, here, member, usable.1, usable.2, rfl, rfl⟩
      · obtain ⟨claims, -, rest⟩ := Result.bind_eq_ok.mp known
        repeat' split at rest
        all_goals cases rest

theorem resolveFor_eq_ok {user : UserRow} {reference : Reference} {context : TenantContext}
    {bindings : List Binding}
    (resolved : resolveFor directory user reference = .ok (context, bindings)) :
    ∃ organization ∈ directory.organizations, organization.deleted = false ∧
      context = ⟨organization.id, organization.slug⟩ ∧ bindings = [.tenant organization.id] ∧
      (user.isPlatformAdmin = true ∨ organization.status = "active" ∧
        (directory.getActive organization.id user.id).isSome) := by
  unfold resolveFor at resolved
  cases found : (directory.lookup reference).filter fun row => !row.deleted with
  | none =>
      rw [found] at resolved
      cases resolved
  | some organization =>
      obtain ⟨there, live⟩ := Option.filter_eq_some_iff.mp found
      obtain ⟨member, -⟩ :=
        Directory.organization_eq_some.mp (Directory.organization_of_lookup there)
      simp only [found] at resolved
      split at resolved
      · cases resolved
      · rename_i allowed
        split at resolved
        · cases resolved
        · rename_i usable
          cases resolved
          refine ⟨organization, member, by simpa using live, rfl, rfl, ?_⟩
          by_cases admin : user.isPlatformAdmin = true
          · exact .inl admin
          · simp only [admin, Bool.false_eq_true, not_false_eq_true, and_true, ne_eq, not_not]
              at allowed usable
            exact .inr ⟨usable, by simpa [Option.isSome_iff_ne_none] using allowed⟩

/-- What entitles the principal to the organization. -/
def Entitled (directory : Directory) (request : Request) (organization : OrganizationRow) :
    Principal → Prop
  | .apiKey _ => organization.status = "active" ∧ ∃ token,
      bearer request.authorization = some token ∧ directory.verify token = some organization.id
  | .user row => row ∈ directory.users ∧ row.isActive = true ∧
      (row.isPlatformAdmin = true ∨ organization.status = "active" ∧
        ∃ member ∈ directory.memberships, member.organizationId = organization.id ∧
          member.userId = row.id ∧ member.status = .active)

/-- The user a request may read its own rows as. -/
def Principal.userId : Principal → Option UUID
  | .user row => some row.id
  | .apiKey _ => none

/-- A request that is admitted is for an organization that exists and that its principal is
entitled to, and it has bound this organization, its user and nothing else. -/
theorem admitted_entitled {admission : Admission}
    (admitted : admitRequest decode directory request = .ok admission) :
    ∃ organization ∈ directory.organizations, organization.deleted = false ∧
      admission.context = ⟨organization.id, organization.slug⟩ ∧
      Entitled directory request organization admission.principal ∧
      admission.bindings.foldl RowSecurity.Bound.bind {} =
        ⟨some organization.id, admission.principal.userId, false⟩ := by
  obtain ⟨⟨principal, identified⟩, known, rest⟩ := Result.bind_eq_ok.mp admitted
  obtain ⟨⟨context, resolved⟩, tenant, result⟩ := Result.bind_eq_ok.mp rest
  rw [← Except.ok.inj result]
  cases principal with
  | apiKey bound =>
      obtain ⟨token, organization, presented, verified, member, live, usable, same, rfl⟩ :=
        getCurrentUser_apiKey known
      cases tenant
      exact ⟨organization, member, live, same, ⟨usable, token, presented, verified⟩, rfl⟩
  | user row =>
      obtain ⟨found, active, rfl, -⟩ := getCurrentUser_user known
      simp only [resolveTenant, Result.bind_eq_ok] at tenant
      obtain ⟨reference, -, resolving⟩ := tenant
      cases reference with
      | none => cases resolving
      | some reference =>
          obtain ⟨organization, member, live, same, rfl, allowed⟩ := resolveFor_eq_ok resolving
          refine ⟨organization, member, live, same,
            ⟨List.mem_of_find?_eq_some found, active, ?_⟩, rfl⟩
          refine allowed.imp_right fun both => ⟨both.1, ?_⟩
          obtain ⟨membership, here⟩ := Option.isSome_iff_exists.mp both.2
          refine ⟨membership, List.mem_of_find?_eq_some here, ?_⟩
          simpa using List.find?_some here

/-- The rows a request may reach in a table with a policy: its organization's, those of none
where the table has such rows, and its user's own where the table is user-scoped. -/
def Admission.reaches (admission : Admission) (nullableOrg userScoped : Bool)
    (row : RowSecurity.Row) : Bool :=
  decide (row.organizationId = some admission.context.organizationId) ||
    (nullableOrg && row.organizationId.isNone) ||
    (userScoped && row.userId.isSome && decide (row.userId = admission.principal.userId))

/-- The user's request by the claim of its token. -/
theorem sample_admitted : admitRequest sampleDecoder sampleDirectory { authorization := "Bearer t".toList } =
    .ok ⟨.user sampleUser, ⟨RowSecurity.firstTenant, "acme".toList⟩,
      [.user sampleUser.id, .tenant RowSecurity.firstTenant]⟩ := by
  have known := sampleUser_known sampleDirectory (by decide) { authorization := "Bearer t".toList }
    (by decide)
  have claimed : resolveOrgReference sampleDecoder { authorization := "Bearer t".toList } =
      .ok (some (.id RowSecurity.firstTenant)) := by
    have organization : parseUuid RowSecurity.firstTenant.str.toList = some RowSecurity.firstTenant :=
      parseUuid_str _
    change claimedOrganization sampleDecoder { authorization := "Bearer t".toList } = _
    change (match parseUuid RowSecurity.firstTenant.str.toList with
      | some value => (.ok (some (.id value)) : Result (Option Reference))
      | none => .error (.other .invalidData)) = _
    rw [organization]
  rw [admitRequest, known]
  simp only [Result.ok_bind, resolveTenant, claimed]
  rfl

theorem admitted_entitled_sample :
    Entitled sampleDirectory { authorization := "Bearer t".toList }
      ⟨RowSecurity.firstTenant, "acme".toList, false, "active"⟩ (.user sampleUser) := by
  obtain ⟨organization, member, -, context, entitled, -⟩ := admitted_entitled sample_admitted
  have only : organization = ⟨RowSecurity.firstTenant, "acme".toList, false, "active"⟩ := by
    simpa [sampleDirectory] using member
  exact only ▸ entitled

/-- A platform request, over, on one connection, and another one open on the next. -/
def platformRequests : List RowSecurity.PoolAction :=
  [.checkout 0, .bind 0 .platform, .finish 0, .checkout 1]

def sampleBinding : List RowSecurity.PoolAction :=
  [.checkout 0, .bind 1 .platform, .bind 0 (.user sampleUser.id),
    .bind 0 (.tenant RowSecurity.firstTenant)]

def sampleInvoices : List RowSecurity.Row :=
  [⟨1, some RowSecurity.firstTenant, none, "a"⟩, ⟨2, some RowSecurity.secondTenant, none, "b"⟩]

end Admitted

end SynapseSaas.Resolution
