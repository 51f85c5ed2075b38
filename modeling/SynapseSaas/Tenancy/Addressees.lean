import SynapseSaas.Tenancy.Invitations

/-! Invitations to the address of a member: whether their addressee can accept them. -/

set_option autoImplicit false

namespace SynapseSaas.Tenancy

open Procedures

/-- The request invites to the organization, and goes through for an address of no member. -/
def InvitesOutsider (mailbox : String → String) (organizationId : Nat) (rows : Database)
    (request : TenancyRequest) : Prop :=
  ∀ membershipId invitedEmail roleKeys seatLimit tokenHash,
    request = .inviteMember membershipId organizationId invitedEmail roleKeys seatLimit tokenHash →
    refusal ((request.proc mailbox).alone rows) = none →
    ∀ user ∈ rows.users.rows, user.email = invitedEmail →
      ∀ member ∈ rows.standings, member.organizationId = organizationId →
        member.userId ≠ some user.id

/-- Every pending invitation can be written as its addressee's membership: the unique indexes
hold then. -/
def Database.Acceptable (rows : Database) (organizationId : Nat) : Prop :=
  ∀ member ∈ rows.memberships.rows, member.organizationId = organizationId →
    member.status = .invited → ∀ user ∈ rows.users.rows, member.invitedEmail = some user.email →
      (rows.memberships.put ({ member with inviteTokenHash := none }.joined (some user))).isSome

instance (rows : Database) (organizationId : Nat) : Decidable (rows.Acceptable organizationId) :=
  inferInstanceAs (Decidable (∀ member ∈ rows.memberships.rows, _))

/-- An acceptance is by a user as the table has them. -/
def TenancyRequest.SignedIn (users : List Account) : TenancyRequest → Prop
  | .acceptInviteByToken _ user => user ∈ users
  | _ => True

/-- No invitation to the organization is to the address of a user whose membership there was
not by invitation, unless it is refused for something else. -/
def TenancyRequest.SparesFounder (organizationId : Nat) (rows : Database) : TenancyRequest → Prop
  | .inviteMember membershipId home invitedEmail roleKeys seatLimit _ =>
      home = organizationId → ∀ user ∈ rows.users.rows, user.email = invitedEmail →
        ∀ member ∈ rows.standings, member.organizationId = organizationId →
          member.userId = some user.id → member.invitedEmail = none →
            ¬ rows.HasSeat organizationId seatLimit ∨
            ¬ rows.Attachable organizationId (invitedRoles roleKeys) ∨
            ∃ other ∈ rows.standings, other.id = membershipId ∨
              other.organizationId = organizationId ∧ other.invitedEmail = some invitedEmail
  | _ => True

/-- Members by invitation have the address of their user, and the founder's is not invited. -/
structure Addressed (users : Table Account) (organizationId : Nat) (rows : Database) : Prop where
  accounts : rows.users = users
  founded : ∃ organization ∈ rows.organizations.rows, organization.id = organizationId
  own : ∀ member ∈ rows.standings, member.organizationId = organizationId →
    ∀ userId email, member.userId = some userId → member.invitedEmail = some email →
      ∃ user ∈ users.rows, user.id = userId ∧ user.email = email
  apart : ∀ founder ∈ rows.standings, founder.organizationId = organizationId →
    founder.invitedEmail = none → ∀ user ∈ users.rows, founder.userId = some user.id →
      ∀ member ∈ rows.standings, member.organizationId = organizationId →
        member.invitedEmail ≠ some user.email

section Addresses

variable {mailbox : String → String} {users : Table Account} {organizationId : Nat}
  {rows after : Database} {request : TenancyRequest}

theorem user_of_id {first second : Account} (here : first ∈ users.rows) (there : second ∈ users.rows)
    (same : first.id = second.id) : first = second :=
  users.eq_of_id here there same

theorem user_of_email {first second : Account} (here : first ∈ users.rows)
    (there : second ∈ users.rows) (same : first.email = second.email) : first = second := by
  refine users.eq_of_key here there (List.mem_singleton_self first.email) ?_
  rw [same]
  exact List.mem_singleton_self second.email

theorem standings_eq_of_email {first second : Membership} {email : String}
    (left : first ∈ rows.standings) (right : second ∈ rows.standings)
    (home : first.organizationId = organizationId) (home' : second.organizationId = organizationId)
    (mine : first.invitedEmail = some email) (yours : second.invitedEmail = some email) :
    first = second :=
  Database.standings_eq_of_key left right (Membership.mem_keys_email home mine)
    (Membership.mem_keys_email home' yours)

theorem standings_eq_of_user {first second : Membership} {userId : Nat}
    (left : first ∈ rows.standings) (right : second ∈ rows.standings)
    (home : first.organizationId = organizationId) (home' : second.organizationId = organizationId)
    (mine : first.userId = some userId) (yours : second.userId = some userId) : first = second :=
  Database.standings_eq_of_key left right (Membership.mem_keys_user home mine)
    (Membership.mem_keys_user home' yours)

theorem Addressed.acceptable (addressed : Addressed users organizationId rows) :
    rows.Acceptable organizationId := by
  intro member here home pending user known invited
  rw [addressed.accounts] at known
  refine Option.isSome_iff_exists.mpr (Table.put_free _ here rfl fun other there distinct => ?_)
  have listed := Database.standing_mem here
  have beside := Database.standing_mem there
  have differ (same : other.standing = member.standing) : False := by
    have ids : other.standing.id = member.standing.id := congrArg Membership.id same
    exact distinct ids
  -- The addressee has no other membership there, by invitation or without.
  have none_other (elsewhere : other.organizationId = organizationId)
      (theirs : other.userId = some user.id) : False := by
    cases asked : other.invitedEmail with
    | none =>
        exact addressed.apart other.standing beside elsewhere asked user known theirs
          member.standing listed home invited
    | some email =>
        obtain ⟨account, among, same, rfl⟩ := addressed.own other.standing beside elsewhere user.id
          email theirs asked
        cases user_of_id among known same
        exact differ (standings_eq_of_email beside listed elsewhere home asked invited)
  have none_invited (elsewhere : other.organizationId = organizationId)
      (asked : other.invitedEmail = some user.email) : False :=
    differ (standings_eq_of_email beside listed elsewhere home asked invited)
  intro index new old
  simp only [Keyed.keys, Membership.joined, Option.map_some, Option.toList_some,
    List.singleton_append, List.mem_cons, List.not_mem_nil, or_false, List.mem_append,
    Option.mem_toList, Option.map_eq_some_iff] at new old
  subst home
  rcases new with rfl | rfl
  · rcases old with ⟨userId, theirs, same⟩ | ⟨email, -, same⟩
    · obtain ⟨elsewhere, rfl⟩ := MembershipIndex.user.inj same
      exact none_other elsewhere theirs
    · cases same
  · rcases old with ⟨userId, -, same⟩ | ⟨email, asked, same⟩
    · cases same
    · obtain ⟨elsewhere, rfl⟩ := MembershipIndex.email.inj same
      exact none_invited elsewhere asked

/-- Where an invitation is not to the founder's address, nothing of a member's stands for it. -/
theorem Addressed.outsider (addressed : Addressed users organizationId rows)
    (spares : request.SparesFounder organizationId rows) :
    InvitesOutsider mailbox organizationId rows request := by
  rintro membershipId invitedEmail roleKeys seatLimit tokenHash rfl accepted user known rfl member
    here home mine
  cases ran : ((TenancyRequest.inviteMember membershipId organizationId user.email roleKeys seatLimit
    tokenHash).proc mailbox).alone rows with
  | error failure =>
      rw [ran] at accepted
      cases accepted
  | ok result =>
      have progress := Proc.ensures_iff.mp (@progress_request mailbox rows IdentityMap.empty
        (.inviteMember membershipId organizationId user.email roleKeys seatLimit tokenHash))
        result.1 result.2 ran
      have restates := progress.standings
      generalize result.2.standings = standings at restates
      cases restates with
      | invited free seat fresh resolved =>
          cases asked : member.invitedEmail with
          | none =>
              rcases spares rfl user known rfl member here home mine asked with
                full | refused | ⟨other, there, taken | ⟨elsewhere, again⟩⟩
              · exact full seat
              · exact refused resolved
              · exact fresh other there taken
              · exact free other there elsewhere again
          | some email =>
              obtain ⟨account, among, same, rfl⟩ := addressed.own member here home user.id email mine
                asked
              rw [addressed.accounts] at known
              cases user_of_id among known same
              exact free member here home asked

/-- Where a membership after a step has its user and its address from. -/
inductive Source (users : Table Account) (rows : Database) (request : TenancyRequest)
    (member : Membership) : Prop
  | kept {old : Membership} (here : old ∈ rows.standings)
      (home : old.organizationId = member.organizationId) (mine : old.userId = member.userId)
      (asked : old.invitedEmail = member.invitedEmail)
  | joined {user : Account} (known : user ∈ users.rows) (mine : member.userId = some user.id)
      (asked : member.invitedEmail = some user.email)
  | founded (fresh : ∀ organization ∈ rows.organizations.rows,
        organization.id ≠ member.organizationId) (asked : member.invitedEmail = none)
  | invited {membershipId : Nat} {invitedEmail tokenHash : String} {roleKeys : List String}
      {seatLimit : Option Nat}
      (same : request = .inviteMember membershipId member.organizationId invitedEmail roleKeys
        seatLimit tokenHash)
      (nobody : member.userId = none) (asked : member.invitedEmail = some invitedEmail)
      (free : ∀ other ∈ rows.standings, other.organizationId = member.organizationId →
        other.invitedEmail ≠ some invitedEmail)
      (seat : rows.HasSeat member.organizationId seatLimit)
      (fresh : ∀ other ∈ rows.standings, other.id ≠ membershipId)
      (resolved : rows.Attachable member.organizationId (invitedRoles roleKeys))

theorem source_of_restates {standings : List Membership} {member : Membership}
    (restates : Restates mailbox rows request standings) (accounts : rows.users = users)
    (signedIn : request.SignedIn users.rows) (here : member ∈ standings) :
    Source users rows request member := by
  cases restates with
  | created fresh =>
      rcases List.mem_append.mp here with old | new
      · exact .kept old rfl rfl rfl
      · cases List.mem_singleton.mp new
        exact .founded fresh rfl
  | invited free seat fresh resolved =>
      rcases List.mem_append.mp here with old | new
      · exact .kept old rfl rfl rfl
      · cases List.mem_singleton.mp new
        exact .invited rfl rfl rfl free seat fresh resolved
  | roleAssigned | roleCreated | roleUpdated | roleDeleted => exact .kept here rfl rfl rfl
  | @acceptedByEmail organizationId email accepted user there pending home invited account only =>
      rcases mem_restate.mp here with ⟨rfl, -⟩ | ⟨old, -⟩
      · cases user with
        | none => exact .kept there rfl rfl rfl
        | some user => exact .joined (accounts ▸ (account user rfl).1) rfl rfl
      · exact .kept old rfl rfl rfl
  | acceptedByToken there pending token same =>
      rcases mem_restate.mp here with ⟨rfl, -⟩ | ⟨old, -⟩
      · exact .joined signedIn rfl rfl
      · exact .kept old rfl rfl rfl
  | updated there same resolved =>
      rcases mem_restate.mp here with ⟨rfl, -⟩ | ⟨old, -⟩
      · exact .kept there rfl rfl rfl
      · exact .kept old rfl rfl rfl
  | removed => exact .kept (List.mem_filter.mp here).1 rfl rfl rfl

theorem addressed_step (addressed : Addressed users organizationId rows)
    (signedIn : request.SignedIn users.rows) (spares : request.SparesFounder organizationId rows) :
    Addressed users organizationId (tenancyService mailbox rows request) := by
  rcases service_progress mailbox rows request with refused | progress
  · rwa [refused]
  obtain ⟨organization, there, same_id⟩ := addressed.founded
  have source (member : Membership)
      (here : member ∈ (tenancyService mailbox rows request).standings) :
      Source users rows request member :=
    source_of_restates progress.standings addressed.accounts signedIn here
  refine ⟨progress.users.trans addressed.accounts, ⟨organization, progress.organizations _ there,
    same_id⟩, ?_, ?_⟩
  · intro member here home userId email mine asked
    cases source member here with
    | kept old home' mine' asked' =>
        exact addressed.own _ old (home'.trans home) userId email (mine'.trans mine)
          (asked'.trans asked)
    | joined known theirs invited =>
        exact ⟨_, known, Option.some.inj (theirs.symm.trans mine),
          Option.some.inj (invited.symm.trans asked)⟩
    | founded fresh never => cases never.symm.trans asked
    | invited _ nobody => cases nobody.symm.trans mine
  · intro founder here home never user known mine member beside home' asked
    -- The founder's membership is an old one: a new one has an address, or another organization.
    obtain ⟨old, before, old_home, old_mine, old_never⟩ : ∃ old ∈ rows.standings,
        old.organizationId = organizationId ∧ old.userId = some user.id ∧ old.invitedEmail = none := by
      cases source founder here with
      | kept old home' mine' asked' =>
          exact ⟨_, old, home'.trans home, mine'.trans mine, asked'.trans never⟩
      | joined _ _ invited => cases invited.symm.trans never
      | founded fresh => exact absurd (same_id.trans home.symm) (fresh organization there)
      | invited _ _ invited => cases invited.symm.trans never
    cases source member beside with
    | kept earlier home'' _ asked' =>
        exact addressed.apart old before old_home old_never user known old_mine _ earlier
          (home''.trans home') (asked'.trans asked)
    | joined account theirs invited =>
        -- The founder would have two memberships.
        cases user_of_email account known (Option.some.inj (invited.symm.trans asked))
        cases standings_eq_of_user beside here home' home theirs mine
        cases never.symm.trans asked
    | founded _ absent => cases absent.symm.trans asked
    | invited same _ invited free seat fresh resolved =>
        subst same home'
        cases invited.symm.trans asked
        have known' : user ∈ rows.users.rows := by rwa [addressed.accounts]
        rcases spares rfl user known' rfl old before old_home old_mine old_never with
          full | refused | ⟨other, listed, taken | ⟨elsewhere, again⟩⟩
        · exact full seat
        · exact refused resolved
        · exact fresh other listed taken
        · exact free other listed elsewhere again

end Addresses

/-- From its creation on, in a run that invites to an organization by no founder's address, an
invitation goes through for no member's address, and each pending one can be accepted by its
addressee. -/
theorem invitations_to_outsiders (mailbox : String → String) (start : Database)
    (organizationId membershipId ownerId : Nat) (slug name : String)
    (fresh : ∀ organization ∈ start.organizations.rows, organization.id ≠ organizationId)
    (bare : ∀ member ∈ start.memberships.rows, member.organizationId ≠ organizationId)
    (created : ∃ organization ∈ (tenancyService mailbox start
      (.createOrganization organizationId membershipId ownerId slug name)).organizations.rows,
        organization.id = organizationId)
    (requests : List TenancyRequest)
    (signedIn : ∀ request ∈ requests, request.SignedIn start.users.rows)
    (spares : Runs.Guarded (tenancyService mailbox)
      (fun rows request => request.SparesFounder organizationId rows)
      (tenancyService mailbox start
        (.createOrganization organizationId membershipId ownerId slug name)) requests) :
    Runs.Guarded (tenancyService mailbox) (InvitesOutsider mailbox organizationId)
        (tenancyService mailbox start
          (.createOrganization organizationId membershipId ownerId slug name)) requests ∧
      Runs.Always (tenancyService mailbox) (fun rows => rows.Acceptable organizationId)
        (tenancyService mailbox start
          (.createOrganization organizationId membershipId ownerId slug name)) requests := by
  have begun : Addressed start.users organizationId (tenancyService mailbox start
      (.createOrganization organizationId membershipId ownerId slug name)) := by
    have bare_standings (member : Membership) (here : member ∈ start.standings) :
        member.organizationId ≠ organizationId := by
      obtain ⟨row, listed, rfl⟩ := Database.mem_standings.mp here
      exact bare row listed
    rcases service_progress mailbox start
      (.createOrganization organizationId membershipId ownerId slug name) with refused | progress
    · rw [refused] at created
      obtain ⟨organization, here, same⟩ := created
      exact absurd same (fresh organization here)
    · have never (member : Membership) (here : member ∈ (tenancyService mailbox start
          (.createOrganization organizationId membershipId ownerId slug name)).standings)
          (home : member.organizationId = organizationId) : member.invitedEmail = none := by
        have restates := progress.standings
        generalize (tenancyService mailbox start (.createOrganization organizationId membershipId
          ownerId slug name)).standings = standings at restates here
        cases restates with
        | created =>
            rcases List.mem_append.mp here with old | new
            · exact absurd home (bare_standings member old)
            · cases List.mem_singleton.mp new
              rfl
      refine ⟨progress.users, created, fun member here home _ email _ asked => ?_,
        fun _ _ _ _ user _ _ member here home asked => ?_⟩
      · cases (never member here home).symm.trans asked
      · cases (never member here home).symm.trans asked
  have preserved (rows : Database) (request : TenancyRequest)
      (signedIn : request.SignedIn start.users.rows)
      (addressed : Addressed start.users organizationId rows)
      (spares : request.SparesFounder organizationId rows) :
      Addressed start.users organizationId (tenancyService mailbox rows request) :=
    addressed_step addressed signedIn spares
  constructor
  · exact Runs.guarded_mono_among _ preserved
      (fun _ _ _ addressed spares => addressed.outsider spares) begun signedIn spares
  · have always := Runs.always_of_guarded_among _ preserved begun signedIn spares
    exact always.mono _ fun _ addressed => addressed.acceptable

/-- Grace is invited and joins; then the founder's own address is invited with no seat left. -/
def hiring : List TenancyRequest :=
  [.inviteMember 12 2 "grace@acme.test" [] none "hash",
    .acceptInviteByToken "hash" ⟨2, "grace@acme.test"⟩,
    .inviteMember 13 2 "ada@acme.test" [] (some 2) "other"]

theorem invitations_to_outsiders_grace :
    Runs.Guarded (tenancyService id) (InvitesOutsider id 2)
        (tenancyService id catalog (.createOrganization 2 11 1 "globex" "Globex")) hiring ∧
      Runs.Always (tenancyService id) (fun rows => rows.Acceptable 2)
        (tenancyService id catalog (.createOrganization 2 11 1 "globex" "Globex")) hiring := by
  refine invitations_to_outsiders id catalog 2 11 1 "globex" "Globex" (by decide) (by decide)
    (by decide +kernel) hiring ?_ ⟨?_, trivial, ?_, trivial⟩
  · simp [hiring, TenancyRequest.SignedIn, catalog]
  · have outside : ∀ user ∈ (tenancyService id catalog
        (.createOrganization 2 11 1 "globex" "Globex")).users.rows, user.email = "grace@acme.test" →
          ∀ member ∈ (tenancyService id catalog
            (.createOrganization 2 11 1 "globex" "Globex")).standings,
            member.userId ≠ some user.id := by decide +kernel
    exact fun _ user known same member here _ mine _ =>
      absurd mine (outside user known same member here)
  · have full : ¬ (Runs.run (tenancyService id) (tenancyService id catalog
        (.createOrganization 2 11 1 "globex" "Globex")) (hiring.take 2)).HasSeat 2 (some 2) := by
      decide +kernel
    exact fun _ _ _ _ _ _ _ _ _ => .inl full

/-- The founder's own address is invited, and the founder cannot accept. -/
theorem founder_invited :
    ¬ Runs.Guarded (tenancyService id) (InvitesOutsider id 2)
        (tenancyService id catalog (.createOrganization 2 11 1 "globex" "Globex"))
        [.inviteMember 12 2 "ada@acme.test" [] none "hash"] ∧
      ¬ (Runs.run (tenancyService id) catalog [.createOrganization 2 11 1 "globex" "Globex",
        .inviteMember 12 2 "ada@acme.test" [] none "hash"]).Acceptable 2 ∧
      refusal (((TenancyRequest.acceptInviteByToken "hash" ⟨1, "ada@acme.test"⟩).proc id).alone
        (Runs.run (tenancyService id) catalog [.createOrganization 2 11 1 "globex" "Globex",
          .inviteMember 12 2 "ada@acme.test" [] none "hash"])) = some (.other .integrity) := by
  refine ⟨?_, by decide +kernel, by decide +kernel⟩
  rintro ⟨outsider, -⟩
  have seated : ∃ member ∈ (tenancyService id catalog
      (.createOrganization 2 11 1 "globex" "Globex")).standings, member.organizationId = 2 ∧
        member.userId = some 1 := by decide +kernel
  have known : (⟨1, "ada@acme.test"⟩ : Account) ∈ (tenancyService id catalog
      (.createOrganization 2 11 1 "globex" "Globex")).users.rows := by decide +kernel
  obtain ⟨member, here, home, mine⟩ := seated
  exact outsider 12 "ada@acme.test" [] none "hash" rfl (by decide +kernel) _ known rfl member here
    home mine

end SynapseSaas.Tenancy
