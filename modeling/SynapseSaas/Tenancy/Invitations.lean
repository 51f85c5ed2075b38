import SynapseSaas.Tenancy.Standings

/-! An invitation stays open until its addressee accepts it or it is withdrawn. -/

set_option autoImplicit false

namespace SynapseSaas.Tenancy

open Procedures

/-- The signed-in user accepts the invitation sent to their address. -/
inductive AcceptedBy (mailbox : String → String) (rows : Database) (member : Membership)
    (user : Account) : TenancyRequest → Prop
  | byToken {tokenHash : String} (token : member.inviteTokenHash = some tokenHash)
      (same : mailbox (member.invitedEmail.getD "") = mailbox user.email) :
      AcceptedBy mailbox rows member user (.acceptInviteByToken tokenHash user)
  | byEmail (account : user ∈ rows.users.rows) (invited : member.invitedEmail = some user.email) :
      AcceptedBy mailbox rows member user
        (.acceptInviteByEmail member.organizationId user.email)

/-- What becomes of a pending invitation in one step. -/
inductive InvitationFate (mailbox : String → String) (rows after : Database)
    (request : TenancyRequest) (member : Membership) : Prop
  | pending (stays : member ∈ after.standings)
  | accepted {user : Account} {joined : Membership}
      (by_invitee : AcceptedBy mailbox rows member user request)
      (here : joined ∈ after.standings) (same : joined.id = member.id)
      (active : joined.status = .active) (linked : joined.userId = some user.id)
  | removed (asked : request = .removeMember member.id)
      (gone : ∀ other ∈ after.standings, other.id ≠ member.id)

/-- Every membership that is not a pending invitation is a user's. -/
def Database.Linked (rows : Database) : Prop :=
  ∀ member ∈ rows.standings, member.status ≠ .invited → member.userId ≠ none

instance (rows : Database) : Decidable rows.Linked :=
  inferInstanceAs (Decidable (∀ member ∈ rows.standings, _))

/-- The step leaves every pending invitation open, or its invitee accepts it or it is removed,
and every active membership a user's. -/
structure InviteeActivates (mailbox : String → String) (rows : Database) (request : TenancyRequest)
    (after : Database) : Prop where
  fate : ∀ member ∈ rows.standings, member.status = .invited →
    InvitationFate mailbox rows after request member
  linked : ∀ member ∈ after.standings, member.status = .active → member.userId ≠ none

/-- The request does not set the status of a pending invitation, unless its roles are refused,
and accepts none by an address that no user has. -/
def TenancyRequest.LeavesPending (rows : Database) : TenancyRequest → Prop
  | .updateMembership membershipId roleKeys (some status) =>
      ∀ member ∈ rows.standings, member.id = membershipId → member.status = .invited →
        status = .invited ∨ ∃ keys ∈ roleKeys, ¬ rows.Attachable member.organizationId keys
  | .acceptInviteByEmail organizationId email =>
      ∀ member ∈ rows.standings, member.status = .invited →
        member.organizationId = organizationId → member.invitedEmail = some email →
          ∃ user ∈ rows.users.rows, user.email = email
  | _ => True

section Steps

variable {mailbox : String → String} {rows after : Database} {request : TenancyRequest}
  {member : Membership}

/-- A membership that a step restates otherwise is left as it stands. -/
theorem mem_restate_other {new : Membership} (here : member ∈ rows.standings)
    (other : member.id ≠ new.id) : member ∈ restate rows.standings new :=
  mem_restate.mpr (.inr ⟨here, other⟩)

theorem mem_restate_new {old new : Membership} (here : old ∈ rows.standings)
    (same : old.id = new.id) : new ∈ restate rows.standings new :=
  mem_restate.mpr (.inl ⟨rfl, old, here, same⟩)

theorem fate_of_restates (restates : Restates mailbox rows request after.standings)
    (leaves : request.LeavesPending rows) (here : member ∈ rows.standings)
    (pending : member.status = .invited) : InvitationFate mailbox rows after request member := by
  generalize listed : after.standings = standings at restates
  have stays (kept : member ∈ standings) : InvitationFate mailbox rows after request member :=
    .pending (listed ▸ kept)
  cases restates with
  | created | invited => exact stays (List.mem_append_left _ here)
  | roleAssigned | roleCreated | roleUpdated | roleDeleted => exact stays here
  | @acceptedByEmail organizationId email accepted user there pending' home invited account only =>
      by_cases other : member.id = accepted.id
      · cases Database.standings_eq_of_id here there other
        cases user with
        | none =>
            obtain ⟨found, among, same⟩ := leaves member here pending home invited
            exact absurd same (only rfl found among)
        | some user =>
            obtain ⟨known, same⟩ := account user rfl
            subst same home
            have joined : member.joined (some user) ∈ after.standings := by
              rw [listed]
              exact mem_restate_new here rfl
            exact .accepted (.byEmail known invited) joined rfl rfl rfl
      · refine stays (mem_restate_other here ?_)
        cases user with
        | none => exact other
        | some user => exact other
  | @acceptedByToken tokenHash user accepted there pending' token same =>
      by_cases other : member.id = accepted.id
      · cases Database.standings_eq_of_id here there other
        have joined : ({ member with inviteTokenHash := none }.joined (some user)) ∈
            after.standings := by
          rw [listed]
          exact mem_restate_new here rfl
        exact .accepted (.byToken token same) joined rfl rfl rfl
      · exact stays (mem_restate_other here other)
  | @updated membershipId roleKeys status accepted there same resolved =>
      by_cases other : member.id = accepted.id
      · cases Database.standings_eq_of_id here there other
        have unchanged : status.getD member.status = member.status := by
          cases status with
          | none => rfl
          | some status =>
              rcases leaves member here same pending with still | ⟨keys, asked, refused⟩
              · exact still.trans pending.symm
              · exact absurd (resolved keys asked) refused
        refine stays ?_
        rw [unchanged]
        exact mem_restate_new here rfl
      · exact stays (mem_restate_other here other)
  | @removed membershipId =>
      by_cases asked : member.id = membershipId
      · refine .removed (asked ▸ rfl) fun other there => ?_
        rw [listed] at there
        exact asked ▸ of_decide_eq_true (List.mem_filter.mp there).2
      · exact stays (List.mem_filter.mpr ⟨here, decide_eq_true asked⟩)

theorem linked_of_restates (restates : Restates mailbox rows request after.standings)
    (leaves : request.LeavesPending rows) (linked : rows.Linked) : after.Linked := by
  unfold Database.Linked
  generalize after.standings = standings at restates
  intro member here settled
  cases restates with
  | created =>
      rcases List.mem_append.mp here with old | new
      · exact linked member old settled
      · cases List.mem_singleton.mp new
        exact nofun
  | invited =>
      rcases List.mem_append.mp here with old | new
      · exact linked member old settled
      · cases List.mem_singleton.mp new
        exact absurd rfl settled
  | roleAssigned | roleCreated | roleUpdated | roleDeleted => exact linked member here settled
  | @acceptedByEmail organizationId email accepted user there pending home invited account only =>
      rcases mem_restate.mp here with ⟨rfl, -⟩ | ⟨old, -⟩
      · cases user with
        | none =>
            obtain ⟨found, among, same⟩ := leaves accepted there pending home invited
            exact absurd same (only rfl found among)
        | some user => exact nofun
      · exact linked member old settled
  | acceptedByToken =>
      rcases mem_restate.mp here with ⟨rfl, -⟩ | ⟨old, -⟩
      · exact nofun
      · exact linked member old settled
  | @updated membershipId roleKeys status edited there same resolved =>
      rcases mem_restate.mp here with ⟨rfl, -⟩ | ⟨old, -⟩
      · by_cases pending : edited.status = .invited
        · cases status with
          | none => exact absurd pending settled
          | some status =>
              rcases leaves edited there same pending with still | ⟨keys, asked, refused⟩
              · exact absurd still settled
              · exact absurd (resolved keys asked) refused
        · exact linked edited there pending
      · exact linked member old settled
  | removed => exact linked member (List.mem_filter.mp here).1 settled

theorem linked_step (linked : rows.Linked) (leaves : request.LeavesPending rows) :
    (tenancyService mailbox rows request).Linked := by
  rcases service_progress mailbox rows request with refused | progress
  · rwa [refused]
  · exact linked_of_restates progress.standings leaves linked

theorem inviteeActivates_step (linked : rows.Linked) (leaves : request.LeavesPending rows) :
    InviteeActivates mailbox rows request (tenancyService mailbox rows request) where
  fate member here pending := by
    rcases service_progress mailbox rows request with refused | progress
    · exact .pending (by rwa [refused])
    · exact fate_of_restates progress.standings leaves here pending
  linked member here active := linked_step linked leaves member here (by rw [active]; exact nofun)

end Steps

/-- In every run that sets the status of no pending invitation, and accepts none by an address
that no user has, an invitation is activated by its invitee only and stays open until it is
accepted or removed, and every active membership is a user's. -/
theorem invitee_activates (mailbox : String → String) (start : Database) (linked : start.Linked)
    (requests : List TenancyRequest)
    (leaves : Runs.Guarded (tenancyService mailbox)
      (fun rows request => request.LeavesPending rows) start requests) :
    Runs.Guarded (tenancyService mailbox)
      (fun rows request => InviteeActivates mailbox rows request (tenancyService mailbox rows request))
      start requests := by
  have preserved (rows : Database) (request : TenancyRequest) (_ : True) (linked : rows.Linked)
      (leaves : request.LeavesPending rows) : (tenancyService mailbox rows request).Linked :=
    linked_step linked leaves
  exact Runs.guarded_mono_among _ preserved (fun _ _ _ => inviteeActivates_step) linked
    (fun _ _ => trivial) leaves

/-- Grace accepts the invitation to her address; Mallory, and the token without her, cannot. -/
def accepting : List TenancyRequest :=
  [.inviteMember 30 1 "grace@acme.test" [] none "hash",
    .acceptInviteByToken "hash" ⟨3, "mallory@acme.test"⟩,
    .acceptInviteByToken "hash" ⟨2, "grace@acme.test"⟩,
    .updateMembership 30 none (some .suspended)]

theorem invitee_activates_grace :
    Runs.Guarded (tenancyService id)
      (fun rows request => InviteeActivates id rows request (tenancyService id rows request))
      catalog accepting := by
  refine invitee_activates id catalog (by decide) accepting ⟨trivial, trivial, trivial, ?_, trivial⟩
  have settled : ∀ member ∈ (Runs.run (tenancyService id) catalog (accepting.take 3)).standings,
      member.id = 30 → member.status ≠ .invited := by decide +kernel
  exact fun member here same pending => absurd pending (settled member here same)

/-- An administrator sets the invitation to active: nobody is linked to it, and the invitee can
no longer accept it. -/
theorem activated_by_update :
    ¬ Runs.Guarded (tenancyService id)
        (fun rows request => InviteeActivates id rows request (tenancyService id rows request))
        catalog [.inviteMember 30 1 "grace@acme.test" [] none "hash",
          .updateMembership 30 none (some .active)] ∧
      refusal (((TenancyRequest.acceptInviteByToken "hash" ⟨2, "grace@acme.test"⟩).proc id).alone
        (Runs.run (tenancyService id) catalog [.inviteMember 30 1 "grace@acme.test" [] none "hash",
          .updateMembership 30 none (some .active)])) ≠ none := by
  constructor
  · rintro ⟨-, ⟨-, linked⟩, -⟩
    have stranded : ∃ member ∈ (Runs.run (tenancyService id) catalog
        [.inviteMember 30 1 "grace@acme.test" [] none "hash",
          .updateMembership 30 none (some .active)]).standings,
        member.status = .active ∧ member.userId = none := by decide +kernel
    obtain ⟨member, here, active, nobody⟩ := stranded
    exact linked member here active nobody
  · decide +kernel

end SynapseSaas.Tenancy
