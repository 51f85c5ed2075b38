import SynapseSaas.Tenancy.SeatGauge

/-! The seat limit of one organization's plan beside the transactions that take and free
seats, statement by statement.

An invitation counts the seats before it takes one, and holds no lock in between; a
change of status does not count. -/

set_option autoImplicit false

namespace SynapseSaas.Tenancy

/-- Where a transaction is. An invitation counts in two statements; what a count saw is
kept with it. -/
inductive SeatStage where
  | unique                                              -- the address is not invited yet
  | activeCounted (active : List Seat)
  | decided (counted : Option (List Seat × List Seat))
  | flushed (counted : Option (List Seat × List Seat))
  deriving DecidableEq, Repr

/-- A transaction under way, with the statement it writes. -/
structure SeatTaking where
  statement : Statement
  stage : SeatStage
  deriving DecidableEq

structure SeatTable where
  rows : Database
  rowLocks : List (Nat × Nat) := []
  sessions : Nat → Option SeatTaking := fun _ => none

inductive SeatTableAction where
  | invite (session membershipId : Nat) (email : String)
  | countActive (session : Nat)
  | countPending (session : Nat)
  | accept (session membershipId : Nat) (user : Option Account) (byToken : Bool)
  | update (session membershipId : Nat) (status : MembershipStatus)
  | remove (session membershipId : Nat)
  | flush (session : Nat)
  | commit (session : Nat)
  | rollback (session : Nat)

namespace Database

variable (rows : Database) (organization : Nat)

/-- A membership that the organization's routes find. -/
def memberOf (membershipId : Nat) : Option Membership :=
  rows.memberships.rows.find? fun member =>
    member.id = membershipId ∧ member.organizationId = organization

/-- The membership an invitation adds, where the address has none yet. -/
def invitation (membershipId : Nat) (email : String) : Option Statement :=
  if rows.memberships.rows.any fun member =>
      member.organizationId = organization ∧ member.invitedEmail = some email then none
  else some (.insertMembership ⟨membershipId, organization, none, some email, none, .invited, []⟩)

/-- `_accept` of a pending invitation, with the account it is linked to; a token is used
up by it. -/
def acceptance (membershipId : Nat) (user : Option Account) (byToken : Bool) : Option Statement :=
  match rows.memberOf organization membershipId with
  | some member =>
      if member.status = .invited then
        let linked : Membership :=
          match user with
          | some user => { member with userId := some user.id, invitedEmail := some user.email }
          | none => member
        some (.updateMembership member { linked with
          inviteTokenHash := if byToken then none else member.inviteTokenHash
          status := .active })
      else none
  | none => none

def statusChange (membershipId : Nat) (status : MembershipStatus) : Option Statement :=
  match rows.memberOf organization membershipId with
  | some member =>
      if member.status = status then none
      else some (.updateMembership member { member with status })
  | none => none

/-- The owner is not removed. -/
def removal (membershipId : Nat) : Option Statement :=
  match rows.memberOf organization membershipId with
  | some member =>
      match rows.organizations.get organization with
      | some found =>
          if found.deleted ∨ member.userId = found.ownerUserId then none
          else some (.deleteMembership membershipId)
      | none => none
  | none => none

end Database

namespace SeatTable

def enter (state : SeatTable) (id : Nat) (session : SeatTaking) : SeatTable :=
  { state with sessions := Function.update state.sessions id (some session) }

def leave (state : SeatTable) (id : Nat) : SeatTable :=
  { state with
    rowLocks := state.rowLocks.filter fun lock => lock.1 ≠ id
    sessions := Function.update state.sessions id none }

/-- A new transaction; a refused request has written nothing. -/
def start (state : SeatTable) (id : Nat) (stage : SeatStage) (statement : Option Statement) :
    SeatTable :=
  match state.sessions id, statement with
  | none, some statement => state.enter id ⟨statement, stage⟩
  | _, _ => state

def blocked (state : SeatTable) (id : Nat) (row : Option Nat) : Bool :=
  state.rowLocks.any fun lock => some lock.2 = row ∧ lock.1 ≠ id

def locking (state : SeatTable) (id : Nat) (row : Option Nat) : SeatTable :=
  { state with rowLocks := state.rowLocks ++ (row.map fun row => (id, row)).toList }

variable (organization limit : Nat)

def step (state : SeatTable) : SeatTableAction → SeatTable
  | .invite id membershipId email =>
      state.start id .unique (state.rows.invitation organization membershipId email)
  | .countActive id =>
      match state.sessions id with
      | some ⟨statement, .unique⟩ => state.enter id ⟨statement, .activeCounted state.rows.seating⟩
      | _ => state
  | .countPending id =>
      match state.sessions id with
      | some ⟨statement, .activeCounted active⟩ =>
          let pending := state.rows.seating
          if countSeats organization .active active + countSeats organization .invited pending + 1 >
              limit then
            state.leave id
          else state.enter id ⟨statement, .decided (some (active, pending))⟩
      | _ => state
  | .accept id membershipId user byToken =>
      state.start id (.decided none) (state.rows.acceptance organization membershipId user byToken)
  | .update id membershipId status =>
      state.start id (.decided none) (state.rows.statusChange organization membershipId status)
  | .remove id membershipId =>
      state.start id (.decided none) (state.rows.removal organization membershipId)
  | .flush id =>
      match state.sessions id with
      | some ⟨statement, .decided counted⟩ =>
          if state.blocked id statement.membershipRow then state
          else
            match statement.run state.rows with
            | .ok _ =>
                (state.enter id ⟨statement, .flushed counted⟩).locking id statement.membershipRow
            | .error _ => state.leave id
      | _ => state
  | .commit id =>
      match state.sessions id with
      | some ⟨statement, .flushed _⟩ =>
          match statement.run state.rows with
          | .ok rows => { state.leave id with rows }
          | .error _ => state.leave id
      | _ => state
  | .rollback id => state.leave id

attribute [local simp] step

def opening (rows : Database) : SeatTable := ⟨rows, [], fun _ => none⟩

end SeatTable

/-- No more seats are in use than the plan has. -/
def SeatsWithin (organization limit : Nat) (state : SeatTable) : Prop :=
  seatsInUse organization state.rows.seating ≤ limit

instance (organization limit : Nat) : DecidablePred (SeatsWithin organization limit) := fun state =>
  inferInstanceAs (Decidable (seatsInUse organization state.rows.seating ≤ limit))

/-- The seats that two counts saw. -/
def seatsCounted (organization : Nat) (counted : List Seat × List Seat) : Nat :=
  countSeats organization .active counted.1 + countSeats organization .invited counted.2

/-- A commit that takes a seat finds one free: an invitation does if no more seats are in
use than it has counted. -/
def SeatFree (organization limit : Nat) (state : SeatTable) : SeatTableAction → Prop
  | .commit id =>
      match state.sessions id with
      | some ⟨statement, .flushed counted⟩ =>
          let used := seatsInUse organization state.rows.seating
          match statement.run state.rows with
          | .ok rows => seatsInUse organization rows.seating ≤ used ∨ used < limit ∨
              ∃ seen ∈ counted, used ≤ seatsCounted organization seen
          | .error _ => True
      | _ => True
  | _ => True

instance (organization limit : Nat) (state : SeatTable) (action : SeatTableAction) :
    Decidable (SeatFree organization limit state action) := by
  unfold SeatFree
  split
  · split
    · dsimp only
      split <;> infer_instance
    · infer_instance
  · infer_instance

/-! One statement takes one seat at most. -/

/-- It occupies a seat of the organization. -/
def Seat.inUse (organization : Nat) (seat : Seat) : Bool :=
  seat.organizationId = organization ∧ (seat.status = .active ∨ seat.status = .invited)

theorem seatsInUse_eq (organization : Nat) (seats : List Seat) :
    seatsInUse organization seats = seats.countP (Seat.inUse organization) := by
  induction seats with
  | nil => rfl
  | cons seat rest ih =>
      obtain ⟨membershipId, organizationId, status⟩ := seat
      unfold seatsInUse countSeats at ih ⊢
      simp only [List.countP_cons, ← ih, Seat.inUse]
      by_cases own : organizationId = organization
      · cases status with
        | active | invited =>
            simp [own]
            omega
        | suspended => simp
      · simp [own]

/-- Among rows with ids of their own, a change to one id changes one row. -/
theorem countP_revise_le {seats : List Seat} (counts : Seat → Bool) (id : Nat) (change : Seat → Seat)
    (distinct : (seats.map Seat.membershipId).Nodup) :
    (seats.map fun seat => if seat.membershipId = id then change seat else seat).countP counts ≤
      seats.countP counts + 1 := by
  induction seats with
  | nil => simp
  | cons seat rest ih =>
      obtain ⟨fresh, distinct⟩ := List.nodup_cons.mp distinct
      rw [List.map_cons, List.countP_cons, List.countP_cons]
      by_cases hit : seat.membershipId = id
      · have kept : (rest.map fun seat => if seat.membershipId = id then change seat else seat) = rest := by
          conv_rhs => rw [← List.map_id rest]
          apply List.map_congr_left
          intro other member
          rw [if_neg]
          · rfl
          · intro same
            exact fresh (List.mem_map.mpr ⟨other, member, same.trans hit.symm⟩)
        rw [kept]
        split <;> split <;> omega
      · rw [if_neg hit]
        have later := ih distinct
        omega

theorem seating_distinct (rows : Database) : (rows.seating.map Seat.membershipId).Nodup := by
  rw [Database.seating, List.map_map]
  apply List.pairwise_map.mpr
  exact rows.memberships.pairwise.imp fun compatible => compatible.1

theorem reseat_le {organization : Nat} {rows : Database} (statement : Statement) :
    seatsInUse organization (statement.reseat rows.seating) ≤
      seatsInUse organization rows.seating + 1 := by
  rw [seatsInUse_eq, seatsInUse_eq]
  cases statement with
  | insertMembership member =>
      simp only [Statement.reseat, List.countP_append, List.countP_singleton]
      split <;> omega
  | deleteMembership id =>
      exact Nat.le_succ_of_le (List.Sublist.countP_le List.filter_sublist)
  | updateMembership loaded edited =>
      simp only [Statement.reseat]
      split
      · exact Nat.le_succ _
      · exact countP_revise_le _ _ _ (seating_distinct rows)
  | _ => exact Nat.le_succ _

theorem run_seats_le {organization : Nat} {rows after : Database} {statement : Statement}
    (written : statement.run rows = .ok after) :
    seatsInUse organization after.seating ≤ seatsInUse organization rows.seating + 1 := by
  rw [Statement.run_seating written]
  exact reseat_le statement

/-! The invariant: an invitation that goes on has been admitted by its counts. -/

def Admitted (organization limit : Nat) (counted : Option (List Seat × List Seat)) : Prop :=
  ∀ seen ∈ counted, seatsCounted organization seen + 1 ≤ limit

def SeatStage.Sound (organization limit : Nat) : SeatStage → Prop
  | .decided counted | .flushed counted => Admitted organization limit counted
  | .unique | .activeCounted _ => True

def AllAdmitted (organization limit : Nat) (state : SeatTable) : Prop :=
  ∀ id session, state.sessions id = some session → session.stage.Sound organization limit

section Steps

variable {organization limit : Nat} {state : SeatTable}

theorem admitted_none : Admitted organization limit none := by
  intro seen member
  cases member

theorem AllAdmitted.enter (admitted : AllAdmitted organization limit state) (id : Nat)
    {session : SeatTaking} (sound : session.stage.Sound organization limit) :
    AllAdmitted organization limit (state.enter id session) := by
  intro other entry found
  rcases Sessions.entered found with ⟨-, rfl⟩ | ⟨-, before⟩
  · exact sound
  · exact admitted other entry before

theorem AllAdmitted.leave (admitted : AllAdmitted organization limit state) (id : Nat) :
    AllAdmitted organization limit (state.leave id) := by
  intro other entry found
  obtain ⟨-, before⟩ := Sessions.left found
  exact admitted other entry before

theorem AllAdmitted.start (admitted : AllAdmitted organization limit state) (id : Nat)
    (stage : SeatStage) (sound : stage.Sound organization limit) (statement : Option Statement) :
    AllAdmitted organization limit (state.start id stage statement) := by
  unfold SeatTable.start
  split
  · exact admitted.enter id sound
  · exact admitted

theorem AllAdmitted.step (admitted : AllAdmitted organization limit state)
    (action : SeatTableAction) :
    AllAdmitted organization limit (SeatTable.step organization limit state action) := by
  cases action with
  | invite id membershipId email => exact admitted.start id .unique trivial _
  | accept id membershipId user byToken => exact admitted.start id (.decided none) admitted_none _
  | update id membershipId status => exact admitted.start id (.decided none) admitted_none _
  | remove id membershipId => exact admitted.start id (.decided none) admitted_none _
  | rollback id => exact admitted.leave id
  | countActive id =>
      simp only [SeatTable.step]
      split
      · exact admitted.enter id trivial
      · exact admitted
  | countPending id =>
      simp only [SeatTable.step]
      split
      · next statement active found =>
        split
        · exact admitted.leave id
        · next room =>
          apply admitted.enter id
          intro seen member
          cases member
          change countSeats organization .active active +
            countSeats organization .invited state.rows.seating + 1 ≤ limit
          omega
      · exact admitted
  | flush id =>
      simp only [SeatTable.step]
      split
      · next statement counted found =>
        split
        · exact admitted
        · split
          · have sound : Admitted organization limit counted := admitted id _ found
            have entered : AllAdmitted organization limit
                (state.enter id ⟨statement, .flushed counted⟩) := admitted.enter id sound
            exact entered
          · exact admitted.leave id
      · exact admitted
  | commit id =>
      simp only [SeatTable.step]
      split
      · split
        · exact admitted.leave id
        · exact admitted.leave id
      · exact admitted

/-- Only a commit moves the seats. -/
theorem SeatTable.step_rows {action : SeatTableAction} (other : ∀ id, action ≠ .commit id) :
    (SeatTable.step organization limit state action).rows = state.rows := by
  cases action with
  | commit id => exact absurd rfl (other id)
  | invite id | accept id | update id | remove id =>
      simp only [SeatTable.step, SeatTable.start]
      split <;> rfl
  | countActive id | countPending id | flush id =>
      simp only [SeatTable.step]
      split
      · first
          | rfl
          | split
            · rfl
            · first
                | rfl
                | split <;> rfl
      · rfl
  | rollback id => rfl

theorem within_commit_iff (admitted : AllAdmitted organization limit state)
    (within : SeatsWithin organization limit state) (id : Nat) :
    SeatsWithin organization limit (SeatTable.step organization limit state (.commit id)) ↔
      SeatFree organization limit state (.commit id) := by
  unfold SeatsWithin at within ⊢
  simp only [SeatTable.step, SeatFree]
  cases found : state.sessions id with
  | none => exact iff_of_true within trivial
  | some session =>
      obtain ⟨statement, stage⟩ := session
      cases stage with
      | unique | activeCounted _ | decided _ => exact iff_of_true within trivial
      | flushed counted =>
          have sound : Admitted organization limit counted := admitted id _ found
          cases done : statement.run state.rows with
          | error failure =>
              simp only [done]
              exact iff_of_true within trivial
          | ok rows =>
              simp only [done]
              have grown : seatsInUse organization rows.seating ≤
                  seatsInUse organization state.rows.seating + 1 := run_seats_le done
              constructor
              · intro kept
                by_cases takes :
                    seatsInUse organization rows.seating ≤ seatsInUse organization state.rows.seating
                · exact .inl takes
                · exact .inr (.inl (by omega))
              · rintro (frees | free | ⟨seen, member, stands⟩)
                · omega
                · omega
                · have room := sound seen member
                  omega

theorem within_step_iff (action : SeatTableAction) (admitted : AllAdmitted organization limit state)
    (within : SeatsWithin organization limit state) :
    SeatsWithin organization limit (SeatTable.step organization limit state action) ↔
      SeatFree organization limit state action := by
  cases action with
  | commit id => exact within_commit_iff admitted within id
  | _ =>
      refine iff_of_true ?_ trivial
      unfold SeatsWithin
      rw [SeatTable.step_rows (by simp)]
      exact within

end Steps

/-- From a state within the limit, a run stays within it throughout exactly when every
commit that takes a seat finds one free. -/
theorem seats_within_iff (organization limit : Nat) (rows : Database)
    (within : seatsInUse organization rows.seating ≤ limit) (actions : List SeatTableAction) :
    Runs.Always (SeatTable.step organization limit) (SeatsWithin organization limit)
        (SeatTable.opening rows) actions ↔
      Runs.Guarded (SeatTable.step organization limit) (SeatFree organization limit)
        (SeatTable.opening rows) actions := by
  have opened : AllAdmitted organization limit (SeatTable.opening rows) := by
    intro id session found
    cases found
  exact Runs.always_iff_guarded (SeatTable.step organization limit)
    (fun state action (admitted : AllAdmitted organization limit state) => admitted.step action)
    (fun _ action admitted held => within_step_iff action admitted held) opened within actions

/-- An invitation for the last seat of two, accepted; its holder suspended, and active again. -/
theorem seats_within_returned :
    Runs.Always (SeatTable.step 1 2) (SeatsWithin 1 2) (SeatTable.opening staffed)
      [.invite 1 11 "ann@acme.test", .countActive 1, .countPending 1, .flush 1, .commit 1,
        .accept 2 11 (some ⟨7, "ann@acme.test"⟩) true, .flush 2, .commit 2,
        .update 3 11 .suspended, .flush 3, .commit 3, .update 4 11 .active, .flush 4, .commit 4] :=
  (seats_within_iff 1 2 staffed (by decide +kernel) _).mpr (by decide +kernel)

/-- Of two seats, two invitations count one free before either has committed; and a
suspended member comes back after its seat was given away. -/
theorem seats_exceeded :
    ¬ Runs.Always (SeatTable.step 1 2) (SeatsWithin 1 2) (SeatTable.opening staffed)
        [.invite 1 11 "ann@acme.test", .invite 2 12 "bob@acme.test", .countActive 1, .countPending 1,
          .countActive 2, .countPending 2, .flush 1, .flush 2, .commit 1, .commit 2] ∧
      ¬ Runs.Always (SeatTable.step 1 2) (SeatsWithin 1 2) (SeatTable.opening staffed)
        [.invite 1 11 "ann@acme.test", .countActive 1, .countPending 1, .flush 1, .commit 1,
          .update 2 11 .suspended, .flush 2, .commit 2,
          .invite 3 12 "bob@acme.test", .countActive 3, .countPending 3, .flush 3, .commit 3,
          .update 4 11 .active, .flush 4, .commit 4] := by
  constructor
  · decide +kernel
  · decide +kernel

end SynapseSaas.Tenancy
