import SynapseSaas.Tenancy.Service
import SynapseSaas.Foundation.Sessions

/-! The seat gauge of one organization beside transactions that change its memberships,
statement by statement.

A transaction that has changed the standing of a membership counts the seats in two
statements of its own and writes the level it counted; the counter's row stays locked
until the transaction is over. -/

set_option autoImplicit false

namespace SynapseSaas.Tenancy

open Procedures (Proc writeAll)

/-! What a seat count depends on. -/

/-- A membership as the counts see it. -/
structure Seat where
  membershipId : Nat
  organizationId : Nat
  status : MembershipStatus
  deriving DecidableEq, Repr

def Membership.seat (member : Membership) : Seat := ⟨member.id, member.organizationId, member.status⟩

def Database.seating (rows : Database) : List Seat := rows.memberships.rows.map Membership.seat

/-- What a statement does to the seats. -/
def Statement.reseat : Statement → List Seat → List Seat
  | .updateMembership loaded edited, seats =>
      if edited.status = loaded.status then seats
      else seats.map fun seat =>
        if seat.membershipId = loaded.id then { seat with status := edited.status } else seat
  | .insertMembership member, seats => seats ++ [member.seat]
  | .deleteMembership id, seats => seats.filter fun seat => seat.membershipId ≠ id
  | _, seats => seats

/-- It changes the standing of a membership. -/
def Statement.changesStanding : Statement → Bool
  | .updateMembership loaded edited => edited.status ≠ loaded.status
  | .insertMembership _ | .deleteMembership _ => true
  | _ => false

/-- The membership whose row it locks. -/
def Statement.membershipRow : Statement → Option Nat
  | .updateMembership loaded _ => some loaded.id
  | .insertMembership member => some member.id
  | .deleteMembership id => some id
  | _ => none

def reseatAll (written : List Statement) (seats : List Seat) : List Seat :=
  written.foldl (fun seats statement => statement.reseat seats) seats

def countSeats (organization : Nat) (status : MembershipStatus) (seats : List Seat) : Nat :=
  seats.countP fun seat => seat.organizationId = organization ∧ seat.status = status

/-- The seats in use: active members and pending invitations. -/
def seatsInUse (organization : Nat) (seats : List Seat) : Nat :=
  countSeats organization .active seats + countSeats organization .invited seats

/-! The interleaved transactions. -/

inductive SeatPhase where
  | working (remaining : TenancyProc (Unit × IdentityMap))
  | activeCounted (active : List Seat)            -- the seats as the count saw them
  | counted (active pending : List Seat)
  | gaugeSet (level : Nat)

structure SeatSession where
  written : List Statement
  phase : SeatPhase

structure SeatBooks where
  rows : Database
  gauge : Nat
  gaugeLock : Option Nat := none
  rowLocks : List (Nat × Nat) := []         -- a session and the membership it has written
  sessions : Nat → Option SeatSession := fun _ => none

inductive SeatAction where
  | start (session : Nat) (request : TenancyRequest)
  | advance (session : Nat)
  | rollback (session : Nat)

/-- The memberships a request can find are those of the organization. -/
def TenancyRequest.concerns (organization : Nat) (rows : Database) : TenancyRequest → Bool
  | .createOrganization organizationId _ _ _ _ | .inviteMember _ organizationId _ _ _ _
  | .acceptInviteByEmail organizationId _ | .createCustomRole _ organizationId _ _ _ _
  | .updateCustomRole _ organizationId _ _ _ | .deleteCustomRole _ organizationId =>
      organizationId = organization
  | .acceptInviteByToken tokenHash _ => rows.memberships.rows.all fun member =>
      member.inviteTokenHash = some tokenHash → member.organizationId = organization
  | .updateMembership membershipId _ _ | .removeMember membershipId | .assignRole membershipId _ =>
      rows.memberships.rows.all fun member =>
        member.id = membershipId → member.organizationId = organization

namespace SeatBooks

def enter (state : SeatBooks) (session : Nat) (written : List Statement) (phase : SeatPhase) :
    SeatBooks :=
  { state with sessions := Function.update state.sessions session (some ⟨written, phase⟩) }

def leave (state : SeatBooks) (session : Nat) : SeatBooks :=
  { state with
    gaugeLock := if state.gaugeLock = some session then none else state.gaugeLock
    rowLocks := state.rowLocks.filter fun lock => lock.1 ≠ session
    sessions := Function.update state.sessions session none }

/-- Another transaction has written the row of this membership. -/
def blocked (state : SeatBooks) (session : Nat) (row : Option Nat) : Bool :=
  state.rowLocks.any fun lock => some lock.2 = row ∧ lock.1 ≠ session

def locking (state : SeatBooks) (session : Nat) (row : Option Nat) : SeatBooks :=
  { state with rowLocks := state.rowLocks ++ (row.map fun row => (session, row)).toList }

section Sessions

variable {state : SeatBooks} {id other : Nat} {written : List Statement} {phase : SeatPhase}

theorem enter_elsewhere (different : other ≠ id) :
    (state.enter id written phase).sessions other = state.sessions other :=
  Function.update_of_ne different ..

theorem leave_elsewhere (different : other ≠ id) :
    (state.leave id).sessions other = state.sessions other :=
  Function.update_of_ne different ..

end Sessions

section Step

variable (mailbox : String → String) (organization : Nat)

/-- The next statement of a method: it sees what is committed and what its own transaction
has written. -/
def work (state : SeatBooks) (session : Nat) (written : List Statement) (view : Database) :
    TenancyProc (Unit × IdentityMap) → SeatBooks
  | .done _ =>
      if written.any Statement.changesStanding then
        state.enter session written (.activeCounted view.seating)
      else { state.leave session with rows := view }
  | .fail _ => state.leave session
  | .select next => state.enter session written (.working (next view))
  | .mutate statement next =>
      if state.blocked session statement.membershipRow then state
      else
        match statement.run view with
        | .ok _ =>
            (state.enter session (written ++ [statement]) (.working next)).locking session
              statement.membershipRow
        | .error _ => state.leave session
  | .perform _ next => state.enter session written (.working next)

/-- Once the method is done, `_sync_seat_gauge` where a standing was changed, and the
commit. A write that what others committed does not admit any more fails the request. -/
def advance (state : SeatBooks) (session : Nat) : SeatBooks :=
  match state.sessions session with
  | none => state
  | some ⟨written, phase⟩ =>
      match writeAll written state.rows with
      | .error _ => state.leave session
      | .ok view =>
          match phase with
          | .working remaining => state.work session written view remaining
          | .activeCounted active =>
              state.enter session written (.counted active view.seating)
          | .counted active pending =>
              match state.gaugeLock with
              | some _ => state
              | none =>
                  let level := countSeats organization .active active +
                    countSeats organization .invited pending
                  { state.enter session written (.gaugeSet level) with gaugeLock := some session }
          | .gaugeSet level => { state.leave session with rows := view, gauge := level }

def step (state : SeatBooks) : SeatAction → SeatBooks
  | .start session request =>
      match state.sessions session with
      | none =>
          if request.concerns organization state.rows then
            state.enter session [] (.working (request.proc mailbox))
          else state
      | some _ => state
  | .advance session => state.advance organization session
  | .rollback session => state.leave session

end Step

end SeatBooks

/-- Nothing is in flight over a database, and the gauge says how many seats are in use. -/
def SeatBooks.opening (organization : Nat) (rows : Database) : SeatBooks :=
  ⟨rows, seatsInUse organization rows.seating, none, [], fun _ => none⟩

def SeatBooks.Quiet (state : SeatBooks) : Prop := ∀ session, state.sessions session = none

/-- Whenever no transaction is in flight, the gauge equals the seats in use. -/
def GaugeTrue (organization : Nat) (state : SeatBooks) : Prop :=
  state.Quiet → state.gauge = seatsInUse organization state.rows.seating

/-- When the gauge is written, as many seats are in use, with the transaction's own changes,
as were when it counted them. -/
def CountsStand (organization : Nat) (state : SeatBooks) : SeatAction → Prop
  | .advance session =>
      match state.sessions session with
      | some ⟨written, .counted active pending⟩ =>
          countSeats organization .active active + countSeats organization .invited pending =
            seatsInUse organization (reseatAll written state.rows.seating)
      | _ => True
  | _ => True

instance (organization : Nat) (state : SeatBooks) (action : SeatAction) :
    Decidable (CountsStand organization state action) := by
  unfold CountsStand
  split
  · split <;> infer_instance
  · infer_instance

/-! Statements and the seats. -/

theorem seating_congr {rows after : Database}
    (same : after.memberships.rows = rows.memberships.rows) : after.seating = rows.seating := by
  rw [Database.seating, Database.seating, same]

theorem Membership.changes_seat (loaded edited row : Membership) :
    (loaded.changes edited row).seat =
      if edited.status = loaded.status then row.seat else { row.seat with status := edited.status } := by
  by_cases unchanged : edited.status = loaded.status
  · rw [if_pos unchanged, Membership.seat, Membership.changes, if_pos unchanged]
    rfl
  · rw [if_neg unchanged, Membership.seat, Membership.changes, if_neg unchanged]
    rfl

theorem updateMembership_seating {loaded edited : Membership} {rows after : Database}
    (written : updateMembership loaded.id (loaded.changes edited) rows = .ok after) :
    after.seating = (Statement.updateMembership loaded edited).reseat rows.seating := by
  obtain ⟨member, memberships, found, accepted, stored⟩ := updateMembership_eq_ok written
  obtain ⟨here, same⟩ := Table.get_eq_some.mp found
  have listed := Table.put_rows accepted
  have seats : after.seating = rows.memberships.rows.map fun old =>
      if old.id = loaded.id then (loaded.changes edited old).seat else old.seat := by
    rw [Database.seating, stored, listed, List.map_map]
    apply List.map_congr_left
    intro old member_old
    change (if old.id = member.id then loaded.changes edited member else old).seat = _
    rw [show member.id = loaded.id from same]
    split
    · next matched =>
      have only : old = member := rows.memberships.eq_of_id member_old here (matched.trans same.symm)
      rw [only]
    · rfl
  rw [seats, Statement.reseat, Database.seating]
  simp only [Membership.changes_seat]
  by_cases unchanged : edited.status = loaded.status
  · simp [unchanged]
  · simp only [unchanged, if_false, List.map_map]
    rfl

/-- A statement does to the seats of a database what it says it does to seats. -/
theorem Statement.run_seating {statement : Statement} {rows after : Database}
    (written : statement.run rows = .ok after) : after.seating = statement.reseat rows.seating := by
  cases statement with
  | updateMembership loaded edited => exact updateMembership_seating written
  | insertMembership member =>
      obtain ⟨memberships, accepted, stored⟩ := insertMembership_eq_ok written
      rw [Database.seating, stored, Table.add_rows accepted, List.map_append]
      rfl
  | deleteMembership id =>
      have stored := Tables.check_eq_ok.mp written
      rw [Database.seating, stored, Statement.reseat, Database.seating, List.filter_map]
      rfl
  | insertOrganization | insertRole | updateRole | deleteRole | insertMembershipRole
  | deleteRolesOf | deleteHoldersOf | deleteRolePermissions | insertRolePermission =>
      exact seating_congr (congrArg Table.rows ((Statement.frame written).memberships Target.noConfusion))

theorem writeAll_seating {written : List Statement} {rows after : Database}
    (done : writeAll written rows = .ok after) : after.seating = reseatAll written rows.seating := by
  induction written generalizing rows with
  | nil =>
      cases done
      rfl
  | cons statement rest ih =>
      obtain ⟨middle, wrote, later⟩ := Result.bind_eq_ok.mp done
      rw [ih later, Statement.run_seating wrote]
      rfl

/-- Writes that change no standing leave the seats. -/
theorem reseatAll_idle {written : List Statement} {seats : List Seat}
    (idle : written.any Statement.changesStanding = false) : reseatAll written seats = seats := by
  induction written generalizing seats with
  | nil => rfl
  | cons statement rest ih =>
      simp only [List.any_cons, Bool.or_eq_false_iff] at idle
      have unchanged : statement.reseat seats = seats := by
        cases statement <;> simp_all [Statement.changesStanding, Statement.reseat]
      change reseatAll rest (statement.reseat seats) = seats
      rw [unchanged]
      exact ih idle.2

/-! The invariant. -/

/-- The gauge is true of what is committed, and the level a transaction has written will be
true of what it commits. -/
structure SeatInvariant (organization : Nat) (state : SeatBooks) : Prop where
  gauge : state.gauge = seatsInUse organization state.rows.seating
  level : ∀ id written level, state.sessions id = some ⟨written, .gaugeSet level⟩ →
    state.gaugeLock = some id ∧
      level = seatsInUse organization (reseatAll written state.rows.seating)

section Steps

variable {mailbox : String → String} {organization : Nat} {state : SeatBooks}

theorem SeatInvariant.enter (invariant : SeatInvariant organization state) (id : Nat)
    (written : List Statement) (phase : SeatPhase) (unset : ∀ level, phase ≠ .gaugeSet level) :
    SeatInvariant organization (state.enter id written phase) := by
  refine ⟨invariant.gauge, fun other entry level found => ?_⟩
  rcases Sessions.entered found with ⟨-, same⟩ | ⟨-, before⟩
  · cases same
    exact absurd rfl (unset level)
  · exact invariant.level other entry level before

theorem SeatInvariant.leave (invariant : SeatInvariant organization state) (id : Nat) :
    SeatInvariant organization (state.leave id) := by
  refine ⟨invariant.gauge, fun other entry level found => ?_⟩
  obtain ⟨different, before⟩ := Sessions.left found
  obtain ⟨locked, true_level⟩ := invariant.level other entry level before
  refine ⟨?_, true_level⟩
  change (if state.gaugeLock = some id then none else state.gaugeLock) = some other
  rw [locked, if_neg fun same => different (Option.some.inj same)]

/-- A commit that leaves the seats leaves the gauge. -/
theorem SeatInvariant.commit_idle (invariant : SeatInvariant organization state) (id : Nat)
    {view : Database} (same : view.seating = state.rows.seating) :
    SeatInvariant organization { state.leave id with rows := view } := by
  have left := invariant.leave id
  refine ⟨?_, fun other entry level found => ?_⟩
  · change state.gauge = seatsInUse organization view.seating
    rw [same]
    exact invariant.gauge
  · change _ ∧ level = seatsInUse organization (reseatAll entry view.seating)
    rw [same]
    exact left.level other entry level found

/-- While one transaction has the gauge written, no other has. -/
theorem SeatInvariant.commit (invariant : SeatInvariant organization state) {id : Nat}
    {written : List Statement} {level : Nat} {view : Database}
    (found : state.sessions id = some ⟨written, .gaugeSet level⟩)
    (done : writeAll written state.rows = .ok view) :
    SeatInvariant organization { state.leave id with rows := view, gauge := level } := by
  obtain ⟨locked, true_level⟩ := invariant.level id written level found
  refine ⟨?_, fun other entry late there => ?_⟩
  · change level = seatsInUse organization view.seating
    rw [writeAll_seating done]
    exact true_level
  · obtain ⟨different, before⟩ := Sessions.left there
    have other_locked := (invariant.level other entry late before).1
    rw [locked] at other_locked
    exact absurd (Option.some.inj other_locked).symm different

theorem SeatInvariant.set_gauge (invariant : SeatInvariant organization state) {id : Nat}
    {written : List Statement} {level : Nat} (free : state.gaugeLock = none)
    (true_level : level = seatsInUse organization (reseatAll written state.rows.seating)) :
    SeatInvariant organization
      { state.enter id written (.gaugeSet level) with gaugeLock := some id } := by
  refine ⟨invariant.gauge, fun other entry late found => ?_⟩
  rcases Sessions.entered found with ⟨own, same⟩ | ⟨-, before⟩
  · cases same
    exact ⟨by rw [own], true_level⟩
  · have locked := (invariant.level other entry late before).1
    rw [free] at locked
    cases locked

theorem SeatInvariant.work (invariant : SeatInvariant organization state) (id : Nat)
    {written : List Statement} {view : Database} (done : writeAll written state.rows = .ok view)
    (remaining : TenancyProc (Unit × IdentityMap)) :
    SeatInvariant organization (state.work id written view remaining) := by
  cases remaining with
  | done answer =>
      simp only [SeatBooks.work]
      split
      · exact invariant.enter id written _ (by simp)
      · next idle =>
        apply invariant.commit_idle id
        rw [writeAll_seating done]
        exact reseatAll_idle (by simpa using idle)
  | fail failure => exact invariant.leave id
  | select next => exact invariant.enter id written _ (by simp)
  | perform effect next => exact invariant.enter id written _ (by simp)
  | mutate statement next =>
      simp only [SeatBooks.work]
      split
      · exact invariant
      · split
        · have entered : SeatInvariant organization
              (state.enter id (written ++ [statement]) (.working next)) :=
            invariant.enter id (written ++ [statement]) _ (by simp)
          exact ⟨entered.gauge, entered.level⟩
        · exact invariant.leave id

theorem SeatInvariant.advance (invariant : SeatInvariant organization state) (id : Nat)
    (stand : CountsStand organization state (.advance id)) :
    SeatInvariant organization (state.advance organization id) := by
  unfold SeatBooks.advance
  cases found : state.sessions id with
  | none => exact invariant
  | some session =>
      obtain ⟨written, phase⟩ := session
      cases done : writeAll written state.rows with
      | error failure =>
          simp only [done]
          exact invariant.leave id
      | ok view =>
          simp only [done]
          cases phase with
          | working remaining => exact invariant.work id done remaining
          | activeCounted active =>
              exact invariant.enter id written (.counted active view.seating) (by simp)
          | counted active pending =>
              cases free : state.gaugeLock with
              | some holder => exact invariant
              | none =>
                  simp only [CountsStand, found] at stand
                  exact invariant.set_gauge free stand
          | gaugeSet level => exact invariant.commit found done

theorem SeatInvariant.step (invariant : SeatInvariant organization state) (action : SeatAction)
    (stand : CountsStand organization state action) :
    SeatInvariant organization (SeatBooks.step mailbox organization state action) := by
  cases action with
  | start id request =>
      simp only [SeatBooks.step]
      split
      · split
        · exact invariant.enter id [] _ (by simp)
        · exact invariant
      · exact invariant
  | advance id => exact invariant.advance id stand
  | rollback id => exact invariant.leave id

end Steps

theorem SeatInvariant.opening (organization : Nat) (rows : Database) :
    SeatInvariant organization (SeatBooks.opening organization rows) := by
  refine ⟨rfl, fun id written level found => ?_⟩
  cases found

theorem SeatInvariant.gaugeTrue {organization : Nat} {state : SeatBooks}
    (invariant : SeatInvariant organization state) : GaugeTrue organization state :=
  fun _ => invariant.gauge

/-- Whatever is interleaved, the seat gauge is true as long as every transaction writes it
while its counts stand. -/
theorem seat_gauge_of_counts_standing (mailbox : String → String) (organization : Nat)
    (rows : Database) (actions : List SeatAction)
    (stand : Runs.Guarded (SeatBooks.step mailbox organization) (CountsStand organization)
      (SeatBooks.opening organization rows) actions) :
    Runs.Always (SeatBooks.step mailbox organization) (GaugeTrue organization)
      (SeatBooks.opening organization rows) actions := by
  have always : Runs.Always (SeatBooks.step mailbox organization) (SeatInvariant organization)
      (SeatBooks.opening organization rows) actions :=
    Runs.always_of_guarded _ (fun _ action invariant met => invariant.step action met)
      (SeatInvariant.opening organization rows) stand
  exact always.mono _ fun _ invariant => invariant.gaugeTrue

/-! Two invitations at once. -/

section Elsewhere

variable {mailbox : String → String} {organization : Nat} {state : SeatBooks} {other : Nat}

def SeatAction.session : SeatAction → Nat
  | .start session _ | .advance session | .rollback session => session

/-- A step is taken by one session, and the others stay where they are. -/
theorem SeatBooks.step_elsewhere {action : SeatAction} (different : other ≠ action.session) :
    (SeatBooks.step mailbox organization state action).sessions other = state.sessions other := by
  cases action with
  | start id request =>
      simp only [SeatBooks.step]
      split
      · split
        · exact enter_elsewhere different
        · rfl
      · rfl
  | rollback id => exact leave_elsewhere different
  | advance id =>
      change (state.advance organization id).sessions other = _
      unfold SeatBooks.advance
      split
      · rfl
      · split
        · exact leave_elsewhere different
        · split
          · unfold SeatBooks.work
            split
            · split
              · exact enter_elsewhere different
              · exact leave_elsewhere different
            · exact leave_elsewhere different
            · exact enter_elsewhere different
            · split
              · rfl
              · split
                · exact enter_elsewhere different
                · exact leave_elsewhere different
            · exact enter_elsewhere different
          · exact enter_elsewhere different
          · split
            · rfl
            · exact enter_elsewhere different
          · exact leave_elsewhere different

theorem SeatBooks.run_elsewhere {actions : List SeatAction}
    (different : ∀ action ∈ actions, other ≠ action.session) :
    (Runs.run (SeatBooks.step mailbox organization) state actions).sessions other =
      state.sessions other :=
  Runs.run_untouched _ (fun state => state.sessions other)
    (fun _ action member => step_elsewhere (different action member)) state

end Elsewhere

/-- An organization with its owner. -/
def staffed : Database where
  users := ⟨[⟨1, "founder@acme.test"⟩], 2, by decide⟩
  organizations := ⟨[⟨1, "acme", "Acme", some 1, false⟩], 2, by decide⟩
  memberships := ⟨[⟨10, 1, some 1, none, none, .active, []⟩], 11, by decide⟩
  roles := ⟨[⟨1, none, "owner", "Owner", none, true⟩, ⟨2, none, "member", "Member", none, true⟩], 3,
    by decide⟩
  permissions := .empty
  rolePermissions := ∅
  membershipRoles := {(10, 1)}
  references := by decide

def invite (membershipId : Nat) (email : String) : TenancyRequest :=
  .inviteMember membershipId 1 email [] none email

def advances (session count : Nat) : List SeatAction := List.replicate count (.advance session)

/-- One after the other, two invitations are both in the gauge. -/
theorem seat_gauge_sequential :
    Runs.Always (SeatBooks.step id 1) (GaugeTrue 1) (SeatBooks.opening 1 staffed)
      (.start 1 (invite 11 "ann@acme.test") :: advances 1 11 ++
        .start 2 (invite 12 "bob@acme.test") :: advances 2 11) :=
  seat_gauge_of_counts_standing id 1 staffed _ (by decide +kernel)

/-- Two invitations that both count before either has written the gauge. -/
def invitations : List SeatAction :=
  .start 1 (invite 11 "ann@acme.test") :: .start 2 (invite 12 "bob@acme.test") ::
    (advances 1 9 ++ advances 2 9 ++ advances 1 2 ++ advances 2 2)

theorem seat_gauge_behind :
    ¬ Runs.Always (SeatBooks.step id 1) (GaugeTrue 1) (SeatBooks.opening 1 staffed) invitations ∧
      (Runs.run (SeatBooks.step id 1) (SeatBooks.opening 1 staffed) invitations).gauge = 2 ∧
      seatsInUse 1
        (Runs.run (SeatBooks.step id 1) (SeatBooks.opening 1 staffed) invitations).rows.seating = 3 := by
  have gauge :
      (Runs.run (SeatBooks.step id 1) (SeatBooks.opening 1 staffed) invitations).gauge = 2 := by
    decide +kernel
  have seats : seatsInUse 1
      (Runs.run (SeatBooks.step id 1) (SeatBooks.opening 1 staffed) invitations).rows.seating = 3 := by
    decide +kernel
  refine ⟨fun always => ?_, gauge, seats⟩
  have quiet : (Runs.run (SeatBooks.step id 1) (SeatBooks.opening 1 staffed) invitations).Quiet := by
    intro session
    by_cases first : session = 1
    · subst first
      exact Option.isNone_iff_eq_none.mp (by decide +kernel)
    · by_cases second : session = 2
      · subst second
        exact Option.isNone_iff_eq_none.mp (by decide +kernel)
      · exact SeatBooks.run_elsewhere (by simp [invitations, advances, SeatAction.session, first, second])
  have equal := always.last (SeatBooks.step id 1) quiet
  rw [gauge, seats] at equal
  cases equal

end SynapseSaas.Tenancy
