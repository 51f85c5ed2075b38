import SynapseSaas.FeatureFlags.Service
import SynapseSaas.Foundation.Runs
import SynapseSaas.Foundation.Sessions

/-! Requests that set and delete overrides, beside each other: each reads what is committed,
writes one row at most, and commits. Rows are read without a lock; a row that a transaction has
updated or deleted stays locked until it ends. -/

set_option autoImplicit false

namespace SynapseSaas.FeatureFlags

/-- What a request writes. -/
inductive Write where
  | insert (enabled : Bool) (note : Option String)
  /-- Only the columns that differ from what was read are written. -/
  | revise (id : Nat) (enabled switches : Bool) (note : Option (Option String))
  /-- The override was read as it is wanted. -/
  | keep (enabled : Bool)
  | remove (id : Nat)
  /-- The row to delete is gone. -/
  | nothing
  deriving DecidableEq, Repr

/-- The row that a write updates or deletes. -/
def Write.target : Write → Option Nat
  | .revise id _ _ _ | .remove id => some id
  | .insert _ _ | .keep _ | .nothing => none

structure FlagSession where
  scope : Scope
  write : Write
  flushed : Bool
  deriving DecidableEq, Repr

/-- `set_override` up to its flush. -/
def setOverride (flags : Table FeatureFlag) (overrides : List FeatureFlagOverride) (flagKey : String)
    (organizationId userId : Option Nat) (enabled : Bool) (note : Option String) :
    Except FlagError FlagSession := do
  match ← findFlag flags flagKey with
  | none => throw (.flagNotFound flagKey)
  | some flag =>
      if flag.archived then throw (.flagNotFound flagKey)
      match Subject.named organizationId userId with
      | none => throw .notExactlyOne
      | some subject =>
          match ← findOverride overrides flagKey organizationId userId with
          | none => return ⟨⟨flagKey, subject⟩, .insert enabled note, false⟩
          | some existing =>
              if existing.enabled = enabled ∧ existing.note = note then
                return ⟨⟨flagKey, subject⟩, .keep enabled, false⟩
              else
                return ⟨⟨flagKey, subject⟩,
                  .revise existing.id enabled (existing.enabled ≠ enabled)
                    (if existing.note = note then none else some note), false⟩

/-- The scope of an override that is for one subject. -/
def FeatureFlagOverride.scope? (row : FeatureFlagOverride) : Option Scope :=
  (Subject.named row.organizationId row.userId).map fun subject => ⟨row.flagKey, subject⟩

/-- `delete_override` up to its flush; overrides are for one subject each. -/
def deleteOverride (overrides : Table FeatureFlagOverride) (overrideId : Nat) :
    Except FlagError FlagSession :=
  match (overrides.get overrideId).bind fun row => row.scope?.map fun scope => (row, scope) with
  | none => throw .overrideNotFound
  | some (row, scope) => return ⟨scope, .remove row.id, false⟩

structure FlagBooks where
  flags : Table FeatureFlag
  known : Subject → Bool                      -- the organizations and users there are
  overrides : Table FeatureFlagOverride := Table.empty
  rowLocks : List (Nat × Nat) := []           -- a session and the override it has written
  sessions : Nat → Option FlagSession := fun _ => none
  log : List (Scope × Option Bool) := []      -- what was committed for a scope, latest first

inductive FlagAction where
  | setOverride (session : Nat) (flagKey : String) (organizationId userId : Option Nat)
      (enabled : Bool) (note : Option String)
  | deleteOverride (session overrideId : Nat)
  | flush (session : Nat)
  | commit (session : Nat)
  | rollback (session : Nat)
  deriving DecidableEq, Repr

/-- The row of a new override. -/
def newOverride (scope : Scope) (enabled : Bool) (note : Option String) (id : Nat) :
    FeatureFlagOverride :=
  ⟨id, scope.flagKey, scope.subject.organizationId, scope.subject.userId, enabled, note⟩

/-- UPDATE of the row with an id. -/
def reviseOverride (overrides : Table FeatureFlagOverride) (id : Nat) (enabled switches : Bool)
    (note : Option (Option String)) : Table FeatureFlagOverride :=
  overrides.revise
    (fun row =>
      if row.id = id then
        { row with enabled := if switches then enabled else row.enabled, note := note.getD row.note }
      else row)
    fun row => by
      split
      · exact ⟨rfl, rfl⟩
      · exact ⟨rfl, rfl⟩

def Write.apply (overrides : Table FeatureFlagOverride) (scope : Scope) :
    Write → Table FeatureFlagOverride
  | .insert enabled note => (overrides.insert (newOverride scope enabled note)).getD overrides
  | .revise id enabled switches note => reviseOverride overrides id enabled switches note
  | .remove id => overrides.remove id
  | .keep _ | .nothing => overrides

/-- What a committed request decided for its scope. -/
def Write.decision (scope : Scope) : Write → List (Scope × Option Bool)
  | .insert enabled _ | .revise _ enabled _ _ | .keep enabled => [(scope, some enabled)]
  | .remove _ => [(scope, none)]
  | .nothing => []

namespace FlagBooks

def enter (state : FlagBooks) (id : Nat) (session : FlagSession) : FlagBooks :=
  { state with sessions := Function.update state.sessions id (some session) }

def leave (state : FlagBooks) (id : Nat) : FlagBooks :=
  { state with
    rowLocks := state.rowLocks.filter fun lock => lock.1 ≠ id
    sessions := Function.update state.sessions id none }

/-- A new transaction, with what its request has come to; refused, it has written nothing. -/
def start (state : FlagBooks) (id : Nat) (request : Except FlagError FlagSession) : FlagBooks :=
  match state.sessions id, request with
  | none, .ok session => state.enter id session
  | _, _ => state

/-- Another transaction has written the row. -/
def blocked (state : FlagBooks) (id row : Nat) : Bool :=
  state.rowLocks.any fun lock => lock.2 = row ∧ lock.1 ≠ id

/-- The statement of the flush. An UPDATE that matches no row fails, a DELETE does not. -/
def flush (state : FlagBooks) (id : Nat) (session : FlagSession) : FlagBooks :=
  let flushed := { session with flushed := true }
  match session.write with
  | .insert _ _ =>
      if state.known session.scope.subject then state.enter id flushed else state.leave id
  | .keep _ | .nothing => state.enter id flushed
  | .revise row _ _ _ =>
      if state.blocked id row then state
      else if (state.overrides.get row).isSome then
        { state.enter id flushed with rowLocks := state.rowLocks ++ [(id, row)] }
      else state.leave id
  | .remove row =>
      if state.blocked id row then state
      else if (state.overrides.get row).isSome then
        { state.enter id flushed with rowLocks := state.rowLocks ++ [(id, row)] }
      else state.enter id { flushed with write := .nothing }

def step (state : FlagBooks) : FlagAction → FlagBooks
  | .setOverride id flagKey organizationId userId enabled note =>
      state.start id (FeatureFlags.setOverride state.flags state.overrides.rows flagKey
        organizationId userId enabled note)
  | .deleteOverride id overrideId =>
      state.start id (FeatureFlags.deleteOverride state.overrides overrideId)
  | .flush id =>
      match state.sessions id with
      | some session => if session.flushed then state else state.flush id session
      | none => state
  | .commit id =>
      match state.sessions id with
      | some session =>
          if session.flushed then
            { state.leave id with
              overrides := session.write.apply state.overrides session.scope
              log := session.write.decision session.scope ++ state.log }
          else state
      | none => state
  | .rollback id => state.leave id

end FlagBooks

/-- The last override that was committed for a scope and not deleted since. -/
def lastDecision (log : List (Scope × Option Bool)) (scope : Scope) : Option Bool :=
  (log.find? fun entry => entry.1 = scope).bind (·.2)

/-- No scope has two overrides, evaluation does not fail, and what it goes by is the last
override that was committed. -/
structure OverridesDecide (digest : String → Nat) (str : Nat → String) (state : FlagBooks) :
    Prop where
  one : ∀ scope, (rowsOf state.overrides.rows scope).length ≤ 1
  last : ∀ scope, standing state.overrides.rows scope = lastDecision state.log scope
  evaluates : ∀ flagKey organizationId userId,
    evaluate digest str state.flags state.overrides.rows flagKey organizationId userId =
      .ok (resolve digest str (lastDecision state.log) state.flags flagKey organizationId userId)

/-- A transaction that found no override commits while there is none; one that found the value
it wants, and so does not write it, commits while an override with that value stands. -/
def ReadStands (state : FlagBooks) : FlagAction → Prop
  | .commit id =>
      match state.sessions id with
      | some ⟨scope, .insert _ _, true⟩ => rowsOf state.overrides.rows scope = []
      | some ⟨scope, .revise _ enabled false _, true⟩ | some ⟨scope, .keep enabled, true⟩ =>
          ∃ row ∈ rowsOf state.overrides.rows scope, row.enabled = enabled
      | _ => True
  | _ => True

instance (state : FlagBooks) (action : FlagAction) : Decidable (ReadStands state action) := by
  unfold ReadStands
  split
  · split <;> infer_instance
  · infer_instance

/-- No override yet and no transaction under way. -/
def opening (flags : Table FeatureFlag) (known : Subject → Bool) : FlagBooks :=
  { flags := flags, known := known }

/-! What a committed write makes of the overrides and the log. -/

/-- The overrides are what the log says, scope by scope. -/
def Follows (overrides : Table FeatureFlagOverride) (log : List (Scope × Option Bool)) : Prop :=
  ∀ scope, (rowsOf overrides.rows scope).map (·.enabled) = (lastDecision log scope).toList

section Follows

variable {overrides : Table FeatureFlagOverride} {log : List (Scope × Option Bool)} {scope : Scope}

theorem lastDecision_cons (decided : Option Bool) (other : Scope) :
    lastDecision ((scope, decided) :: log) other =
      if scope = other then decided else lastDecision log other := by
  by_cases same : scope = other
  · simp [lastDecision, same]
  · simp [lastDecision, same]

theorem Follows.one (follows : Follows overrides log) (scope : Scope) :
    (rowsOf overrides.rows scope).length ≤ 1 := by
  have same := congrArg List.length (follows scope)
  rw [List.length_map] at same
  rw [same]
  cases lastDecision log scope <;> simp

theorem Follows.standing_eq (follows : Follows overrides log) (scope : Scope) :
    standing overrides.rows scope = lastDecision log scope := by
  rw [standing, ← List.head?_map, follows scope]
  cases lastDecision log scope <;> rfl

/-- A row that is there is the only one of its scope. -/
theorem Follows.only (follows : Follows overrides log) {row : FeatureFlagOverride}
    (here : row ∈ overrides.rows) (own : row.within scope) : rowsOf overrides.rows scope = [row] := by
  have member : row ∈ rowsOf overrides.rows scope := List.mem_filter.mpr ⟨here, own⟩
  have few := follows.one scope
  match found : rowsOf overrides.rows scope with
  | [] => simp [found] at member
  | [other] =>
      rw [found, List.mem_singleton] at member
      rw [member]
  | _ :: _ :: _ => simp [found] at few

/-- A change of one scope's rows and of its last decision keeps every other scope as it is. -/
theorem Follows.cons_iff {next : Table FeatureFlagOverride} {decided : Option Bool}
    (follows : Follows overrides log)
    (elsewhere : ∀ other, scope ≠ other → rowsOf next.rows other = rowsOf overrides.rows other) :
    Follows next ((scope, decided) :: log) ↔
      (rowsOf next.rows scope).map (·.enabled) = decided.toList := by
  constructor
  · intro all
    have own := all scope
    rwa [lastDecision_cons, if_pos rfl] at own
  · intro own other
    rw [lastDecision_cons]
    split
    · next same => rwa [← same]
    · next different => rw [elsewhere other different, follows other]

theorem newOverride_within (scope : Scope) (enabled : Bool) (note : Option String) (id : Nat) :
    (newOverride scope enabled note id).within scope :=
  within_iff.mpr ⟨rfl, rfl, rfl⟩

/-- An override can always be inserted: no index on overrides is unique. -/
theorem insert_override (overrides : Table FeatureFlagOverride) (scope : Scope) (enabled : Bool)
    (note : Option String) :
    ((Write.insert enabled note).apply overrides scope).rows =
        overrides.rows ++ [newOverride scope enabled note overrides.next] ∧
      ((Write.insert enabled note).apply overrides scope).next = overrides.next + 1 := by
  obtain ⟨next, inserted⟩ := overrides.insert_accepted (newOverride scope enabled note) rfl
    fun _ _ key other => key.elim
  have applied : (Write.insert enabled note).apply overrides scope = next := by
    rw [Write.apply, inserted]
    rfl
  rw [applied]
  exact ⟨Table.insert_rows inserted, Table.insert_next inserted⟩

theorem Follows.insert_iff (follows : Follows overrides log) (enabled : Bool) (note : Option String) :
    Follows ((Write.insert enabled note).apply overrides scope) ((scope, some enabled) :: log) ↔
      rowsOf overrides.rows scope = [] := by
  have rows := (insert_override overrides scope enabled note).1
  have own := newOverride_within scope enabled note overrides.next
  rw [follows.cons_iff]
  · rw [rows, rowsOf, List.filter_append, List.filter_singleton, own, ← rowsOf, List.map_append]
    simp [newOverride]
  · intro other different
    have foreign : (newOverride scope enabled note overrides.next).within other = false := by
      by_contra inside
      exact different (within_unique own (by simpa using inside))
    rw [rows, rowsOf, List.filter_append, List.filter_singleton, foreign]
    simp [rowsOf]

theorem reviseOverride_within {id : Nat} {enabled switches : Bool} {note : Option (Option String)}
    (row : FeatureFlagOverride) (other : Scope) :
    (if row.id = id then
      { row with enabled := if switches then enabled else row.enabled, note := note.getD row.note }
      else row).within other = row.within other := by
  split <;> rfl

theorem Follows.revise_iff (follows : Follows overrides log) {row : FeatureFlagOverride}
    (here : row ∈ overrides.rows) (own : row.within scope) (enabled switches : Bool)
    (note : Option (Option String)) :
    Follows (reviseOverride overrides row.id enabled switches note) ((scope, some enabled) :: log) ↔
      (switches = false → ∃ row ∈ rowsOf overrides.rows scope, row.enabled = enabled) := by
  have only := follows.only here own
  have rows (other : Scope) : rowsOf (reviseOverride overrides row.id enabled switches note).rows other =
      (rowsOf overrides.rows other).map fun old =>
        if old.id = row.id then
          { old with enabled := if switches then enabled else old.enabled, note := note.getD old.note }
        else old := by
    rw [reviseOverride, Table.revise, rowsOf, List.filter_map]
    congr 1
    apply List.filter_congr
    intro old _
    exact reviseOverride_within old other
  rw [follows.cons_iff]
  · rw [rows, only]
    cases switches <;> simp
  · intro other different
    rw [rows]
    -- The revised row is of another scope.
    have untouched : ∀ old ∈ rowsOf overrides.rows other, ¬ old.id = row.id := by
      intro old member same
      obtain ⟨there, inside⟩ := List.mem_filter.mp member
      rw [overrides.eq_of_id there here same] at inside
      exact different (within_unique own inside)
    rw [List.map_congr_left fun old member => if_neg (untouched old member), List.map_id'']
    exact fun _ => rfl

theorem Follows.keep_iff (follows : Follows overrides log) (enabled : Bool) :
    Follows overrides ((scope, some enabled) :: log) ↔
      ∃ row ∈ rowsOf overrides.rows scope, row.enabled = enabled := by
  rw [follows.cons_iff fun _ _ => rfl]
  match found : rowsOf overrides.rows scope with
  | [] => simp
  | [row] => simp
  | _ :: _ :: _ =>
      have few := follows.one scope
      simp [found] at few

theorem Follows.remove (follows : Follows overrides log) {row : FeatureFlagOverride}
    (here : row ∈ overrides.rows) (own : row.within scope) :
    Follows (overrides.remove row.id) ((scope, none) :: log) := by
  have rows (other : Scope) : rowsOf (overrides.remove row.id).rows other =
      (rowsOf overrides.rows other).filter fun old => old.id ≠ row.id := by
    rw [Table.remove, rowsOf, rowsOf, List.filter_comm]
    rfl
  apply (follows.cons_iff _).mpr
  · rw [rows, follows.only here own]
    simp
  · intro other different
    rw [rows, List.filter_eq_self]
    intro old member
    obtain ⟨there, inside⟩ := List.mem_filter.mp member
    apply decide_eq_true
    intro same
    rw [overrides.eq_of_id there here same] at inside
    exact different (within_unique own inside)

end Follows

/-! What a write does to the rows. -/

/-- A row is a former one in what identifies it, or the new one. -/
theorem Write.mem_apply {overrides : Table FeatureFlagOverride} {scope : Scope} {write : Write}
    {row : FeatureFlagOverride} (here : row ∈ (write.apply overrides scope).rows) :
    (∃ old ∈ overrides.rows, old.id = row.id ∧ ∀ other, old.within other = row.within other) ∨
      row.id = overrides.next ∧ row.within scope := by
  cases write with
  | insert enabled note =>
      rw [(insert_override overrides scope enabled note).1, List.mem_append, List.mem_singleton] at here
      rcases here with here | rfl
      · exact .inl ⟨row, here, rfl, fun _ => rfl⟩
      · exact .inr ⟨rfl, newOverride_within scope enabled note overrides.next⟩
  | revise id enabled switches note =>
      obtain ⟨old, there, rfl⟩ := List.mem_map.mp here
      refine .inl ⟨old, there, ?_, fun other => (reviseOverride_within old other).symm⟩
      split <;> rfl
  | remove id => exact .inl ⟨row, (Table.mem_remove.mp here).1, rfl, fun _ => rfl⟩
  | keep enabled => exact .inl ⟨row, here, rfl, fun _ => rfl⟩
  | nothing => exact .inl ⟨row, here, rfl, fun _ => rfl⟩

/-- A row is there after every write but its own deletion. -/
theorem Write.survives {overrides : Table FeatureFlagOverride} (scope : Scope) {write : Write}
    {row : FeatureFlagOverride} (here : row ∈ overrides.rows) (spared : write.target ≠ some row.id) :
    ∃ other ∈ (write.apply overrides scope).rows, other.id = row.id := by
  cases write with
  | insert enabled note =>
      rw [(insert_override overrides scope enabled note).1]
      exact ⟨row, List.mem_append_left _ here, rfl⟩
  | revise id enabled switches note =>
      refine ⟨_, List.mem_map_of_mem here, ?_⟩
      split <;> rfl
  | remove id =>
      refine ⟨row, Table.mem_remove.mpr ⟨here, ?_⟩, rfl⟩
      intro same
      exact spared (congrArg some same).symm
  | keep enabled => exact ⟨row, here, rfl⟩
  | nothing => exact ⟨row, here, rfl⟩

theorem Write.next_le_apply (overrides : Table FeatureFlagOverride) (scope : Scope) (write : Write) :
    overrides.next ≤ (write.apply overrides scope).next := by
  cases write with
  | insert enabled note =>
      rw [(insert_override overrides scope enabled note).2]
      exact Nat.le_succ _
  | revise id enabled switches note => exact Nat.le_refl _
  | remove id => exact Nat.le_refl _
  | keep enabled => exact Nat.le_refl _
  | nothing => exact Nat.le_refl _

/-! What a request comes to before its flush. -/

theorem named_eq_some {organizationId userId : Option Nat} {subject : Subject} :
    Subject.named organizationId userId = some subject ↔
      organizationId = subject.organizationId ∧ userId = subject.userId := by
  cases subject <;> cases organizationId <;> cases userId <;>
    simp [Subject.named, Subject.organizationId, Subject.userId]

theorem scalarOneOrNone_some {Row : Type} {rows : List Row} {row : Row}
    (found : scalarOneOrNone rows = .ok (some row)) : row ∈ rows := by
  match rows with
  | [] => cases found
  | [only] =>
      cases found
      exact List.mem_singleton_self _
  | _ :: _ :: _ => cases found

/-- Not flushed yet, a request aims at a row of its scope, if at any. -/
def Aims (overrides : Table FeatureFlagOverride) (session : FlagSession) : Prop :=
  session.flushed = false ∧ ∀ target, session.write.target = some target →
    ∃ row ∈ overrides.rows, row.id = target ∧ row.within session.scope

theorem setOverride_aims {flags : Table FeatureFlag} {overrides : Table FeatureFlagOverride}
    (owned : ∀ row ∈ overrides.rows, row.Scoped) {flagKey : String} {organizationId userId : Option Nat}
    {enabled : Bool} {note : Option String} {session : FlagSession}
    (accepted : setOverride flags overrides.rows flagKey organizationId userId enabled note =
      .ok session) : Aims overrides session := by
  rw [setOverride, findFlag_eq] at accepted
  cases known : (flags.rows.filter fun flag => flag.key = flagKey ∧ flag.archived = false).head? with
  | none =>
      simp only [known, bind, Except.bind] at accepted
      cases accepted
  | some flag =>
      simp only [known, bind, Except.bind] at accepted
      split at accepted
      · cases accepted
      cases named : Subject.named organizationId userId with
      | none => simp [named, throw, throwThe, MonadExceptOf.throw] at accepted
      | some subject =>
          obtain ⟨rfl, rfl⟩ := named_eq_some.mp named
          simp only [named, findOverride_scope owned ⟨flagKey, subject⟩] at accepted
          cases found : scalarOneOrNone (rowsOf overrides.rows ⟨flagKey, subject⟩) with
          | error failure => simp [found] at accepted
          | ok existing =>
              rw [found] at accepted
              cases existing with
              | none =>
                  cases accepted
                  exact ⟨rfl, fun target aimed => by cases aimed⟩
              | some row =>
                  obtain ⟨here, own⟩ := List.mem_filter.mp (scalarOneOrNone_some found)
                  simp only at accepted
                  split at accepted
                  · cases accepted
                    exact ⟨rfl, fun target aimed => by cases aimed⟩
                  · cases accepted
                    refine ⟨rfl, fun target aimed => ?_⟩
                    cases aimed
                    exact ⟨row, here, rfl, own⟩

theorem deleteOverride_aims {overrides : Table FeatureFlagOverride} {overrideId : Nat}
    {session : FlagSession} (accepted : deleteOverride overrides overrideId = .ok session) :
    Aims overrides session := by
  rw [deleteOverride] at accepted
  cases found : (overrides.get overrideId).bind fun row => row.scope?.map fun scope => (row, scope) with
  | none => simp [found, throw, throwThe, MonadExceptOf.throw] at accepted
  | some pair =>
      obtain ⟨row, here, scope, own, rfl⟩ := by
        simpa [Option.bind_eq_some_iff, Option.map_eq_some_iff] using found
      rw [found] at accepted
      cases accepted
      obtain ⟨subject, named, rfl⟩ := Option.map_eq_some_iff.mp own
      obtain ⟨organization, user⟩ := named_eq_some.mp named
      refine ⟨rfl, fun target aimed => ?_⟩
      cases aimed
      exact ⟨row, (Table.get_eq_some.mp here).1, rfl, within_iff.mpr ⟨rfl, organization, user⟩⟩

/-- What every step keeps: each override is for one subject, a transaction writes a row of its
own scope, and one that has written it holds its lock alone while the row is there. -/
structure FlagInvariant (state : FlagBooks) : Prop where
  owned : ∀ row ∈ state.overrides.rows, row.Scoped
  aimed : ∀ id session target, state.sessions id = some session →
    session.write.target = some target → target < state.overrides.next ∧
      ∀ row ∈ state.overrides.rows, row.id = target → row.within session.scope
  held : ∀ id session target, state.sessions id = some session → session.flushed = true →
    session.write.target = some target → (id, target) ∈ state.rowLocks ∧
      ∃ row ∈ state.overrides.rows, row.id = target
  exclusive : ∀ first ∈ state.rowLocks, ∀ second ∈ state.rowLocks, first.2 = second.2 →
    first.1 = second.1

theorem opening_invariant (flags : Table FeatureFlag) (known : Subject → Bool) :
    FlagInvariant (opening flags known) where
  owned row here := by cases here
  aimed id session target running := by cases running
  held id session target running := by cases running
  exclusive first here := by cases here

theorem sessions_enter (state : FlagBooks) (id : Nat) (session : FlagSession) (other : Nat) :
    (state.enter id session).sessions other =
      if other = id then some session else state.sessions other :=
  Function.update_apply _ _ _ _

theorem sessions_leave (state : FlagBooks) (id other : Nat) :
    (state.leave id).sessions other = if other = id then none else state.sessions other :=
  Function.update_apply _ _ _ _

section Invariant

variable {state : FlagBooks} {id : Nat} {session : FlagSession}

/-- A session that enters, or changes, must meet its part of the invariant. -/
theorem FlagInvariant.enter (invariant : FlagInvariant state)
    (aimed : ∀ target, session.write.target = some target → target < state.overrides.next ∧
      ∀ row ∈ state.overrides.rows, row.id = target → row.within session.scope)
    (held : session.flushed = true → ∀ target, session.write.target = some target →
      (id, target) ∈ state.rowLocks ∧ ∃ row ∈ state.overrides.rows, row.id = target) :
    FlagInvariant (state.enter id session) where
  owned := invariant.owned
  aimed other running target here := by
    rw [sessions_enter] at here
    split at here
    · cases here
      exact aimed target
    · exact invariant.aimed other running target here
  held other running target here := by
    rw [sessions_enter] at here
    split at here
    · next mine =>
        cases mine
        cases here
        exact fun done => held done target
    · exact invariant.held other running target here
  exclusive := invariant.exclusive

theorem FlagInvariant.leave (invariant : FlagInvariant state) (id : Nat) :
    FlagInvariant (state.leave id) where
  owned := invariant.owned
  aimed other running target here := by
    rw [sessions_leave] at here
    split at here
    · cases here
    · exact invariant.aimed other running target here
  held other running target here done hits := by
    rw [sessions_leave] at here
    split at here
    · cases here
    · next apart =>
        obtain ⟨locked, there⟩ := invariant.held other running target here done hits
        exact ⟨List.mem_filter.mpr ⟨locked, decide_eq_true apart⟩, there⟩
  exclusive first mine second yours :=
    invariant.exclusive first (List.mem_filter.mp mine).1 second (List.mem_filter.mp yours).1

/-- A row that no other transaction has written can be locked. -/
theorem FlagInvariant.lock (invariant : FlagInvariant state) {row : Nat}
    (free : state.blocked id row = false) :
    FlagInvariant { state with rowLocks := state.rowLocks ++ [(id, row)] } where
  owned := invariant.owned
  aimed := invariant.aimed
  held other running target here done hits := by
    obtain ⟨locked, there⟩ := invariant.held other running target here done hits
    exact ⟨List.mem_append_left _ locked, there⟩
  exclusive := by
    have own : ∀ lock ∈ state.rowLocks, lock.2 = row → lock.1 = id := by
      simpa [FlagBooks.blocked] using free
    intro first mine second yours same
    rw [List.mem_append, List.mem_singleton] at mine yours
    rcases mine with mine | rfl <;> rcases yours with yours | rfl
    · exact invariant.exclusive first mine second yours same
    · exact own first mine same
    · exact (own second yours same.symm).symm
    · rfl

theorem FlagInvariant.start (invariant : FlagInvariant state) (id : Nat)
    {request : Except FlagError FlagSession}
    (aims : ∀ session, request = .ok session → Aims state.overrides session) :
    FlagInvariant (state.start id request) := by
  unfold FlagBooks.start
  split
  · next session _ =>
      obtain ⟨waits, aims⟩ := aims session rfl
      refine invariant.enter (fun target hits => ?_) fun done => by simp [waits] at done
      obtain ⟨row, here, rfl, own⟩ := aims target hits
      refine ⟨state.overrides.id_lt_next here, fun other there same => ?_⟩
      rwa [state.overrides.eq_of_id there here same]
  · exact invariant

theorem FlagInvariant.flush (invariant : FlagInvariant state)
    (running : state.sessions id = some session) : FlagInvariant (state.flush id session) := by
  have aimed := fun target => invariant.aimed id session target running
  -- A statement on a row needs its lock, and the row; a DELETE without the row writes nothing.
  have locking (row : Nat) (hits : session.write.target = some row)
      (free : ¬ state.blocked id row = true) (found : (state.overrides.get row).isSome = true) :
      FlagInvariant { state.enter id { session with flushed := true } with
        rowLocks := state.rowLocks ++ [(id, row)] } := by
    obtain ⟨old, found⟩ := Option.isSome_iff_exists.mp found
    obtain ⟨here, same⟩ := Table.get_eq_some.mp found
    refine (invariant.lock (by simpa using free)).enter aimed fun _ target other => ?_
    cases hits.symm.trans other
    exact ⟨List.mem_append_right _ (List.mem_singleton_self _), old, here, same⟩
  obtain ⟨scope, write, flushed⟩ := session
  unfold FlagBooks.flush
  cases write with
  | insert enabled note =>
      simp only
      split
      · exact invariant.enter aimed fun _ target hits => by cases hits
      · exact invariant.leave id
  | keep enabled => exact invariant.enter aimed fun _ target hits => by cases hits
  | nothing => exact invariant.enter aimed fun _ target hits => by cases hits
  | revise row enabled switches note =>
      simp only
      split
      · exact invariant
      · next free =>
          split
          · next found => exact locking row rfl free found
          · exact invariant.leave id
  | remove row =>
      simp only
      split
      · exact invariant
      · next free =>
          split
          · next found => exact locking row rfl free found
          · exact invariant.enter (fun target hits => by cases hits) fun _ target hits => by cases hits

theorem FlagInvariant.commit (invariant : FlagInvariant state)
    (running : state.sessions id = some session) (flushed : session.flushed = true) :
    FlagInvariant { state.leave id with
      overrides := session.write.apply state.overrides session.scope
      log := session.write.decision session.scope ++ state.log } := by
  have left := invariant.leave id
  constructor
  · intro row here
    rcases Write.mem_apply here with ⟨old, there, -, same⟩ | ⟨-, own⟩
    · obtain ⟨scope, own⟩ := invariant.owned old there
      exact ⟨scope, same scope ▸ own⟩
    · exact ⟨session.scope, own⟩
  · intro other running' target there hits
    obtain ⟨bounded, own⟩ := left.aimed other running' target there hits
    have next := Write.next_le_apply state.overrides session.scope session.write
    refine ⟨Nat.lt_of_lt_of_le bounded next, fun row here same => ?_⟩
    rcases Write.mem_apply here with ⟨old, before, unchanged, within⟩ | ⟨fresh, -⟩
    · exact within running'.scope ▸ own old before (unchanged.trans same)
    · exact absurd (fresh.symm.trans same) (Nat.ne_of_gt bounded)
  · intro other running' target there done hits
    obtain ⟨locked, row, here, same⟩ := left.held other running' target there done hits
    obtain ⟨locked, apart⟩ := List.mem_filter.mp locked
    -- The lock of the committing transaction is on another row.
    have spared : session.write.target ≠ some row.id := by
      intro mine
      have ours := (invariant.held id session row.id running flushed mine).1
      exact of_decide_eq_true apart (invariant.exclusive _ locked _ ours same.symm)
    obtain ⟨survivor, after, keeps⟩ := Write.survives session.scope here spared
    exact ⟨List.mem_filter.mpr ⟨locked, apart⟩, survivor, after, keeps.trans same⟩
  · exact left.exclusive

theorem step_invariant (state : FlagBooks) (action : FlagAction) (invariant : FlagInvariant state) :
    FlagInvariant (state.step action) := by
  cases action with
  | setOverride id flagKey organizationId userId enabled note =>
      exact invariant.start id fun _ accepted => setOverride_aims invariant.owned accepted
  | deleteOverride id overrideId =>
      exact invariant.start id fun _ accepted => deleteOverride_aims accepted
  | flush id =>
      unfold FlagBooks.step
      simp only
      split
      · next running =>
          split
          · exact invariant
          · exact invariant.flush running
      · exact invariant
  | commit id =>
      unfold FlagBooks.step
      simp only
      split
      · next running =>
          split
          · next flushed => exact invariant.commit running flushed
          · exact invariant
      · exact invariant
  | rollback id => exact invariant.leave id

end Invariant

/-- Only a commit writes what others read. -/
theorem step_follows (state : FlagBooks) {action : FlagAction} (other : ∀ id, action ≠ .commit id) :
    (state.step action).overrides = state.overrides ∧ (state.step action).log = state.log := by
  have starts (id : Nat) (request : Except FlagError FlagSession) :
      (state.start id request).overrides = state.overrides ∧ (state.start id request).log = state.log := by
    unfold FlagBooks.start
    split
    · exact ⟨rfl, rfl⟩
    · exact ⟨rfl, rfl⟩
  cases action with
  | setOverride id flagKey organizationId userId enabled note => exact starts id _
  | deleteOverride id overrideId => exact starts id _
  | flush id =>
      unfold FlagBooks.step FlagBooks.flush
      simp only
      (repeat' split) <;> exact ⟨rfl, rfl⟩
  | commit id => exact absurd rfl (other id)
  | rollback id => exact ⟨rfl, rfl⟩

/-- The log stays right exactly where a commit finds what its transaction has read. -/
theorem step_follows_iff {state : FlagBooks} {action : FlagAction} (invariant : FlagInvariant state)
    (follows : Follows state.overrides state.log) :
    Follows (state.step action).overrides (state.step action).log ↔ ReadStands state action := by
  by_cases other : ∀ id, action ≠ .commit id
  · obtain ⟨overrides, log⟩ := step_follows state other
    rw [overrides, log]
    apply iff_of_true follows
    cases action with
    | commit id => exact absurd rfl (other id)
    | setOverride | deleteOverride | flush | rollback => trivial
  · obtain ⟨id, committing⟩ := not_forall_not.mp other
    cases committing
    cases running : state.sessions id with
    | none => simpa [FlagBooks.step, ReadStands, running] using follows
    | some session =>
        obtain ⟨scope, write, flushed⟩ := session
        cases flushed with
        | false =>
            simp only [FlagBooks.step, ReadStands, running]
            apply iff_of_true follows
            cases write with
            | revise row enabled switches note => cases switches <;> trivial
            | insert | keep | remove | nothing => trivial
        | true =>
            -- The row that is written is there, and of the scope.
            have aim (target : Nat) (hits : write.target = some target) :
                ∃ row ∈ state.overrides.rows, row.id = target ∧ row.within scope := by
              obtain ⟨-, row, here, same⟩ := invariant.held id _ target running rfl hits
              exact ⟨row, here, same, (invariant.aimed id _ target running hits).2 row here same⟩
            simp only [FlagBooks.step, ReadStands, running, if_true]
            cases write with
            | insert enabled note => exact follows.insert_iff enabled note
            | keep enabled => exact follows.keep_iff enabled
            | nothing => exact iff_of_true follows trivial
            | remove id =>
                obtain ⟨row, here, rfl, own⟩ := aim id rfl
                exact iff_of_true (follows.remove here own) trivial
            | revise id enabled switches note =>
                obtain ⟨row, here, rfl, own⟩ := aim id rfl
                apply (follows.revise_iff here own enabled switches note).trans
                cases switches <;> simp

theorem overridesDecide_iff (digest : String → Nat) (str : Nat → String) {state : FlagBooks}
    (owned : ∀ row ∈ state.overrides.rows, row.Scoped) :
    OverridesDecide digest str state ↔ Follows state.overrides state.log := by
  constructor
  · intro decides scope
    have last := decides.last scope
    have one := decides.one scope
    rw [← last, standing]
    cases found : rowsOf state.overrides.rows scope with
    | nil => rfl
    | cons row rest =>
        rw [found, List.length_cons] at one
        have alone : rest = [] := List.eq_nil_of_length_eq_zero (by omega)
        rw [alone]
        rfl
  · intro follows
    refine ⟨follows.one, follows.standing_eq, fun flagKey organizationId userId => ?_⟩
    rw [evaluate_eq digest str state.flags owned follows.one, funext follows.standing_eq]

/-- In every order of the steps of any number of requests, no scope ever has two overrides and
the last committed one decides, exactly where every commit finds what was read still to stand. -/
theorem overrides_decide_iff (flags : Table FeatureFlag) (known : Subject → Bool)
    (digest : String → Nat) (str : Nat → String) (actions : List FlagAction) :
    Runs.Always FlagBooks.step (OverridesDecide digest str) (opening flags known) actions ↔
      Runs.Guarded FlagBooks.step ReadStands (opening flags known) actions := by
  apply Runs.always_iff_guarded FlagBooks.step step_invariant
  · intro state action invariant decides
    rw [overridesDecide_iff digest str (step_invariant state action invariant).owned]
    exact step_follows_iff invariant ((overridesDecide_iff digest str invariant.owned).mp decides)
  · exact opening_invariant flags known
  · refine (overridesDecide_iff digest str (opening_invariant flags known).owned).mpr fun scope => ?_
    rfl

def betaFlag : Table FeatureFlag :=
  ⟨[⟨0, "beta", false, none, false⟩], 1, by decide⟩

/-- Two requests override one flag for one organization for the first time; neither sees the
other's row. -/
def firstOverrides : List FlagAction :=
  [.setOverride 1 "beta" (some 4) none true none, .setOverride 2 "beta" (some 4) none false none,
    .flush 1, .flush 2, .commit 1, .commit 2]

/-- Both rows stand, and the flag can no longer be evaluated for the organization. -/
theorem two_first_overrides :
    let last := Runs.run FlagBooks.step (opening betaFlag fun _ => true) firstOverrides
    (rowsOf last.overrides.rows ⟨"beta", .organization 4⟩).length = 2 ∧
      evaluate (fun _ => 0) toString last.flags last.overrides.rows "beta" (some 4) none =
        .error .multipleResults ∧
      ¬ Runs.Always FlagBooks.step (OverridesDecide (fun _ => 0) toString)
        (opening betaFlag fun _ => true) firstOverrides := by
  intro last
  have two : (rowsOf last.overrides.rows ⟨"beta", .organization 4⟩).length = 2 := by decide
  refine ⟨two, by decide, fun always => ?_⟩
  have few := always.last.one ⟨"beta", .organization 4⟩
  exact absurd few (by rw [two]; decide)

end SynapseSaas.FeatureFlags
