import SynapseSaas.Foundation.Runs
import SynapseSaas.Foundation.Sessions
import SynapseSaas.Identity.Preferences

/-! The preferences of one user, beside requests that patch them, statement by statement.

A request finds its user without a lock, locks the row and reads it again, merges the patch
into what it read and holds the lock to the end of its transaction. The column gives back
the object that was assigned to it. -/

set_option autoImplicit false

namespace SynapseSaas.Preferences

inductive PatchPhase where
  | loaded (found : Mapping Json)                 -- by the authentication, without a lock
  | locked (turn : Nat) (found : Mapping Json)
  | assigned (turn : Nat) (merged : Mapping Json)
  | refused (turn : Nat) (failure : Failure)

/-- A request under way; its turn counts the locks granted before its own. -/
structure PatchSession where
  patch : Mapping Json
  phase : PatchPhase

/-- The row lock was granted to a request with this patch. -/
structure Grant where
  patch : Mapping Json
  committed : Bool

structure PreferenceRow where
  preferences : Mapping Json
  lock : Option Nat := none
  sessions : Nat → Option PatchSession := fun _ => none
  grants : List Grant := []                       -- in the order of the locks

inductive PreferenceAction where
  | updateMe (session : Nat) (preferences : Json)
  | lock (session : Nat)
  | merge (session : Nat)
  | commit (session : Nat)
  | rollback (session : Nat)

/-- What the request with this grant has made of the stored object. -/
def Grant.settle (stored : Mapping Json) (grant : Grant) : Mapping Json :=
  if grant.committed then stored.merge grant.patch else stored

namespace PreferenceRow

def enter (state : PreferenceRow) (id : Nat) (session : PatchSession) : PreferenceRow :=
  { state with sessions := Function.update state.sessions id (some session) }

def leave (state : PreferenceRow) (id : Nat) : PreferenceRow :=
  { state with
    lock := if state.lock = some id then none else state.lock
    sessions := Function.update state.sessions id none }

/-- A request that raises is rolled back, and only then; any other may be. -/
def step (state : PreferenceRow) : PreferenceAction → PreferenceRow
  | .updateMe id preferences =>
      match state.sessions id, validatePreferencesPatch preferences with
      | none, .ok patch => state.enter id ⟨patch, .loaded state.preferences⟩
      | _, _ => state
  | .lock id =>
      match state.sessions id, state.lock with
      | some ⟨patch, .loaded _⟩, none =>
          { state.enter id ⟨patch, .locked state.grants.length state.preferences⟩ with
            lock := some id
            grants := state.grants ++ [⟨patch, false⟩] }
      | _, _ => state
  | .merge id =>
      match state.sessions id with
      | some ⟨patch, .locked turn found⟩ =>
          match merged found patch with
          | .ok result => state.enter id ⟨patch, .assigned turn result⟩
          | .error failure => state.enter id ⟨patch, .refused turn failure⟩
      | _ => state
  | .commit id =>
      match state.sessions id with
      | some ⟨patch, .assigned turn result⟩ =>
          { state.leave id with
            preferences := result
            grants := state.grants.set turn ⟨patch, true⟩ }
      | _ => state
  | .rollback id => state.leave id

/-- The session holds the lock, which was the last to be granted. -/
def Holding (state : PreferenceRow) (id turn : Nat) (patch : Mapping Json) : Prop :=
  state.lock = some id ∧
    ∃ earlier, state.grants = earlier ++ [⟨patch, false⟩] ∧ earlier.length = turn

/-- A session that holds the lock knows what is stored. -/
def Agrees (state : PreferenceRow) (id : Nat) (session : PatchSession) : Prop :=
  match session.phase with
  | .loaded _ => True
  | .locked turn found => Holding state id turn session.patch ∧ found = state.preferences
  | .assigned turn result =>
      Holding state id turn session.patch ∧ merged state.preferences session.patch = .ok result
  | .refused turn failure =>
      Holding state id turn session.patch ∧ merged state.preferences session.patch = .error failure

/-- A patch that would break a cap changes nothing. -/
def Harmless (stored : Mapping Json) (grant : Grant) : Prop :=
  ∀ failure, merged stored grant.patch = .error failure → grant.settle stored = stored

structure Valid (initial : Mapping Json) (state : PreferenceRow) : Prop where
  sessions : ∀ id session, state.sessions id = some session →
    Wellformed session.patch ∧ Agrees state id session
  settled : state.preferences = Runs.run Grant.settle initial state.grants
  checked : Runs.Guarded Grant.settle Harmless initial state.grants
  caps : WithinCaps state.preferences

variable {initial : Mapping Json} {state next : PreferenceRow} {id other : Nat}
  {session : PatchSession}

theorem Agrees.carried (agrees : Agrees state id session) (lock : next.lock = state.lock)
    (grants : next.grants = state.grants) (preferences : next.preferences = state.preferences) :
    Agrees next id session := by
  unfold Agrees Holding at agrees ⊢
  rw [lock, grants, preferences]
  exact agrees

/-- A session without the lock has only loaded its user, and knows nothing yet that another
could make untrue. -/
theorem Agrees.unlocked (agrees : Agrees state id session) (elsewhere : state.lock ≠ some id) :
    Agrees next id session := by
  unfold Agrees at agrees ⊢
  cases phase : session.phase with
  | loaded found => trivial
  | locked turn found =>
      rw [phase] at agrees
      exact absurd agrees.1.1 elsewhere
  | assigned turn result =>
      rw [phase] at agrees
      exact absurd agrees.1.1 elsewhere
  | refused turn failure =>
      rw [phase] at agrees
      exact absurd agrees.1.1 elsewhere

theorem Valid.entered (valid : Valid initial state) (wellformed : Wellformed session.patch)
    (agrees : Agrees state id session) : Valid initial (state.enter id session) where
  sessions other found here := by
    rcases Sessions.entered here with ⟨rfl, rfl⟩ | ⟨_, there⟩
    · exact ⟨wellformed, agrees.carried rfl rfl rfl⟩
    · obtain ⟨formed, known⟩ := valid.sessions other found there
      exact ⟨formed, known.carried rfl rfl rfl⟩
  settled := valid.settled
  checked := valid.checked
  caps := valid.caps

/-- What is known of the sessions outlives a step that ends the one with the lock. -/
theorem Valid.left (valid : Valid initial state) (held : state.lock = some id) {next : PreferenceRow}
    (here : next.sessions other = some session)
    (sessions : next.sessions = (state.leave id).sessions) :
    Wellformed session.patch ∧ Agrees next other session := by
  rw [sessions] at here
  obtain ⟨different, there⟩ := Sessions.left here
  obtain ⟨formed, known⟩ := valid.sessions other session there
  refine ⟨formed, known.unlocked fun same => ?_⟩
  exact different (Option.some.inj (same.symm.trans held))

theorem lock_valid (valid : Valid initial state) (id : Nat) :
    Valid initial (state.step (.lock id)) := by
  rw [step]
  split
  · next patch found here free =>
      have wellformed := (valid.sessions id _ here).1
      refine ⟨?_, ?_, ?_, valid.caps⟩
      · intro other session there
        rcases Sessions.entered there with ⟨rfl, rfl⟩ | ⟨_, there⟩
        · exact ⟨wellformed, ⟨rfl, _, rfl, rfl⟩, rfl⟩
        · obtain ⟨formed, known⟩ := valid.sessions other session there
          exact ⟨formed, known.unlocked (by simp [free])⟩
      · -- a grant counts for nothing until it is committed
        change state.preferences = Runs.run _ _ (state.grants ++ _)
        rw [Runs.run_append, ← valid.settled]
        rfl
      · change Runs.Guarded _ _ _ (state.grants ++ _)
        rw [Runs.guarded_append]
        exact ⟨valid.checked, fun _ _ => rfl, trivial⟩
  · exact valid

theorem merge_valid (valid : Valid initial state) (id : Nat) :
    Valid initial (state.step (.merge id)) := by
  rw [step]
  split
  · next patch turn found here =>
      obtain ⟨wellformed, holding, rfl⟩ := valid.sessions id _ here
      split
      · next result checked => exact valid.entered wellformed ⟨holding, checked⟩
      · next failure broken => exact valid.entered wellformed ⟨holding, broken⟩
  · exact valid

theorem commit_valid (valid : Valid initial state) (id : Nat) :
    Valid initial (state.step (.commit id)) := by
  rw [step]
  split
  · next patch turn result here =>
      obtain ⟨wellformed, ⟨held, earlier, last, rfl⟩, checked⟩ := valid.sessions id _ here
      dsimp only at wellformed last checked
      obtain ⟨rfl, caps⟩ := merged_ok valid.caps.toWellformed wellformed checked
      have base : state.preferences = Runs.run Grant.settle initial earlier := by
        rw [valid.settled, last, Runs.run_append]
        rfl
      have marked : state.grants.set earlier.length ⟨patch, true⟩ =
          earlier ++ [⟨patch, true⟩] := by
        rw [last]
        simp
      refine ⟨fun other session there => valid.left held there rfl, ?_, ?_, caps⟩
      · change state.preferences.merge patch = Runs.run _ _ (state.grants.set _ _)
        rw [marked, Runs.run_append, ← base]
        rfl
      · change Runs.Guarded _ _ _ (state.grants.set _ _)
        have before := valid.checked
        rw [last, Runs.guarded_append] at before
        rw [marked, Runs.guarded_append, ← base]
        refine ⟨before.1, ?_, trivial⟩
        -- the merge that is committed has passed its check
        intro failure broken
        cases checked.symm.trans broken
  · exact valid

theorem rollback_valid (valid : Valid initial state) (id : Nat) :
    Valid initial (state.step (.rollback id)) := by
  refine ⟨?_, valid.settled, valid.checked, valid.caps⟩
  intro other session there
  by_cases held : state.lock = some id
  · exact valid.left held there rfl
  · obtain ⟨formed, known⟩ := valid.sessions other session (Sessions.left there).2
    exact ⟨formed, known.carried (if_neg held) rfl rfl⟩

/-- Actions keep the row as it should be. -/
theorem step_valid (valid : Valid initial state) (action : PreferenceAction) :
    Valid initial (state.step action) := by
  cases action with
  | updateMe id preferences =>
      rw [step]
      split
      · next patch vacant accepted =>
          exact valid.entered (validatePreferencesPatch_ok accepted) trivial
      · exact valid
  | lock id => exact lock_valid valid id
  | merge id => exact merge_valid valid id
  | commit id => exact commit_valid valid id
  | rollback id => exact rollback_valid valid id

theorem run_valid (within : WithinCaps initial) (actions : List PreferenceAction) :
    Valid initial (Runs.run step { preferences := initial } actions) := by
  have started : Valid initial { preferences := initial } :=
    ⟨fun _ _ here => (nomatch here), rfl, trivial, within⟩
  have preserved (state : PreferenceRow) (action : PreferenceAction)
      (valid : Valid initial state) : Valid initial (state.step action) :=
    step_valid valid action
  exact Runs.run_invariant step preserved started actions

/-- A request whose merge would break a cap is answered 422. -/
theorem refused_answer (within : WithinCaps initial) (actions : List PreferenceAction)
    {patch : Mapping Json} {turn : Nat} {failure : Failure}
    (here : (Runs.run step { preferences := initial } actions).sessions id =
      some ⟨patch, .refused turn failure⟩) :
    ∃ error, failure = .domain error ∧ error.cls.status = 422 :=
  merged_error ((run_valid within actions).sessions id _ here).2.2

/-- What the grants have made of the object is the merge of the committed patches. -/
theorem settled_eq (stored : Mapping Json) (grants : List Grant) :
    Runs.run Grant.settle stored grants =
      ((grants.filter Grant.committed).map Grant.patch).foldl Mapping.merge stored := by
  induction grants generalizing stored with
  | nil => rfl
  | cons grant rest ih =>
      rw [Runs.run_cons, ih, List.filter_cons, Grant.settle]
      cases grant.committed with
      | false => rfl
      | true => rfl

theorem mem_keys_merges {key : String} (stored : Mapping Json) (patches : List (Mapping Json)) :
    key ∈ (patches.foldl Mapping.merge stored).keys ↔
      key ∈ stored.keys ∨ ∃ patch ∈ patches, key ∈ patch.keys := by
  induction patches generalizing stored with
  | nil => simp
  | cons patch rest ih =>
      rw [List.foldl_cons, ih, Mapping.mem_keys_merge, List.exists_mem_cons_iff, or_assoc]

/-- However requests interleave, the stored object is the merge of the committed patches in
the order in which the row was locked for them, and holds every key of theirs and none but
those and the ones it held at first; it stays within the caps, and a patch that would break
one leaves it as it is. -/
theorem patches_merge_in_lock_order (within : WithinCaps initial)
    (actions : List PreferenceAction) :
    let final := Runs.run step { preferences := initial } actions
    final.preferences =
      ((final.grants.filter Grant.committed).map Grant.patch).foldl Mapping.merge initial ∧
    (∀ key, key ∈ final.preferences.keys ↔
      key ∈ initial.keys ∨ ∃ grant ∈ final.grants, grant.committed = true ∧ key ∈ grant.patch.keys) ∧
    WithinCaps final.preferences ∧
    Runs.Guarded Grant.settle Harmless initial final.grants := by
  intro final
  have valid := run_valid within actions
  have merges := valid.settled.trans (settled_eq initial final.grants)
  refine ⟨merges, ?_, valid.caps, valid.checked⟩
  intro key
  rw [merges, mem_keys_merges]
  simp [and_assoc]

/-- Two requests that had both found the empty object. -/
theorem patches_merge_in_lock_order_tabs :
    let empty : Mapping Json := ⟨[], List.nodup_nil⟩
    let final := Runs.run step { preferences := empty }
      [.updateMe 1 (.dict [("tours", .dict [("intro", .str "completed")])]),
        .updateMe 2 (.dict [("theme", .str "dark"), ("tours", .dict [])]),
        .lock 1, .lock 2, .merge 1, .commit 1, .lock 2, .merge 2, .commit 2]
    WithinCaps final.preferences ∧
    (Json.dict final.preferences.entries).compact =
      "\x7b\x22tours\x22:\x7b\x7d,\x22theme\x22:\x22dark\x22\x7d" := by
  intro empty final
  have within : WithinCaps empty :=
    ⟨⟨by decide, by decide, by decide⟩, by decide, by decide, by decide⟩
  exact ⟨(patches_merge_in_lock_order within _).2.2.1, by decide +kernel⟩

end PreferenceRow

end SynapseSaas.Preferences
