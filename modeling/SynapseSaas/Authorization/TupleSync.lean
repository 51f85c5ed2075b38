import SynapseSaas.Authorization.FgaModel

/-! The sync of one member's tuples. Every committed change of the member queues two
executions, the eager one and the worker's; each reads the membership, then the store,
and then writes the difference tuple by tuple, with no order between executions. -/

set_option autoImplicit false

namespace SynapseSaas.Tenancy

open AuthorizationService (orgObject)

/-- How far an execution of `apply_tuple_sync` has come. The count of the committed
changes it has seen is no value of the program. -/
inductive SyncPhase where
  | started
  | membershipRead (version : Nat) (desired : Finset FgaTuple)
  | writing (version : Nat) (desired writes deletes : Finset FgaTuple)
  deriving DecidableEq

namespace SyncPhase

/-- An execution that has nothing left to write is over. -/
def finished : SyncPhase → Bool
  | .writing _ _ writes deletes => writes = ∅ ∧ deletes = ∅
  | _ => false

/-- The change it has seen last, once it has read the store. -/
def storeReadAt : SyncPhase → Option Nat
  | .writing version _ _ _ => some version
  | _ => none

def seen : SyncPhase → Option Nat
  | .started => none
  | .membershipRead version _ => some version
  | .writing version _ _ _ => some version

end SyncPhase

structure TupleSync where
  rows : Database
  version : Nat := 0
  store : Finset FgaTuple
  queued : Nat := 0
  syncs : List SyncPhase := []

inductive SyncAction where
  /-- A change of the member's roles or membership commits. -/
  | commit (rows : Database)
  /-- A queued execution begins, or one that is delivered again. -/
  | start
  | readMembership (sync : Nat)
  /-- The answer of the store is one page of its tuples. -/
  | readStore (sync : Nat) (page : Finset FgaTuple)
  /-- The request for one tuple; the writes come before the deletes. -/
  | write (sync : Nat) (tuple : FgaTuple)

/-- The tuples of the member among others. -/
def ofMember (organizationId userId : Nat) (tuples : Finset FgaTuple) : Finset FgaTuple :=
  tuples.filter fun tuple => tuple.user = userObject userId ∧ tuple.object = orgObject organizationId

namespace TupleSync

variable (organizationId userId : Nat)

def set (state : TupleSync) (sync : Nat) (phase : SyncPhase) : TupleSync :=
  { state with syncs := state.syncs.set sync phase }

/-- A tuple that is there already, or gone already, is no error. -/
def write (state : TupleSync) (sync : Nat) (tuple : FgaTuple) : TupleSync :=
  match state.syncs[sync]? with
  | some (.writing version desired writes deletes) =>
      if tuple ∈ writes then
        { state.set sync (.writing version desired (writes.erase tuple) deletes) with
          store := insert tuple state.store }
      else if writes = ∅ ∧ tuple ∈ deletes then
        { state.set sync (.writing version desired writes (deletes.erase tuple)) with
          store := state.store.erase tuple }
      else state
  | _ => state

def step (state : TupleSync) : SyncAction → TupleSync
  | .commit rows =>
      { state with rows, version := state.version + 1, queued := state.queued + 2 }
  | .start => { state with queued := state.queued - 1, syncs := state.syncs ++ [.started] }
  | .readMembership sync =>
      match state.syncs[sync]? with
      | some .started =>
          state.set sync (.membershipRead state.version (memberTuples state.rows organizationId userId))
      | _ => state
  | .readStore sync page =>
      match state.syncs[sync]? with
      | some (.membershipRead version desired) =>
          let current := ofMember organizationId userId (state.store ∩ page)
          state.set sync (.writing version desired (desired \ current) (current \ desired))
      | _ => state
  | .write sync tuple => state.write sync tuple

/-- Every execution that was queued has run to its end. -/
def Settled (state : TupleSync) : Prop :=
  state.queued = 0 ∧ ∀ phase ∈ state.syncs, phase.finished

/-- After the changes have been synced the store has what the membership wants. -/
def Converged (state : TupleSync) : Prop :=
  0 < state.version → state.Settled →
    ofMember organizationId userId state.store = memberTuples state.rows organizationId userId

/-- The store answers with all the tuples of the member; and no execution writes once
another, which has seen a later change, has read the store. -/
def InOrder (organizationId userId : Nat) (state : TupleSync) : SyncAction → Prop
  | .readStore _ page => ofMember organizationId userId state.store ⊆ page
  | .write sync _ =>
      ∀ phase ∈ state.syncs[sync]?, ∀ version ∈ phase.storeReadAt, ∀ other ∈ state.syncs,
        ∀ later ∈ other.storeReadAt, later ≤ version
  | _ => True

instance inOrderDecidable (state : TupleSync) :
    (action : SyncAction) → Decidable (InOrder organizationId userId state action)
  | .readStore _ page => inferInstanceAs (Decidable (ofMember organizationId userId state.store ⊆ page))
  | .write sync _ => inferInstanceAs (Decidable (∀ phase ∈ state.syncs[sync]?,
      ∀ version ∈ phase.storeReadAt, ∀ other ∈ state.syncs, ∀ later ∈ other.storeReadAt, later ≤ version))
  | .commit _ | .start | .readMembership _ => inferInstanceAs (Decidable True)

instance (state : TupleSync) : Decidable state.Settled :=
  inferInstanceAs (Decidable (_ ∧ ∀ phase ∈ state.syncs, phase.finished = true))

instance : DecidablePred (Converged organizationId userId) := fun state =>
  inferInstanceAs (Decidable (0 < state.version → state.Settled → _))

end TupleSync

/-! The tuples of one member. -/

section Members

variable {organizationId userId : Nat} {tuples : Finset FgaTuple} {tuple : FgaTuple}

theorem mem_ofMember : tuple ∈ ofMember organizationId userId tuples ↔
    tuple ∈ tuples ∧ tuple.user = userObject userId ∧ tuple.object = orgObject organizationId :=
  Finset.mem_filter

/-- What a membership wants is about its own user and organization. -/
theorem ofMember_memberTuples (rows : Database) :
    ofMember organizationId userId (memberTuples rows organizationId userId) =
      memberTuples rows organizationId userId := by
  apply Finset.filter_true_of_mem
  intro tuple wanted
  unfold memberTuples at wanted
  split at wanted
  · cases wanted
  · split at wanted
    · cases wanted
    · unfold desiredTuples at wanted
      simp only [Finset.mem_union, List.mem_toFinset, List.mem_map] at wanted
      rcases wanted with ⟨role, -, rfl⟩ | ⟨permission, -, rfl⟩
      · exact ⟨rfl, rfl⟩
      · exact ⟨rfl, rfl⟩

theorem ofMember_insert (mine : tuple.user = userObject userId ∧ tuple.object = orgObject organizationId) :
    ofMember organizationId userId (insert tuple tuples) =
      insert tuple (ofMember organizationId userId tuples) := by
  rw [ofMember, Finset.filter_insert, if_pos mine]
  rfl

theorem ofMember_erase :
    ofMember organizationId userId (tuples.erase tuple) =
      (ofMember organizationId userId tuples).erase tuple :=
  Finset.filter_erase _ _ _

end Members

/-! What every execution knows, between the steps. -/

/-- An execution knows the membership of the change it has seen; where that is the latest
one, what it has left to write is at least what the store still lacks. -/
def KnowsLatest (wanted : Finset FgaTuple) (latest : Nat) (present : Finset FgaTuple) : SyncPhase → Prop
  | .started => True
  | .membershipRead version desired => version ≤ latest ∧ (version = latest → desired = wanted)
  | .writing version desired writes deletes =>
      version ≤ latest ∧ (version = latest → desired = wanted) ∧ writes ⊆ desired ∧
        Disjoint deletes desired ∧
        (version = latest → desired \ present ⊆ writes ∧ present \ desired ⊆ deletes)

section Steps

variable {organizationId userId latest : Nat} {wanted present after : Finset FgaTuple} {phase : SyncPhase}

/-- What moves the store towards what is wanted leaves an execution right. -/
theorem KnowsLatest.toward (knows : KnowsLatest wanted latest present phase)
    (closer : phase.storeReadAt = some latest →
      wanted \ after ⊆ wanted \ present ∧ after \ wanted ⊆ present \ wanted) :
    KnowsLatest wanted latest after phase := by
  cases phase with
  | started => trivial
  | membershipRead version desired => exact knows
  | writing version desired writes deletes =>
      obtain ⟨seen, known, within, apart, left⟩ := knows
      refine ⟨seen, known, within, apart, fun last => ?_⟩
      obtain ⟨missing, extra⟩ := closer (by rw [SyncPhase.storeReadAt, last])
      obtain ⟨lacking, surplus⟩ := left last
      rw [known last] at lacking surplus ⊢
      exact ⟨missing.trans lacking, extra.trans surplus⟩

/-- A further change makes every execution a former one. -/
theorem KnowsLatest.outdated (knows : KnowsLatest wanted latest present phase)
    (changed : Finset FgaTuple) : KnowsLatest changed (latest + 1) present phase := by
  cases phase with
  | started => trivial
  | membershipRead version desired =>
      obtain ⟨seen, -⟩ := knows
      exact ⟨by omega, fun last => absurd last (by omega)⟩
  | writing version desired writes deletes =>
      obtain ⟨seen, -, within, apart, -⟩ := knows
      exact ⟨by omega, fun last => absurd last (by omega), within, apart,
        fun last => absurd last (by omega)⟩

/-- Every execution that has seen the latest change knows it, and the latest change is in the
queue, in an execution that has not read the membership yet, or in one that has seen it. -/
structure Informed (organizationId userId : Nat) (state : TupleSync) : Prop where
  knows : ∀ phase ∈ state.syncs, KnowsLatest (memberTuples state.rows organizationId userId)
    state.version (ofMember organizationId userId state.store) phase
  served : state.version = 0 ∨ 0 < state.queued ∨
    ∃ phase ∈ state.syncs, phase = .started ∨ phase.seen = some state.version

theorem Informed.converged {state : TupleSync} (informed : Informed organizationId userId state) :
    state.Converged organizationId userId := by
  intro changed settled
  obtain ⟨drained, ended⟩ := settled
  obtain ⟨phase, inside, last⟩ : ∃ phase ∈ state.syncs,
      phase = .started ∨ phase.seen = some state.version := by
    rcases informed.served with none | waiting | found
    · omega
    · omega
    · exact found
  have knows := informed.knows phase inside
  have done := ended phase inside
  cases phase with
  | started => cases done
  | membershipRead version desired => cases done
  | writing version desired writes deletes =>
      obtain ⟨-, known, -, -, left⟩ := knows
      have same : version = state.version := by
        rcases last with impossible | seen
        · cases impossible
        · exact Option.some.inj seen
      obtain ⟨lacking, surplus⟩ := left same
      obtain ⟨none, nothing⟩ := of_decide_eq_true done
      rw [none, Finset.subset_empty, Finset.sdiff_eq_empty_iff_subset] at lacking
      rw [nothing, Finset.subset_empty, Finset.sdiff_eq_empty_iff_subset] at surplus
      rw [known same] at lacking surplus
      exact surplus.antisymm lacking

theorem mem_set {syncs : List SyncPhase} {sync : Nat} {old new other : SyncPhase}
    (here : syncs[sync]? = some old) (inside : other ∈ syncs) :
    other ∈ syncs.set sync new ∨ other = old := by
  obtain ⟨index, at_⟩ := List.mem_iff_getElem?.mp inside
  by_cases same : index = sync
  · rw [same, here] at at_
    exact .inr (Option.some.inj at_).symm
  · refine .inl (List.mem_iff_getElem?.mpr ⟨index, ?_⟩)
    rw [List.getElem?_set_ne (Ne.symm same)]
    exact at_

variable {state : TupleSync} {action : SyncAction}

/-- The latest change stays known when an execution goes on. -/
theorem Informed.served_set (informed : Informed organizationId userId state) {sync : Nat}
    {old : SyncPhase} (here : state.syncs[sync]? = some old) (new : SyncPhase)
    (kept : old = .started ∨ old.seen = some state.version → new.seen = some state.version) :
    state.version = 0 ∨ 0 < state.queued ∨
      ∃ phase ∈ state.syncs.set sync new, phase = .started ∨ phase.seen = some state.version := by
  rcases informed.served with none | waiting | ⟨phase, inside, last⟩
  · exact .inl none
  · exact .inr (.inl waiting)
  · refine .inr (.inr ?_)
    rcases mem_set here inside with still | rfl
    · exact ⟨phase, still, last⟩
    · have within := List.getElem?_eq_some_iff.mp here
      exact ⟨new, List.mem_set within.1 new, .inr (kept last)⟩

theorem Informed.commit (informed : Informed organizationId userId state) (rows : Database) :
    Informed organizationId userId (state.step organizationId userId (.commit rows)) where
  knows := fun phase inside => (informed.knows phase inside).outdated _
  served := .inr (.inl (Nat.succ_pos _))

theorem Informed.start (informed : Informed organizationId userId state) :
    Informed organizationId userId (state.step organizationId userId .start) where
  knows := by
    intro phase inside
    rcases List.mem_append.mp inside with before | new
    · exact informed.knows phase before
    · rw [List.mem_singleton.mp new]
      trivial
  served := .inr (.inr ⟨.started, List.mem_append_right _ List.mem_cons_self, .inl rfl⟩)

theorem Informed.readMembership (informed : Informed organizationId userId state) (sync : Nat) :
    Informed organizationId userId (state.step organizationId userId (.readMembership sync)) := by
  simp only [TupleSync.step]
  split
  · next here =>
      refine ⟨fun phase inside => ?_, informed.served_set here _ fun _ => rfl⟩
      rcases List.mem_or_eq_of_mem_set inside with before | rfl
      · exact informed.knows phase before
      · exact ⟨le_rfl, fun _ => rfl⟩
  · exact informed

theorem Informed.readStore (informed : Informed organizationId userId state) {sync : Nat}
    {page : Finset FgaTuple} (complete : ofMember organizationId userId state.store ⊆ page) :
    Informed organizationId userId (state.step organizationId userId (.readStore sync page)) := by
  simp only [TupleSync.step]
  split
  · next version desired here =>
      have whole : ofMember organizationId userId (state.store ∩ page) =
          ofMember organizationId userId state.store := by
        ext tuple
        simp only [mem_ofMember, Finset.mem_inter]
        constructor
        · rintro ⟨⟨there, -⟩, mine⟩
          exact ⟨there, mine⟩
        · rintro ⟨there, mine⟩
          exact ⟨⟨there, complete (mem_ofMember.mpr ⟨there, mine⟩)⟩, mine⟩
      obtain ⟨seen, known⟩ := informed.knows _ (List.mem_of_getElem? here)
      refine ⟨fun phase inside => ?_, informed.served_set here _ ?_⟩
      · rcases List.mem_or_eq_of_mem_set inside with before | rfl
        · exact informed.knows phase before
        · rw [whole]
          exact ⟨seen, known, Finset.sdiff_subset, Finset.sdiff_disjoint,
            fun _ => ⟨subset_rfl, subset_rfl⟩⟩
      · rintro (impossible | last)
        · cases impossible
        · exact last
  · exact informed

/-- An execution that writes has seen the latest change if any that has read the store has. -/
theorem writes_latest {sync version : Nat} {tuple : FgaTuple}
    {desired writes deletes : Finset FgaTuple}
    (ordered : state.InOrder organizationId userId (.write sync tuple))
    (here : state.syncs[sync]? = some (.writing version desired writes deletes))
    (seen : version ≤ state.version) {other : SyncPhase} (inside : other ∈ state.syncs)
    (read : other.storeReadAt = some state.version) : version = state.version :=
  le_antisymm seen (ordered _ here version rfl other inside _ read)

/-- A tuple that is not wanted is missed by nobody. -/
theorem sdiff_erase_of_unwanted {wanted present : Finset FgaTuple} {tuple : FgaTuple}
    (unwanted : tuple ∉ wanted) : wanted \ present.erase tuple = wanted \ present := by
  ext other
  simp only [Finset.mem_sdiff, Finset.mem_erase]
  constructor
  · rintro ⟨there, absent⟩
    exact ⟨there, fun kept => absent ⟨fun same => unwanted (same ▸ there), kept⟩⟩
  · rintro ⟨there, absent⟩
    exact ⟨there, fun kept => absent kept.2⟩

/-- The latest change stays known after a write. -/
theorem Informed.served_write (informed : Informed organizationId userId state)
    {sync version : Nat} {desired writes deletes : Finset FgaTuple}
    (here : state.syncs[sync]? = some (.writing version desired writes deletes))
    (new : SyncPhase) (same : new.seen = some version) :
    state.version = 0 ∨ 0 < state.queued ∨
      ∃ phase ∈ state.syncs.set sync new, phase = .started ∨ phase.seen = some state.version := by
  apply informed.served_set here new
  rintro (impossible | last)
  · cases impossible
  · rw [same, ← last]
    rfl

/-- A tuple that the execution wants joins the store. -/
theorem Informed.writeWanted (informed : Informed organizationId userId state)
    {sync version : Nat} {tuple : FgaTuple} {desired writes deletes : Finset FgaTuple}
    (ordered : state.InOrder organizationId userId (.write sync tuple))
    (here : state.syncs[sync]? = some (.writing version desired writes deletes))
    (writing : tuple ∈ writes) :
    Informed organizationId userId { state with
      store := insert tuple state.store
      syncs := state.syncs.set sync (.writing version desired (writes.erase tuple) deletes) } := by
  obtain ⟨seen, known, within, apart, left⟩ := informed.knows _ (List.mem_of_getElem? here)
  have wanted := within writing
  have grown (last : version = state.version) :
      ofMember organizationId userId (insert tuple state.store) =
        insert tuple (ofMember organizationId userId state.store) := by
    rw [known last, ← ofMember_memberTuples] at wanted
    exact ofMember_insert (mem_ofMember.mp wanted).2
  refine ⟨fun phase after => ?_, informed.served_write here _ rfl⟩
  rcases List.mem_or_eq_of_mem_set after with before | rfl
  · -- For the others the store has come closer to what is wanted.
    refine (informed.knows phase before).toward fun read => ?_
    have last := writes_latest ordered here seen before read
    rw [known last] at wanted
    rw [grown last, Finset.sdiff_insert, Finset.insert_sdiff_of_mem _ wanted]
    exact ⟨Finset.erase_subset _ _, subset_rfl⟩
  · refine ⟨seen, known, (Finset.erase_subset _ _).trans within, apart, fun last => ?_⟩
    obtain ⟨lacking, surplus⟩ := left last
    rw [grown last, Finset.sdiff_insert, Finset.insert_sdiff_of_mem _ wanted]
    exact ⟨Finset.erase_subset_erase tuple lacking, surplus⟩

/-- A tuple that the execution does not want leaves the store. -/
theorem Informed.deleteUnwanted (informed : Informed organizationId userId state)
    {sync version : Nat} {tuple : FgaTuple} {desired writes deletes : Finset FgaTuple}
    (ordered : state.InOrder organizationId userId (.write sync tuple))
    (here : state.syncs[sync]? = some (.writing version desired writes deletes))
    (deleting : tuple ∈ deletes) :
    Informed organizationId userId { state with
      store := state.store.erase tuple
      syncs := state.syncs.set sync (.writing version desired writes (deletes.erase tuple)) } := by
  obtain ⟨seen, known, within, apart, left⟩ := informed.knows _ (List.mem_of_getElem? here)
  have unwanted : tuple ∉ desired := Finset.disjoint_left.mp apart deleting
  refine ⟨fun phase after => ?_, informed.served_write here _ rfl⟩
  rcases List.mem_or_eq_of_mem_set after with before | rfl
  · refine (informed.knows phase before).toward fun read => ?_
    have last := writes_latest ordered here seen before read
    rw [known last] at unwanted
    rw [ofMember_erase, sdiff_erase_of_unwanted unwanted, Finset.erase_sdiff_comm]
    exact ⟨subset_rfl, Finset.erase_subset _ _⟩
  · refine ⟨seen, known, within, ?_, fun last => ?_⟩
    · exact Finset.disjoint_of_subset_left (Finset.erase_subset _ _) apart
    · obtain ⟨lacking, surplus⟩ := left last
      rw [ofMember_erase, sdiff_erase_of_unwanted unwanted, Finset.erase_sdiff_comm]
      exact ⟨lacking, Finset.erase_subset_erase tuple surplus⟩

/-- A request of an execution moves the store towards what the latest change wants, unless
that execution has not seen it; then no execution that has seen it has read the store. -/
theorem Informed.write (informed : Informed organizationId userId state) {sync : Nat}
    {tuple : FgaTuple} (ordered : state.InOrder organizationId userId (.write sync tuple)) :
    Informed organizationId userId (state.step organizationId userId (.write sync tuple)) := by
  simp only [TupleSync.step, TupleSync.write]
  split
  · next version desired writes deletes here =>
      by_cases writing : tuple ∈ writes
      · rw [if_pos writing]
        exact informed.writeWanted ordered here writing
      · rw [if_neg writing]
        by_cases deleting : writes = ∅ ∧ tuple ∈ deletes
        · rw [if_pos deleting]
          exact informed.deleteUnwanted ordered here deleting.2
        · rw [if_neg deleting]
          exact informed
  · exact informed

theorem Informed.step (informed : Informed organizationId userId state)
    (ordered : state.InOrder organizationId userId action) :
    Informed organizationId userId (state.step organizationId userId action) := by
  cases action with
  | commit rows => exact informed.commit rows
  | start => exact informed.start
  | readMembership sync => exact informed.readMembership sync
  | readStore sync page => exact informed.readStore ordered
  | write sync tuple => exact informed.write ordered

theorem Informed.opening (organizationId userId : Nat) (rows : Database) (store : Finset FgaTuple) :
    Informed organizationId userId { rows, store } where
  knows := fun phase inside => by cases inside
  served := .inl rfl

end Steps

/-- If the executions write in the order of the changes they have seen, then the store has
what the latest membership wants whenever all of them are over. -/
theorem tuples_converge (organizationId userId : Nat) (rows : Database) (store : Finset FgaTuple)
    (actions : List SyncAction)
    (ordered : Runs.Guarded (TupleSync.step organizationId userId)
      (TupleSync.InOrder organizationId userId) { rows, store } actions) :
    Runs.Always (TupleSync.step organizationId userId) (TupleSync.Converged organizationId userId)
      { rows, store } actions := by
  have informed : Runs.Always (TupleSync.step organizationId userId) (Informed organizationId userId)
      { rows, store } actions :=
    Runs.always_of_guarded _ (fun _ _ informed ordered => informed.step ordered)
      (Informed.opening organizationId userId rows store) ordered
  exact informed.mono _ fun _ informed => informed.converged

/-- The auditor once suspended. -/
def suspended : Database :=
  { audited with
    memberships := ⟨[{ auditor with status := .suspended }], 2, by decide⟩
    references := by decide +kernel }

def auditorTuple (relation : String) : FgaTuple := ⟨userObject 1, relation, orgObject 1⟩

def auditorTuples : Finset FgaTuple := {auditorTuple "member", auditorTuple "can_audit_read"}

/-- One execution after the other. -/
def inTurn : List SyncAction :=
  [.commit audited, .start, .start,
    .readMembership 0, .readStore 0 ∅, .write 0 (auditorTuple "can_audit_read"), .write 0 (auditorTuple "member"),
    .readMembership 1, .readStore 1 auditorTuples]

theorem tuples_converge_inTurn :
    Runs.Always (TupleSync.step 1 1) (TupleSync.Converged 1 1) { rows := suspended, store := ∅ } inTurn :=
  tuples_converge 1 1 suspended ∅ inTurn (by decide +kernel)

/-- The first execution reads the membership, the member is suspended and the other
executions come and go, and then the first writes what it has read. -/
def overtaken : List SyncAction :=
  [.commit audited, .start, .readMembership 0, .commit suspended, .start, .start, .start,
    .readMembership 1, .readStore 1 ∅, .readMembership 2, .readStore 2 ∅, .readMembership 3, .readStore 3 ∅,
    .readStore 0 ∅, .write 0 (auditorTuple "can_audit_read"), .write 0 (auditorTuple "member")]

/-- A suspended member keeps the tuples of an active one. -/
theorem stale_sync_writes_last :
    (Runs.run (TupleSync.step 1 1) { rows := suspended, store := ∅ } overtaken).Settled ∧
      (Runs.run (TupleSync.step 1 1) { rows := suspended, store := ∅ } overtaken).store = auditorTuples ∧
      ¬ Runs.Always (TupleSync.step 1 1) (TupleSync.Converged 1 1) { rows := suspended, store := ∅ }
        overtaken := by
  refine ⟨by decide +kernel, by decide +kernel, fun always => ?_⟩
  exact absurd (Runs.Always.last _ always) (by decide +kernel)

end SynapseSaas.Tenancy
