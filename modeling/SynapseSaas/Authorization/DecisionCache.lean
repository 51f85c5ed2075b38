import SynapseSaas.Authorization.FgaModel
import SynapseSaas.Foundation.Runs

/-! The cached decisions of OpenFGA about one member of an organization. A change bumps the
member's counter within its transaction and again after the commit; the tuples are synced
after that, and nothing is bumped then.

A body is cached under the counter as it was read before the store was asked. Entries go
when their time to live is over; the counter has none. -/

set_option autoImplicit false

namespace SynapseSaas.Tenancy

/-- What the store answered; how often it had been written to then is for the record. -/
structure Decision where
  allowed : Bool
  generation : Nat
  deriving DecidableEq, Repr

inductive CheckPhase where
  | started
  | versionRead (token : Nat)
  | missed (token : Nat)
  | asked (token : Nat) (decision : Decision)
  | returned
  deriving DecidableEq, Repr

/-- A call of `_fga_allowed`. For the record: how often the store had been written to when
the last sync that was complete at its start was over. -/
structure FgaCheck where
  permission : String
  floor : Nat
  phase : CheckPhase
  deriving DecidableEq, Repr

/-- An answer computed from the tuples, with the record of its check. -/
structure FgaAnswer where
  permission : String
  floor : Nat
  decision : Decision
  deriving DecidableEq, Repr

structure CachedDecision where
  token : Nat
  permission : String
  decision : Decision
  deriving DecidableEq, Repr

/-- A change of the member up to the end of its sync. -/
inductive ChangePhase where
  | opened | invalidated | committed | syncing | completed
  deriving DecidableEq, Repr

structure DecisionCache where
  store : Finset FgaTuple
  generation : Nat := 0
  floor : Nat := 0
  counter : Nat := 0
  bodies : List CachedDecision := []
  checks : List FgaCheck := []
  changes : List ChangePhase := []
  answers : List FgaAnswer := []

inductive DecisionAction where
  | userCan (permission : String)
  | readVersion (check : Nat)
  | readBody (check : Nat)
  | ask (check : Nat)
  /-- The store cannot be asked: the fail mode decides, and nothing is cached. -/
  | unavailable (check : Nat)
  | setScoped (check : Nat)
  | expire (body : CachedDecision)
  | change
  | invalidate (change : Nat)
  | commit (change : Nat)
  | flushBumps (change : Nat)
  /-- The worker's execution of a sync. -/
  | resync
  | write (change : Nat) (tuple : FgaTuple) (present : Bool)
  | complete (change : Nat)

namespace FgaCheck

/-- The version it has read, while it may still use it. -/
def token (check : FgaCheck) : Option Nat :=
  match check.phase with
  | .versionRead token | .missed token | .asked token _ => some token
  | .started | .returned => none

/-- The decision it is about to cache, and under which version. -/
def derived (check : FgaCheck) : Option (Nat × Nat) :=
  match check.phase with
  | .asked token decision => some (token, decision.generation)
  | _ => none

end FgaCheck

namespace DecisionCache

variable (state : DecisionCache)

def enter (check : Nat) (session : FgaCheck) (phase : CheckPhase) : DecisionCache :=
  { state with checks := state.checks.set check { session with phase } }

/-- The check returns this decision. -/
def answer (check : Nat) (session : FgaCheck) (decision : Decision) : DecisionCache :=
  { state.enter check session .returned with
    answers := state.answers ++ [⟨session.permission, session.floor, decision⟩] }

def lookup (token : Nat) (permission : String) : Option Decision :=
  (state.bodies.find? fun body => body.token = token ∧ body.permission = permission).map
    CachedDecision.decision

/-- The tuples after a request for one of them. -/
def written (tuple : FgaTuple) (present : Bool) : Finset FgaTuple :=
  if present then insert tuple state.store else state.store.erase tuple

/-- A change in one phase goes on to the next. -/
def advance (change : Nat) (phase next : ChangePhase) (after : DecisionCache) : DecisionCache :=
  if state.changes[change]? = some phase then
    { after with changes := state.changes.set change next }
  else state

variable (allowed : Finset FgaTuple → String → Bool)

def step (state : DecisionCache) : DecisionAction → DecisionCache
  | .userCan permission => { state with checks := state.checks ++ [⟨permission, state.floor, .started⟩] }
  | .readVersion check =>
      match state.checks[check]? with
      | some ⟨permission, floor, .started⟩ =>
          state.enter check ⟨permission, floor, .started⟩ (.versionRead state.counter)
      | _ => state
  | .readBody check =>
      match state.checks[check]? with
      | some ⟨permission, floor, .versionRead token⟩ =>
          match state.lookup token permission with
          | some decision => state.answer check ⟨permission, floor, .versionRead token⟩ decision
          | none => state.enter check ⟨permission, floor, .versionRead token⟩ (.missed token)
      | _ => state
  | .ask check =>
      match state.checks[check]? with
      | some ⟨permission, floor, .missed token⟩ =>
          state.enter check ⟨permission, floor, .missed token⟩
            (.asked token ⟨allowed state.store permission, state.generation⟩)
      | _ => state
  | .unavailable check =>
      match state.checks[check]? with
      | some ⟨permission, floor, .missed token⟩ =>
          state.enter check ⟨permission, floor, .missed token⟩ .returned
      | _ => state
  | .setScoped check =>
      match state.checks[check]? with
      | some ⟨permission, floor, .asked token decision⟩ =>
          { state.answer check ⟨permission, floor, .asked token decision⟩ decision with
            bodies := ⟨token, permission, decision⟩ :: state.bodies }
      | _ => state
  | .expire body => { state with bodies := state.bodies.filter (· ≠ body) }
  | .change => { state with changes := state.changes ++ [.opened] }
  | .invalidate change =>
      state.advance change .opened .invalidated { state with counter := state.counter + 1 }
  | .commit change => state.advance change .invalidated .committed state
  | .flushBumps change =>
      state.advance change .committed .syncing { state with counter := state.counter + 1 }
  | .resync => { state with changes := state.changes ++ [.syncing] }
  | .write change tuple present =>
      if state.changes[change]? = some .syncing ∧ state.written tuple present ≠ state.store then
        { state with store := state.written tuple present, generation := state.generation + 1 }
      else state
  | .complete change =>
      state.advance change .syncing .completed { state with floor := state.generation }

attribute [local simp] step

/-- No answer was computed from tuples that a sync complete before its check has changed. -/
def Current (state : DecisionCache) : Prop :=
  ∀ answer ∈ state.answers, answer.floor ≤ answer.decision.generation

/-- When a sync changes the store, no decision is cached or about to be cached under the
current version of the counter. -/
def Quiet (state : DecisionCache) : DecisionAction → Prop
  | .write change tuple present =>
      state.changes[change]? = some .syncing → state.written tuple present ≠ state.store →
        (∀ body ∈ state.bodies, body.token ≠ state.counter) ∧
          ∀ check ∈ state.checks, ∀ derived ∈ check.derived, derived.1 ≠ state.counter
  | _ => True

instance : DecidablePred Current := fun state =>
  inferInstanceAs (Decidable (∀ answer ∈ state.answers, _))

instance quietDecidable (state : DecisionCache) : (action : DecisionAction) → Decidable (state.Quiet action)
  | .write change tuple present => inferInstanceAs (Decidable (state.changes[change]? = some .syncing →
      state.written tuple present ≠ state.store → (∀ body ∈ state.bodies, body.token ≠ state.counter) ∧
        ∀ check ∈ state.checks, ∀ derived ∈ check.derived, derived.1 ≠ state.counter))
  | .userCan _ | .readVersion _ | .readBody _ | .ask _ | .unavailable _ | .setScoped _ | .expire _
  | .change | .invalidate _ | .commit _ | .flushBumps _ | .resync | .complete _ =>
      inferInstanceAs (Decidable True)

/-- A decision of this generation is cached under the version, or about to be. -/
def Derived (state : DecisionCache) (token generation : Nat) : Prop :=
  (∃ body ∈ state.bodies, body.token = token ∧ body.decision.generation = generation) ∨
    ∃ check ∈ state.checks, check.derived = some (token, generation)

/-- Under the current version there are only decisions of the store as it is, and under the
version a check has read only decisions from after its floor. -/
structure Coherent (state : DecisionCache) : Prop where
  tokens : ∀ token generation, state.Derived token generation → token ≤ state.counter
  current : ∀ generation, state.Derived state.counter generation → generation = state.generation
  floor : state.floor ≤ state.generation
  checks : ∀ check ∈ state.checks, check.floor ≤ state.generation ∧
    ∀ token ∈ check.token, token ≤ state.counter ∧
      ∀ generation, state.Derived token generation → check.floor ≤ generation
  answers : state.Current

/-- How the checks and the decisions of a state come from those before. -/
structure Follows (before after : DecisionCache) : Prop where
  counter : before.counter ≤ after.counter
  generation : before.generation ≤ after.generation
  floor : after.floor ≤ after.generation
  derived : ∀ token generation, after.Derived token generation →
    before.Derived token generation ∧
        (token = after.counter → before.counter = after.counter ∧ before.generation = after.generation) ∨
      token ≤ after.counter ∧ generation = after.generation
  checks : ∀ check ∈ after.checks, check.floor ≤ after.generation ∧ ∀ token ∈ check.token,
    token = after.counter ∨ ∃ old ∈ before.checks, old.token = some token ∧ old.floor = check.floor
  answers : after.Current

section Invariant

variable {state before after : DecisionCache} {allowed : Finset FgaTuple → String → Bool}

/-- The one argument all steps share. -/
theorem Coherent.follows (coherent : before.Coherent) (follows : Follows before after) :
    after.Coherent := by
  have current : ∀ generation, after.Derived after.counter generation → generation = after.generation := by
    intro generation derived
    rcases follows.derived _ _ derived with ⟨old, same⟩ | ⟨-, new⟩
    · obtain ⟨counter, store⟩ := same rfl
      rw [← counter] at old
      exact (coherent.current generation old).trans store
    · exact new
  have tokens : ∀ token generation, after.Derived token generation → token ≤ after.counter := by
    intro token generation derived
    rcases follows.derived _ _ derived with ⟨old, -⟩ | ⟨bounded, -⟩
    · exact (coherent.tokens token generation old).trans follows.counter
    · exact bounded
  refine ⟨tokens, current, follows.floor, fun check inside => ?_, follows.answers⟩
  obtain ⟨below, read⟩ := follows.checks check inside
  refine ⟨below, fun token has => ?_⟩
  rcases read token has with rfl | ⟨old, there, same, floor⟩
  · -- The current version has decisions of the current store only.
    refine ⟨le_rfl, fun generation derived => ?_⟩
    rw [current generation derived]
    exact below
  · obtain ⟨bounded, fresh⟩ := (coherent.checks old there).2 token same
    refine ⟨bounded.trans follows.counter, fun generation derived => ?_⟩
    rcases follows.derived _ _ derived with ⟨earlier, -⟩ | ⟨-, new⟩
    · rw [← floor]
      exact fresh generation earlier
    · rw [new]
      exact below

/-- A step that leaves counter and store alone. -/
theorem Coherent.still (coherent : before.Coherent) (counter : after.counter = before.counter)
    (generation : after.generation = before.generation) (floor : after.floor ≤ after.generation)
    (derived : ∀ token generation, after.Derived token generation →
      before.Derived token generation ∨ token ≤ before.counter ∧ generation = before.generation)
    (checks : ∀ check ∈ after.checks, check.floor ≤ after.generation ∧ ∀ token ∈ check.token,
      token = after.counter ∨ ∃ old ∈ before.checks, old.token = some token ∧ old.floor = check.floor)
    (answers : after.Current) : after.Coherent := by
  refine coherent.follows ⟨counter.ge, generation.ge, floor, fun token gen has => ?_, checks, answers⟩
  rcases derived token gen has with old | new
  · exact .inl ⟨old, fun _ => ⟨counter.symm, generation.symm⟩⟩
  · exact .inr (by rw [counter, generation]; exact new)

/-- What an execution that entered a phase adds. -/
theorem derived_enter {check : Nat} {session : FgaCheck} {phase : CheckPhase} {token generation : Nat}
    (derived : (state.enter check session phase).Derived token generation) :
    state.Derived token generation ∨
      ({ session with phase } : FgaCheck).derived = some (token, generation) := by
  rcases derived with cached | ⟨other, inside, derived⟩
  · exact .inl (.inl cached)
  · rcases List.mem_or_eq_of_mem_set inside with old | rfl
    · exact .inl (.inr ⟨other, old, derived⟩)
    · exact .inr derived

/-- A check that goes on with the version it has, or with none. -/
theorem checks_enter (coherent : state.Coherent) {check : Nat} {session : FgaCheck} {phase : CheckPhase}
    (here : state.checks[check]? = some session)
    (kept : ∀ token ∈ ({ session with phase } : FgaCheck).token,
      token = state.counter ∨ session.token = some token) :
    ∀ other ∈ (state.enter check session phase).checks, other.floor ≤ state.generation ∧
      ∀ token ∈ other.token, token = state.counter ∨
        ∃ old ∈ state.checks, old.token = some token ∧ old.floor = other.floor := by
  intro other inside
  rcases List.mem_or_eq_of_mem_set inside with old | rfl
  · exact ⟨(coherent.checks other old).1, fun token has => .inr ⟨other, old, has, rfl⟩⟩
  · have there := List.mem_of_getElem? here
    refine ⟨(coherent.checks session there).1, fun token has => ?_⟩
    rcases kept token has with now | before
    · exact .inl now
    · exact .inr ⟨session, there, before, rfl⟩

/-- A check that goes on, without a decision or with one of the store as it is. -/
theorem Coherent.enter (coherent : state.Coherent) {check : Nat} {session : FgaCheck} {phase : CheckPhase}
    (here : state.checks[check]? = some session)
    (kept : ∀ token ∈ ({ session with phase } : FgaCheck).token,
      token = state.counter ∨ session.token = some token)
    (derived : ∀ token generation,
      ({ session with phase } : FgaCheck).derived = some (token, generation) →
        token ≤ state.counter ∧ generation = state.generation) :
    (state.enter check session phase).Coherent := by
  refine coherent.still rfl rfl coherent.floor (fun token generation has => ?_)
    (checks_enter coherent here kept) coherent.answers
  rcases derived_enter has with old | new
  · exact .inl old
  · exact .inr (derived token generation new)

/-- A check that returns a decision made under the version it has read. -/
theorem Coherent.answer (coherent : state.Coherent) {check token : Nat} {session : FgaCheck}
    {decision : Decision} (here : state.checks[check]? = some session) (read : session.token = some token)
    (derived : state.Derived token decision.generation) :
    (state.answer check session decision).Coherent := by
  have there := List.mem_of_getElem? here
  have fresh := ((coherent.checks session there).2 token read).2 _ derived
  refine coherent.still rfl rfl coherent.floor (fun token generation has => ?_)
    (checks_enter coherent here fun token has => by cases has) ?_
  · have entered : (state.enter check session .returned).Derived token generation := has
    rcases derived_enter entered with old | new
    · exact .inl old
    · cases new
  · intro answer inside
    rcases List.mem_append.mp inside with old | new
    · exact coherent.answers answer old
    · rw [List.mem_singleton.mp new]
      exact fresh

theorem coherent_userCan (coherent : state.Coherent) (permission : String) :
    (state.step allowed (.userCan permission)).Coherent := by
  refine coherent.still rfl rfl coherent.floor (fun token generation has => .inl ?_)
    (fun check inside => ?_) coherent.answers
  · rcases has with cached | ⟨check, inside, derived⟩
    · exact .inl cached
    · rcases List.mem_append.mp inside with old | new
      · exact .inr ⟨check, old, derived⟩
      · rw [List.mem_singleton.mp new] at derived
        cases derived
  · rcases List.mem_append.mp inside with old | new
    · exact ⟨(coherent.checks check old).1, fun token has => .inr ⟨check, old, has, rfl⟩⟩
    · rw [List.mem_singleton.mp new]
      exact ⟨coherent.floor, fun token has => by cases has⟩

theorem coherent_readVersion (coherent : state.Coherent) (check : Nat) :
    (state.step allowed (.readVersion check)).Coherent := by
  simp only [step]
  split
  · next permission floor here =>
      refine coherent.enter here (fun token has => ?_) (fun token generation has => by cases has)
      exact .inl (Option.some.inj has).symm
  · exact coherent

theorem coherent_readBody (coherent : state.Coherent) (check : Nat) :
    (state.step allowed (.readBody check)).Coherent := by
  simp only [step]
  split
  · next permission floor token here =>
      split
      · next decision found =>
          obtain ⟨body, search, rfl⟩ := Option.map_eq_some_iff.mp found
          have named : body.token = token ∧ body.permission = permission := by
            simpa using List.find?_some search
          exact coherent.answer here rfl (.inl ⟨body, List.mem_of_find?_eq_some search, named.1, rfl⟩)
      · exact coherent.enter here (fun _ has => .inr has) (fun _ _ has => by cases has)
  · exact coherent

theorem coherent_ask (coherent : state.Coherent) (check : Nat) :
    (state.step allowed (.ask check)).Coherent := by
  simp only [step]
  split
  · next permission floor token here =>
      refine coherent.enter here (fun _ has => .inr has) (fun other generation has => ?_)
      obtain ⟨rfl, rfl⟩ := Prod.mk.inj (Option.some.inj has)
      exact ⟨((coherent.checks _ (List.mem_of_getElem? here)).2 token rfl).1, rfl⟩
  · exact coherent

theorem coherent_unavailable (coherent : state.Coherent) (check : Nat) :
    (state.step allowed (.unavailable check)).Coherent := by
  simp only [step]
  split
  · next permission floor token here =>
      exact coherent.enter here (fun _ has => by cases has) (fun _ _ has => by cases has)
  · exact coherent

/-- What is cached was about to be. -/
theorem coherent_setScoped (coherent : state.Coherent) (check : Nat) :
    (state.step allowed (.setScoped check)).Coherent := by
  simp only [step]
  split
  · next permission floor token decision here =>
      have there := List.mem_of_getElem? here
      have own : state.Derived token decision.generation := .inr ⟨_, there, rfl⟩
      have answered := coherent.answer here rfl own
      refine coherent.still rfl rfl coherent.floor (fun other generation has => ?_)
        (checks_enter coherent here fun _ has => by cases has) answered.answers
      rcases has with ⟨body, inside, named, made⟩ | waiting
      · rcases List.mem_cons.mp inside with rfl | old
        · rw [← named, ← made]
          exact .inl own
        · exact .inl (.inl ⟨body, old, named, made⟩)
      · have rest : (state.enter check ⟨permission, floor, .asked token decision⟩ .returned).Derived other
            generation := .inr waiting
        rcases derived_enter rest with old | new
        · exact .inl old
        · cases new
  · exact coherent

theorem coherent_expire (coherent : state.Coherent) (body : CachedDecision) :
    (state.step allowed (.expire body)).Coherent := by
  refine coherent.still rfl rfl coherent.floor (fun token generation has => .inl ?_)
    (fun check inside => ⟨(coherent.checks check inside).1, fun token has => .inr ⟨check, inside, has, rfl⟩⟩)
    coherent.answers
  rcases has with ⟨cached, inside, named⟩ | waiting
  · exact .inl ⟨cached, (List.mem_filter.mp inside).1, named⟩
  · exact .inr waiting

/-- A bump leaves no decision under the current version. -/
theorem Coherent.bump (coherent : state.Coherent) (changes : List ChangePhase) :
    ({ state with counter := state.counter + 1, changes } : DecisionCache).Coherent := by
  refine coherent.follows ⟨Nat.le_succ _, le_rfl, coherent.floor, fun token generation has => .inl ⟨has, ?_⟩,
    fun check inside => ⟨(coherent.checks check inside).1, fun token has => .inr ⟨check, inside, has, rfl⟩⟩,
    coherent.answers⟩
  intro last
  have bounded := coherent.tokens token generation has
  have raised : token = state.counter + 1 := last
  omega

/-- Beside bumps, changes move and the floor rises to the store as it is. -/
theorem Coherent.changed (coherent : state.Coherent) {floor : Nat} (bounded : floor ≤ state.generation)
    (changes : List ChangePhase) : ({ state with floor, changes } : DecisionCache).Coherent :=
  coherent.still rfl rfl bounded (fun _ _ has => .inl has)
    (fun check inside => ⟨(coherent.checks check inside).1, fun _ has => .inr ⟨check, inside, has, rfl⟩⟩)
    coherent.answers

/-- A write that meets no decision under the current version. -/
theorem coherent_write (coherent : state.Coherent) {change : Nat} {tuple : FgaTuple} {present : Bool}
    (quiet : state.Quiet (.write change tuple present)) :
    (state.step allowed (.write change tuple present)).Coherent := by
  simp only [step]
  split
  · next real =>
      obtain ⟨cached, waiting⟩ := quiet real.1 real.2
      have floor := coherent.floor
      refine coherent.follows ⟨le_rfl, Nat.le_succ _, floor.trans (Nat.le_succ _),
        fun token generation has => .inl ⟨has, fun last => ?_⟩,
        fun check inside => ⟨(coherent.checks check inside).1.trans (Nat.le_succ _),
          fun token has => .inr ⟨check, inside, has, rfl⟩⟩, coherent.answers⟩
      rcases has with ⟨body, inside, named, -⟩ | ⟨check, inside, derived⟩
      · exact absurd (named.trans last) (cached body inside)
      · exact absurd last (waiting check inside _ derived)
  · exact coherent

theorem Coherent.step (coherent : state.Coherent) {action : DecisionAction} (quiet : state.Quiet action) :
    (state.step allowed action).Coherent := by
  cases action with
  | userCan permission => exact coherent_userCan coherent permission
  | readVersion check => exact coherent_readVersion coherent check
  | readBody check => exact coherent_readBody coherent check
  | ask check => exact coherent_ask coherent check
  | unavailable check => exact coherent_unavailable coherent check
  | setScoped check => exact coherent_setScoped coherent check
  | expire body => exact coherent_expire coherent body
  | change => exact coherent.changed coherent.floor _
  | resync => exact coherent.changed coherent.floor _
  | write change tuple present => exact coherent_write coherent quiet
  | invalidate change =>
      simp only [DecisionCache.step, advance]
      split
      · exact coherent.bump _
      · exact coherent
  | commit change =>
      simp only [DecisionCache.step, advance]
      split
      · exact coherent.changed coherent.floor _
      · exact coherent
  | flushBumps change =>
      simp only [DecisionCache.step, advance]
      split
      · exact coherent.bump _
      · exact coherent
  | complete change =>
      simp only [DecisionCache.step, advance]
      split
      · exact coherent.changed le_rfl _
      · exact coherent

/-- Nothing is cached at first. -/
theorem Coherent.opening (store : Finset FgaTuple) : ({ store } : DecisionCache).Coherent where
  tokens := by
    rintro token generation (⟨body, inside, -⟩ | ⟨check, inside, -⟩)
    · cases inside
    · cases inside
  current := by
    rintro generation (⟨body, inside, -⟩ | ⟨check, inside, -⟩)
    · cases inside
    · cases inside
  floor := le_rfl
  checks := fun check inside => by cases inside
  answers := fun answer inside => by cases inside

end Invariant

/-- If syncs change the store only while no decision is cached or about to be cached under the
current version, then no answer is older than the last sync that was complete before it. -/
theorem decisions_current (allowed : Finset FgaTuple → String → Bool) (store : Finset FgaTuple)
    (actions : List DecisionAction)
    (quiet : Runs.Guarded (DecisionCache.step allowed) Quiet { store } actions) :
    Runs.Always (DecisionCache.step allowed) Current { store } actions := by
  have coherent : Runs.Always (DecisionCache.step allowed) Coherent { store } actions :=
    Runs.always_of_guarded _ (fun _ _ coherent quiet => coherent.step quiet) (Coherent.opening store) quiet
  exact coherent.mono _ fun _ coherent => coherent.answers

/-- The store's answer where nothing but a tuple for the permission itself gives it. -/
def directly (tuples : Finset FgaTuple) (permission : String) : Bool :=
  (⟨userObject 1, relationFor permission, AuthorizationService.orgObject 1⟩ : FgaTuple) ∈ tuples

def readsAudit : FgaTuple := ⟨userObject 1, "can_audit_read", AuthorizationService.orgObject 1⟩

def asks (check : Nat) : List DecisionAction :=
  [.userCan "audit:read", .readVersion check, .readBody check, .ask check, .setScoped check]

/-- The permission is revoked, and only then is asked for. -/
def revokedFirst : List DecisionAction :=
  asks 0 ++ [.change, .invalidate 0, .commit 0, .flushBumps 0, .write 0 readsAudit false, .complete 0] ++ asks 1

theorem decisions_current_revokedFirst :
    Runs.Always (step directly) Current { store := {readsAudit} } revokedFirst :=
  decisions_current directly {readsAudit} revokedFirst (by decide +kernel)

/-- It is asked for between the bump after the commit and the sync. -/
def askedBetween : List DecisionAction :=
  [.change, .invalidate 0, .commit 0, .flushBumps 0] ++ asks 0 ++
    [.write 0 readsAudit false, .complete 0] ++ asks 1

/-- After the sync is complete the permission is still granted, from the cache. -/
theorem revoked_permission_cached :
    (Runs.run (step directly) { store := {readsAudit} } askedBetween).answers =
        [⟨"audit:read", 0, ⟨true, 0⟩⟩, ⟨"audit:read", 1, ⟨true, 0⟩⟩] ∧
      ¬ Runs.Always (step directly) Current { store := {readsAudit} } askedBetween := by
  refine ⟨by decide +kernel, fun always => ?_⟩
  exact absurd (Runs.Always.last _ always) (by decide +kernel)

end DecisionCache

end SynapseSaas.Tenancy
