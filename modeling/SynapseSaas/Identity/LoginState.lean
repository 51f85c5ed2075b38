import SynapseSaas.Core.CacheFreshness
import SynapseSaas.Core.Errors

/-! The state of a single sign-on: kept in the cache by `oidc_start`, consumed by
`oidc_callback` with a read and, apart from it, an invalidation. -/

set_option autoImplicit false

namespace SynapseSaas.Identity

open Tasks (Task)

def OIDC_STATE_TTL_SECONDS : Nat := 600

def oidcState : VersionedCache :=
  { space := ⟨"oidc", by decide⟩, ttl := OIDC_STATE_TTL_SECONDS, holder := "identity" }

def stateVersionKey (state : String) : String := oidcState.space.versionKey state
def stateBodyKey (state : String) (version : Nat) : String := oidcState.space.bodyKey state version

/-- What the identity provider sends the browser back with. -/
structure OidcReturn where
  code : Option String
  state : Option String
  error : Option String
  deriving DecidableEq, Repr

/-- A parameter that is present and not empty. -/
def given : Option String → Option String := Option.filter (· ≠ "")

section Endpoints

variable {State : Type} (backend : CacheBackend State)

/-- The pending login is stored under a state drawn for it. -/
def oidcStart (state pending : String) : Task State Unit := oidcState.set backend state pending none

/-- The check of the state and its consumption. -/
def consumeState (state : String) : Task State (Result String) := do
  match ← oidcState.get backend state with
  | none => return raise .authentication "Unknown or expired login state"
  | some raw =>
      oidcState.delete backend state
      return .ok raw

/-- The endpoint up to the exchange of the code, for which it has the pending login. -/
def oidcCallback (request : OidcReturn) : Task State (Result String) :=
  match given request.error, given request.code, given request.state with
  | some error, _, _ =>
      return raise .authentication ("Identity provider refused the login: " ++ error)
  | none, some _, some state => consumeState backend state
  | none, _, _ => return raise .authentication "Missing code or state"

end Endpoints

/-! The same, as what every operation leaves of a callback. -/

inductive CallbackPhase where
  | begun
  | versioned (version : Nat)
  | found (version : Nat) (raw : String)
  | ended (result : Result String)

structure OidcCallback where
  state : String
  phase : CallbackPhase

namespace OidcCallback

def arrive (request : OidcReturn) : OidcCallback :=
  match given request.error, given request.code, given request.state with
  | some error, _, _ =>
      ⟨"", .ended (raise .authentication ("Identity provider refused the login: " ++ error))⟩
  | none, some _, some state => ⟨state, .begun⟩
  | none, _, _ => ⟨"", .ended (raise .authentication "Missing code or state")⟩

/-- The next operation of a callback on the cache. -/
def advance (redis : Redis) (callback : OidcCallback) : OidcCallback × Redis :=
  match callback.phase with
  | .begun =>
      ({ callback with phase := .versioned (versionOf (redis.get (stateVersionKey callback.state))) },
        redis)
  | .versioned version =>
      match redis.get (stateBodyKey callback.state version) with
      | none =>
          let refused := raise .authentication "Unknown or expired login state"
          ({ callback with phase := .ended refused }, redis)
      | some raw => ({ callback with phase := .found version raw }, redis)
  | .found _ raw =>
      ({ callback with phase := .ended (.ok raw) },
        (redis.incr (stateVersionKey callback.state)).2)
  | .ended _ => (callback, redis)

/-- What is left to do of the endpoint. -/
def task {Rows : Type} (callback : OidcCallback) : Task (World Rows) (Result String) :=
  match callback.phase with
  | .begun => consumeState redisBackend callback.state
  | .versioned version => do
      match ← .operate (redisBackend.get (stateBodyKey callback.state version)) with
      | none => return raise .authentication "Unknown or expired login state"
      | some raw =>
          oidcState.delete redisBackend callback.state
          return .ok raw
  | .found _ raw => do
      oidcState.delete redisBackend callback.state
      return .ok raw
  | .ended result => return result

/-- The check was passed and the state consumed. -/
def passed (callback : OidcCallback) : Bool :=
  match callback.phase with
  | .ended (.ok _) => true
  | _ => false

theorem task_arrive {Rows : Type} (request : OidcReturn) :
    (arrive request).task = (oidcCallback redisBackend request : Task (World Rows) _) := by
  unfold arrive oidcCallback
  split <;> rfl

/-- The phases are the endpoint: a callback that has not ended performs one atomic
operation on the cache and goes on with what that finds. -/
theorem task_advance {Rows : Type} (callback : OidcCallback)
    (running : ∀ result, callback.phase ≠ .ended result) :
    ∃ (effect : World Rows → World Rows) (next : World Rows → Task (World Rows) (Result String)),
      callback.task = .atomic effect next ∧ ∀ world,
        (effect world).redis = (callback.advance world.redis).2 ∧
          next world = (callback.advance world.redis).1.task := by
  obtain ⟨state, phase⟩ := callback
  cases phase with
  | begun => exact ⟨_, _, rfl, fun world => ⟨rfl, rfl⟩⟩
  | versioned version =>
      refine ⟨_, _, rfl, fun world => ?_⟩
      simp only [advance, redisBackend]
      cases world.redis.get (stateBodyKey state version) <;> exact ⟨rfl, rfl⟩
  | found version raw =>
      refine ⟨_, _, rfl, fun world => ⟨rfl, ?_⟩⟩
      simp only [advance, redisBackend, stateVersionKey]
      cases (world.redis.incr (oidcState.space.versionKey state)).1 <;> rfl
  | ended result => exact absurd rfl (running result)

end OidcCallback

/-- The cache and the callbacks at work on it. -/
structure LoginSystem where
  redis : Redis
  callbacks : List OidcCallback

inductive LoginMove where
  | arrive (request : OidcReturn)
  | advance (index : Nat)
  | expire (key : String)
  deriving DecidableEq

def loginStep (system : LoginSystem) : LoginMove → LoginSystem
  | .arrive request => { system with callbacks := system.callbacks ++ [.arrive request] }
  | .advance index =>
      match system.callbacks[index]? with
      | none => system
      | some callback =>
          { redis := (callback.advance system.redis).2
            callbacks := system.callbacks.set index (callback.advance system.redis).1 }
  | .expire key => { system with redis := system.redis.expire key }

namespace LoginSystem

variable (system : LoginSystem)

def version (state : String) : Nat := versionOf (system.redis.get (stateVersionKey state))

/-- How many callbacks the state has let in. -/
def admissions (state : String) : Nat :=
  system.callbacks.countP fun callback => callback.passed && callback.state = state

def OneShot : Prop := ∀ state, system.admissions state ≤ 1

end LoginSystem

/-- A callback that consumes a state finds its counter where it read it. -/
def LoginMove.Undisturbed (system : LoginSystem) : LoginMove → Prop
  | .advance index => ∀ state version raw,
      system.callbacks[index]? = some ⟨state, .found version raw⟩ → system.version state = version
  | .arrive _ | .expire _ => True

/-- The states that starts have left in the cache: no body lies ahead of its counter. -/
structure StatesStored (redis : Redis) : Prop where
  counters : ∀ state entry, redis (stateVersionKey state) = some entry →
    ∃ version : Nat, entry = ⟨toString version, false⟩
  bodies : ∀ state version entry, redis (stateBodyKey state version) = some entry →
    version ≤ versionOf (redis.get (stateVersionKey state))

/-- What is true throughout a run: the counter of a state has been raised once for
every callback it let in, and only the bodies stored before the run are read. -/
structure Counted (base : String → Nat) (system : LoginSystem) : Prop where
  counters : ∀ state entry, system.redis (stateVersionKey state) = some entry →
    ∃ version : Nat, entry = ⟨toString version, false⟩
  bodies : ∀ state version entry, system.redis (stateBodyKey state version) = some entry →
    version ≤ base state
  raised : ∀ state, system.version state = base state + system.admissions state
  reading : ∀ callback ∈ system.callbacks, ∀ version, callback.phase = .versioned version →
    base callback.state ≤ version
  holding : ∀ callback ∈ system.callbacks, ∀ version raw, callback.phase = .found version raw →
    version = base callback.state

theorem stateVersionKey_injective {state other : String}
    (same : stateVersionKey state = stateVersionKey other) : state = other := by
  have texts := congrArg String.toList same
  rw [stateVersionKey, stateVersionKey, Space.versionKey_toList, Space.versionKey_toList] at texts
  exact String.toList_inj.mp (by simpa using texts)

section Redis

variable {redis : Redis} {state : String}

/-- INCR on a counter. -/
theorem incr_state (counters : ∀ state entry, redis (stateVersionKey state) = some entry →
      ∃ version : Nat, entry = ⟨toString version, false⟩) :
    (redis.incr (stateVersionKey state)).2 = redis.put (stateVersionKey state)
      ⟨toString (versionOf (redis.get (stateVersionKey state)) + 1), false⟩ := by
  cases found : redis (stateVersionKey state) with
  | none => simp [Redis.incr, Redis.get, found, versionOf]
  | some entry =>
      obtain ⟨version, rfl⟩ := counters state entry found
      simp only [Redis.incr, Redis.get, found, Redis.integer_toString, Option.map_some,
        versionOf_toString]

theorem put_version_self (entry : RedisEntry) :
    (redis.put (stateVersionKey state) entry).get (stateVersionKey state) = some entry.value := by
  simp [Redis.put, Redis.get]

theorem put_version_other {other : String} (entry : RedisEntry) (apart : other ≠ state) :
    (redis.put (stateVersionKey state) entry) (stateVersionKey other) =
      redis (stateVersionKey other) :=
  if_neg fun same => apart (stateVersionKey_injective same)

theorem put_version_body {other : String} {version : Nat} (entry : RedisEntry) :
    (redis.put (stateVersionKey state) entry) (stateBodyKey other version) =
      redis (stateBodyKey other version) :=
  if_neg Space.bodyKey_ne_versionKey

/-- A counter has no time to live. -/
theorem expire_version (counters : ∀ state entry, redis (stateVersionKey state) = some entry →
      ∃ version : Nat, entry = ⟨toString version, false⟩) (key : String) :
    redis.expire key (stateVersionKey state) = redis (stateVersionKey state) := by
  rcases redis.expire_cases key with same | ⟨⟨value, found⟩, removed⟩
  · rw [same]
  · rw [removed, Redis.remove, if_neg]
    rw [List.mem_singleton]
    intro same
    rw [← same] at found
    obtain ⟨version, immortal⟩ := counters state _ found
    cases immortal

end Redis

/-- What `oidc_start` stores lies under the counter it has just read. -/
theorem StatesStored.start {Rows : Type} {world : World Rows} (stored : StatesStored world.redis)
    (state pending : String) :
    StatesStored ((oidcStart redisBackend state pending).run world).2.redis := by
  let body := stateBodyKey state (versionOf (world.redis.get (stateVersionKey state)))
  have redis : ((oidcStart redisBackend state pending).run world).2.redis =
      world.redis.put body ⟨pending, true⟩ := rfl
  have versions (other : String) :
      (world.redis.put body ⟨pending, true⟩) (stateVersionKey other) =
        world.redis (stateVersionKey other) :=
    if_neg fun same => Space.bodyKey_ne_versionKey same.symm
  rw [redis]
  refine ⟨fun other entry found => ?_, fun other version entry found => ?_⟩
  · rw [versions] at found
    exact stored.counters other entry found
  · rw [Redis.get, versions]
    by_cases same : stateBodyKey other version = body
    · obtain ⟨-, rfl, rfl⟩ := Space.bodyKey_injective same
      exact le_rfl
    · rw [Redis.put, if_neg same] at found
      exact stored.bodies other version entry found

namespace Counted

variable {base : String → Nat} {system : LoginSystem}

theorem initial {redis : Redis} (stored : StatesStored redis) :
    Counted (LoginSystem.version ⟨redis, []⟩) ⟨redis, []⟩ where
  counters := stored.counters
  bodies := stored.bodies
  raised _ := rfl
  reading _ member := by cases member
  holding _ member := by cases member

/-- A callback that goes on without having passed leaves all counts. -/
theorem admissions_set {index : Nat} {callback next : OidcCallback} {redis : Redis}
    (here : system.callbacks[index]? = some callback) (waiting : callback.passed = false)
    (state : String) :
    (LoginSystem.mk redis (system.callbacks.set index next)).admissions state =
      system.admissions state + if next.passed && next.state = state then 1 else 0 := by
  obtain ⟨inside, same⟩ := List.getElem?_eq_some_iff.mp here
  simp only [LoginSystem.admissions]
  rw [List.countP_set inside, same, waiting]
  simp

theorem mem_set {index : Nat} {next other : OidcCallback}
    (member : other ∈ system.callbacks.set index next) : other = next ∨ other ∈ system.callbacks := by
  rcases List.mem_or_eq_of_mem_set member with old | new
  · exact .inr old
  · exact .inl new

/-- An operation that only reads. -/
theorem proceed (counted : Counted base system) {index : Nat} {callback next : OidcCallback}
    (here : system.callbacks[index]? = some callback) (waiting : callback.passed = false)
    (still : next.passed = false)
    (reading : ∀ version, next.phase = .versioned version → base next.state ≤ version)
    (holding : ∀ version raw, next.phase = .found version raw → version = base next.state) :
    Counted base ⟨system.redis, system.callbacks.set index next⟩ where
  counters := counted.counters
  bodies := counted.bodies
  raised state := by
    rw [admissions_set here waiting, still]
    exact counted.raised state
  reading other member version phase := by
    rcases mem_set member with rfl | old
    · exact reading version phase
    · exact counted.reading other old version phase
  holding other member version raw phase := by
    rcases mem_set member with rfl | old
    · exact holding version raw phase
    · exact counted.holding other old version raw phase

/-- The operation that consumes a state. -/
theorem consume (counted : Counted base system) {index version : Nat} {state raw : String}
    (here : system.callbacks[index]? = some ⟨state, .found version raw⟩) :
    Counted base ⟨(system.redis.incr (stateVersionKey state)).2,
      system.callbacks.set index ⟨state, .ended (.ok raw)⟩⟩ := by
  rw [incr_state counted.counters]
  constructor
  · intro other entry found
    dsimp only at found
    by_cases same : other = state
    · subst same
      simp only [Redis.put, if_true] at found
      exact ⟨_, (Option.some.inj found).symm⟩
    · rw [put_version_other _ same] at found
      exact counted.counters other entry found
  · intro other number entry found
    dsimp only at found
    rw [put_version_body] at found
    exact counted.bodies other number entry found
  · intro other
    have before := counted.raised other
    rw [admissions_set here rfl]
    by_cases same : other = state
    · subst same
      rw [LoginSystem.version, put_version_self, versionOf_toString]
      simp only [LoginSystem.version] at before
      rw [before]
      simp [OidcCallback.passed, Nat.add_assoc]
    · dsimp only [LoginSystem.version, Redis.get] at before ⊢
      rw [put_version_other _ same, before]
      simp [OidcCallback.passed, Ne.symm same]
  · intro other member number phase
    rcases mem_set member with rfl | old
    · cases phase
    · exact counted.reading other old number phase
  · intro other member number text phase
    rcases mem_set member with rfl | old
    · cases phase
    · exact counted.holding other old number text phase

theorem arrive (counted : Counted base system) (request : OidcReturn) :
    Counted base { system with callbacks := system.callbacks ++ [.arrive request] } := by
  have begun : (OidcCallback.arrive request).passed = false ∧
      (∀ version, (OidcCallback.arrive request).phase ≠ .versioned version) ∧
      ∀ version raw, (OidcCallback.arrive request).phase ≠ .found version raw := by
    unfold OidcCallback.arrive
    split <;> simp [OidcCallback.passed, raise]
  obtain ⟨waiting, unread, unheld⟩ := begun
  refine ⟨counted.counters, counted.bodies, fun state => ?_, fun callback member version phase => ?_,
    fun callback member version raw phase => ?_⟩
  · have before := counted.raised state
    simp only [LoginSystem.version, LoginSystem.admissions] at before ⊢
    rw [List.countP_append, before]
    simp [waiting]
  · rcases List.mem_append.mp member with old | new
    · exact counted.reading callback old version phase
    · cases List.mem_singleton.mp new
      exact absurd phase (unread version)
  · rcases List.mem_append.mp member with old | new
    · exact counted.holding callback old version raw phase
    · cases List.mem_singleton.mp new
      exact absurd phase (unheld version raw)

theorem expire (counted : Counted base system) (key : String) :
    Counted base { system with redis := system.redis.expire key } where
  counters state entry found := by
    dsimp only at found
    rw [expire_version counted.counters] at found
    exact counted.counters state entry found
  bodies state version entry found := counted.bodies state version entry (Redis.expire_of_some found)
  raised state := by
    have before := counted.raised state
    simp only [LoginSystem.version, Redis.get] at before ⊢
    rw [expire_version counted.counters]
    exact before
  reading := counted.reading
  holding := counted.holding

theorem advance (counted : Counted base system) {index : Nat} {callback : OidcCallback}
    (here : system.callbacks[index]? = some callback) :
    Counted base ⟨(callback.advance system.redis).2,
      system.callbacks.set index (callback.advance system.redis).1⟩ := by
  have member : callback ∈ system.callbacks := List.mem_of_getElem? here
  obtain ⟨state, phase⟩ := callback
  cases phase with
  | begun =>
      apply counted.proceed here rfl rfl
      · rintro version same
        cases same
        have raised := counted.raised state
        simp only [LoginSystem.version] at raised
        simp only [OidcCallback.advance]
        omega
      · intro version raw impossible
        cases impossible
  | versioned version =>
      have read := counted.reading _ member version rfl
      simp only [OidcCallback.advance]
      cases found : system.redis.get (stateBodyKey state version) with
      | none =>
          apply counted.proceed here rfl rfl
          · intro version impossible
            cases impossible
          · intro version raw impossible
            cases impossible
      | some raw =>
          apply counted.proceed here rfl rfl
          · intro version impossible
            cases impossible
          · rintro number text same
            cases same
            -- Nothing has been stored since the counters stood at their base.
            obtain ⟨entry, stored, -⟩ := Option.map_eq_some_iff.mp found
            exact le_antisymm (counted.bodies state version entry stored) read
  | found version raw => exact counted.consume here
  | ended result =>
      obtain ⟨inside, same⟩ := List.getElem?_eq_some_iff.mp here
      simp only [OidcCallback.advance]
      rw [← same, List.set_getElem_self]
      exact counted

theorem step (counted : Counted base system) (move : LoginMove) :
    Counted base (loginStep system move) := by
  cases move with
  | arrive request => exact counted.arrive request
  | expire key => exact counted.expire key
  | advance index =>
      simp only [loginStep]
      cases here : system.callbacks[index]? with
      | none => exact counted
      | some callback => exact counted.advance here

/-- Where no counter moves, nobody is let in. -/
theorem admissions_eq (counted : Counted base system) {after : LoginSystem}
    (later : Counted base after) {state : String} (same : after.version state = system.version state) :
    after.admissions state = system.admissions state := by
  have before := counted.raised state
  have now := later.raised state
  omega

/-- A step keeps states one-shot exactly if what it consumes was not consumed since
it was read. -/
theorem oneShot_step_iff (counted : Counted base system) (oneShot : system.OneShot)
    (move : LoginMove) : (loginStep system move).OneShot ↔ move.Undisturbed system := by
  have quiet (same : ∀ state, (loginStep system move).version state = system.version state) :
      (loginStep system move).OneShot := by
    intro state
    rw [counted.admissions_eq (counted.step move) (same state)]
    exact oneShot state
  cases move with
  | arrive request => exact iff_of_true (quiet fun _ => rfl) trivial
  | expire key =>
      refine iff_of_true (quiet fun state => ?_) trivial
      simp only [loginStep, LoginSystem.version, Redis.get]
      rw [expire_version counted.counters]
  | advance index =>
      cases here : system.callbacks[index]? with
      | none =>
          refine iff_of_true (quiet fun _ => by simp only [loginStep, here]) ?_
          intro state version raw found
          rw [here] at found
          cases found
      | some callback =>
          obtain ⟨state, phase⟩ := callback
          cases phase with
          | found version raw =>
              have held := counted.holding _ (List.mem_of_getElem? here) version raw rfl
              have raised := counted.raised state
              have count (other : String) : (loginStep system (.advance index)).admissions other =
                  system.admissions other + if state = other then 1 else 0 := by
                simp only [loginStep, here]
                rw [admissions_set here rfl]
                by_cases same : state = other <;>
                  simp [OidcCallback.advance, OidcCallback.passed, same]
              dsimp only at held
              constructor
              · intro after name number text found
                rw [here] at found
                cases found
                have once := after state
                rw [count, if_pos rfl] at once
                omega
              · intro undisturbed other
                have standing := undisturbed state version raw here
                have once := oneShot other
                rw [count]
                split
                · next same =>
                    subst same
                    omega
                · exact once
          | begun =>
              refine iff_of_true (quiet fun _ => by simp only [loginStep, here]; rfl) ?_
              intro state version raw found
              rw [here] at found
              cases found
          | versioned version =>
              have unchanged : (OidcCallback.advance system.redis ⟨state, .versioned version⟩).2 =
                  system.redis := by
                simp only [OidcCallback.advance]
                split <;> rfl
              refine iff_of_true (quiet fun other => ?_) ?_
              · simp only [loginStep, here, LoginSystem.version, unchanged]
              · intro state version raw found
                rw [here] at found
                cases found
          | ended result =>
              refine iff_of_true (quiet fun _ => by simp only [loginStep, here]; rfl) ?_
              intro state version raw found
              rw [here] at found
              cases found

end Counted

/-- A login state lets in at most one callback, throughout a run of callbacks on
stored states, exactly if no two consume it between them. -/
theorem oneShot_iff {redis : Redis} (stored : StatesStored redis) (moves : List LoginMove) :
    Runs.Always loginStep LoginSystem.OneShot ⟨redis, []⟩ moves ↔
      Runs.Guarded loginStep (fun system move => move.Undisturbed system) ⟨redis, []⟩ moves := by
  refine Runs.always_iff_guarded _ ?_ ?_ (Counted.initial stored) ?_ moves
  · exact fun system move counted => counted.step move
  · exact fun system move counted oneShot => counted.oneShot_step_iff oneShot move
  · exact fun state => Nat.zero_le _

end SynapseSaas.Identity
