import SynapseSaas.Core.CacheFreshness
import Mathlib.Algebra.Order.Ring.Rat
import Mathlib.Data.NNRat.Defs
import Mathlib.Tactic.Linarith

/-! The cache over the in-process backend, whose bodies and counters run out, each
at its own time. A counter that has run out restarts from zero. -/

set_option autoImplicit false

namespace SynapseSaas

open Tasks (Task)

def VERSION_TTL_SECONDS : Nat := 3600

structure TTLDictEntry where
  expires : ℚ
  value : String
  deriving DecidableEq

/-- What the process has stored, `time.monotonic()` in seconds, and, for the
record only, how many writes there were and which of them wrote a key last. -/
structure TTLDict where
  store : String → Option TTLDictEntry
  clock : ℚ
  turn : Nat
  written : String → Nat

namespace TTLDict

variable (dict : TTLDict)

def empty (clock : ℚ) : TTLDict := ⟨fun _ => none, clock, 0, fun _ => 0⟩

/-- The entry of a key, unless it has run out. -/
def live (key : String) : Option TTLDictEntry :=
  (dict.store key).filter fun entry => ¬entry.expires < dict.clock

def drop (key : String) : TTLDict :=
  { dict with store := fun other => if other = key then none else dict.store other }

def get (key : String) : Option String × TTLDict :=
  match dict.store key with
  | none => (none, dict)
  | some entry =>
      if entry.expires < dict.clock then (none, dict.drop key) else (some entry.value, dict)

def set (key value : String) (ex : Nat) : TTLDict where
  store other := if other = key then some ⟨dict.clock + ex, value⟩ else dict.store other
  clock := dict.clock
  turn := dict.turn + 1
  written other := if other = key then dict.turn + 1 else dict.written other

/-- `int(current) if current else 0`, which raises on what is no integer. -/
def counted (current : Option String) : Option Nat :=
  match current with
  | some raw => if raw = "" then some 0 else Redis.integer raw
  | none => some 0

def incr (key : String) : Option Nat × TTLDict :=
  let (current, dict) := dict.get key
  match counted current with
  | some count => (some (count + 1), dict.set key (toString (count + 1)) VERSION_TTL_SECONDS)
  | none => (none, dict)

def wait (gap : ℚ≥0) : TTLDict := { dict with clock := dict.clock + gap }

end TTLDict

def ttlDictBackend : CacheBackend TTLDict where
  get key dict := dict.get key
  set key value ex dict := ((), dict.set key value ex)
  delete keys dict := ((), keys.foldl TTLDict.drop dict)
  incr key dict := dict.incr key

/-! The calls. None of them is interrupted: nothing this backend does has to be
waited for. -/

inductive CacheCall where
  | bump (cache : VersionedCache) (key : String)
  | getVersioned (cache : VersionedCache) (key : String)
  | set (cache : VersionedCache) (key value : String) (version : Option Nat)
  | getScoped (cache : VersionedCache) (key : String) (scopes : List Scope)
  | setScoped (cache : VersionedCache) (key value : String) (observed : List (Scope × Nat))

/-- The token of scopes at these versions. -/
def observedToken (observed : List (Scope × Nat)) : String :=
  scopeToken (observed.map (·.1)) (observed.map (·.2))

def CacheCall.perform : CacheCall → TTLDict → TTLDict
  | .bump cache key, dict => ((cache.bump ttlDictBackend key).run dict).2
  | .getVersioned cache key, dict => ((cache.getVersioned ttlDictBackend key).run dict).2
  | .set cache key value version, dict => ((cache.set ttlDictBackend key value version).run dict).2
  | .getScoped cache key scopes, dict => ((cache.getScoped ttlDictBackend key scopes).run dict).2
  | .setScoped cache key value observed, dict =>
      ((cache.setScoped ttlDictBackend key value (observedToken observed)).run dict).2

/-- No body is stored for longer than a minute. -/
def CacheCall.Brief : CacheCall → Prop
  | .set cache .. | .setScoped cache .. => cache.ttl ≤ 60
  | .bump .. | .getVersioned .. | .getScoped .. => True

inductive CacheMove where
  | wait (gap : ℚ≥0)
  | call (call : CacheCall)

def CacheMove.Brief : CacheMove → Prop
  | .wait _ => True
  | .call made => made.Brief

/-- The bodies it stores stand under the counter of their key alone. -/
def CacheMove.Keyed : CacheMove → Prop
  | .call (.setScoped ..) => False
  | .call _ | .wait _ => True

def inProcessStep (dict : TTLDict) : CacheMove → TTLDict
  | .wait gap => dict.wait gap
  | .call call => call.perform dict

namespace TTLDict

/-- A get at this moment returns no body that was stored before a bump of its key
or of one of its scopes. -/
structure InvalidationFinal (dict : TTLDict) : Prop where
  keyed : ∀ (cache : VersionedCache) (key body : String) (version : Nat),
    ((cache.getVersioned ttlDictBackend key).run dict).1 = (some body, version) →
      dict.written (cache.space.versionKey key) < dict.written (cache.space.bodyKey key version)
  underScopes : ∀ (cache : VersionedCache) (key : String) (scopes : List Scope) (body token : String),
    ((cache.getScoped ttlDictBackend key scopes).run dict).1 = (some body, token) →
      ∀ scope ∈ scopes, dict.written (cache.space.versionKey scope.text) <
        dict.written (cache.space.scopedKey key token)

variable (dict : TTLDict)

def version (counter : String) : Nat := versionOf ((dict.live counter).map (·.value))

/-- Until it expires nobody looks the body up under this version of the counter,
unless the counter is raised to it. -/
def Barred (entry : TTLDictEntry) (counter : String) (version : Nat) : Prop :=
  ∃ kept, dict.live counter = some kept ∧ entry.expires ≤ kept.expires ∧
    versionOf (some kept.value) ≠ version

/-- The bump raises its counter to a number under which no body is alive, but for
those that another of their counters bars. -/
def RaisesClear (counter : String) : Prop :=
  ∀ (subject : Subject) (versions : List Nat) (entry : TTLDictEntry),
    versions.length = subject.counters.length → dict.live (subject.slot versions) = some entry →
    (counter, dict.version counter + 1) ∈ subject.counters.zip versions →
    ∃ other version, (other, version) ∈ subject.counters.zip versions ∧ other ≠ counter ∧
      dict.Barred entry other version

end TTLDict

/-- Only a bump has to meet a condition. -/
def BumpsClear (dict : TTLDict) : CacheMove → Prop
  | .call (.bump cache key) => dict.RaisesClear (cache.space.versionKey key)
  | .call _ | .wait _ => True

namespace TTLDict

variable {dict after : TTLDict}

/-! What the operations do to what is alive. -/

theorem live_of_store {key : String} {entry : TTLDictEntry} (found : dict.store key = some entry)
    (alive : dict.clock ≤ entry.expires) : dict.live key = some entry := by
  simp [live, found, alive]

theorem live_cases {key : String} {entry : TTLDictEntry} (found : dict.live key = some entry) :
    dict.store key = some entry ∧ dict.clock ≤ entry.expires := by
  simpa [live, Option.filter_eq_some_iff] using found

/-- The two differ in entries that have run out at most. -/
structure Alike (dict after : TTLDict) : Prop where
  live : after.live = dict.live
  clock : after.clock = dict.clock
  turn : after.turn = dict.turn
  written : after.written = dict.written

theorem Alike.refl (dict : TTLDict) : Alike dict dict := ⟨rfl, rfl, rfl, rfl⟩

theorem Alike.trans {first second third : TTLDict} (early : Alike first second)
    (late : Alike second third) : Alike first third :=
  ⟨late.live.trans early.live, late.clock.trans early.clock, late.turn.trans early.turn,
    late.written.trans early.written⟩

theorem Alike.version (alike : Alike dict after) (counter : String) :
    after.version counter = dict.version counter := by
  rw [TTLDict.version, TTLDict.version, alike.live]

theorem get_alike (dict : TTLDict) (key : String) :
    (dict.get key).1 = (dict.live key).map (·.value) ∧ Alike dict (dict.get key).2 := by
  unfold get
  split
  case h_1 vacant => exact ⟨by simp [live, vacant], .refl dict⟩
  case h_2 entry found =>
      split
      case isTrue past =>
        have dead : dict.live key = none := by simp [live, found, past]
        refine ⟨by rw [dead]; rfl, ?_, rfl, rfl, rfl⟩
        funext other
        by_cases same : other = key
        · rw [same, dead]
          simp [live, drop]
        · simp [live, drop, same]
      case isFalse alive =>
        rw [live_of_store found (not_lt.mp alive)]
        exact ⟨rfl, .refl dict⟩

theorem live_set (dict : TTLDict) (key value : String) (ex : Nat) (other : String) :
    (dict.set key value ex).live other =
      if other = key then some ⟨dict.clock + ex, value⟩ else dict.live other := by
  by_cases same : other = key
  · simp [live, set, same]
  · simp [live, set, same]

theorem written_set (dict : TTLDict) (key value : String) (ex : Nat) (other : String) :
    (dict.set key value ex).written other =
      if other = key then dict.turn + 1 else dict.written other := rfl

theorem written_set_le (turns : ∀ key, dict.written key ≤ dict.turn) (key value : String)
    (ex : Nat) (other : String) :
    (dict.set key value ex).written other ≤ (dict.set key value ex).turn := by
  rw [written_set]
  split
  · exact le_rfl
  · exact (turns other).trans (Nat.le_succ _)

theorem version_set_self (dict : TTLDict) (counter : String) (version ex : Nat) :
    (dict.set counter (toString version) ex).version counter = version := by
  rw [TTLDict.version, live_set, if_pos rfl]
  exact versionOf_toString version

theorem live_of_wait {gap : ℚ≥0} {key : String} {entry : TTLDictEntry}
    (found : (dict.wait gap).live key = some entry) : dict.live key = some entry := by
  obtain ⟨stored, alive⟩ := live_cases found
  have later : dict.clock ≤ dict.clock + gap := le_add_of_nonneg_right gap.coe_nonneg
  exact live_of_store stored (later.trans alive)

/-! What the calls read. -/

theorem run_currentVersion (cache : VersionedCache) (key : String) (dict : TTLDict) :
    ((cache.currentVersion ttlDictBackend key).run dict).1 =
        dict.version (cache.space.versionKey key) ∧
      Alike dict ((cache.currentVersion ttlDictBackend key).run dict).2 := by
  obtain ⟨read, alike⟩ := dict.get_alike (cache.space.versionKey key)
  simp only [VersionedCache.currentVersion, Task.run_bind, Task.run_operate, Task.run_pure]
  refine ⟨?_, alike⟩
  change versionOf (dict.get _).1 = _
  rw [read]
  rfl

theorem run_getVersioned (cache : VersionedCache) (key : String) (dict : TTLDict) :
    let version := dict.version (cache.space.versionKey key)
    ((cache.getVersioned ttlDictBackend key).run dict).1 =
        ((dict.live (cache.space.bodyKey key version)).map (·.value), version) ∧
      Alike dict ((cache.getVersioned ttlDictBackend key).run dict).2 := by
  obtain ⟨read, alike⟩ := run_currentVersion cache key dict
  obtain ⟨body, still⟩ := ((cache.currentVersion ttlDictBackend key).run dict).2.get_alike
    (cache.space.bodyKey key (dict.version (cache.space.versionKey key)))
  rw [alike.live] at body
  simp only [VersionedCache.getVersioned, Task.run_bind, Task.run_operate, Task.run_pure, read]
  exact ⟨congrArg (·, _) body, alike.trans still⟩

theorem run_scopeVersions (cache : VersionedCache) (scopes : List Scope) (dict : TTLDict) :
    ((cache.scopeVersions ttlDictBackend scopes).run dict).1 =
        scopes.map (fun scope => dict.version (cache.space.versionKey scope.text)) ∧
      Alike dict ((cache.scopeVersions ttlDictBackend scopes).run dict).2 := by
  induction scopes generalizing dict with
  | nil => exact ⟨rfl, .refl dict⟩
  | cons scope rest ih =>
      obtain ⟨read, alike⟩ := run_currentVersion cache scope.text dict
      obtain ⟨others, still⟩ := ih ((cache.currentVersion ttlDictBackend scope.text).run dict).2
      simp only [VersionedCache.scopeVersions, Task.run_bind, Task.run_pure, read, others,
        alike.version, List.map_cons, true_and]
      exact alike.trans still

theorem run_getScoped (cache : VersionedCache) (key : String) (scopes : List Scope)
    (dict : TTLDict) :
    let token := scopeToken scopes
      (scopes.map fun scope => dict.version (cache.space.versionKey scope.text))
    ((cache.getScoped ttlDictBackend key scopes).run dict).1 =
        ((dict.live (cache.space.scopedKey key token)).map (·.value), token) ∧
      Alike dict ((cache.getScoped ttlDictBackend key scopes).run dict).2 := by
  obtain ⟨read, alike⟩ := run_scopeVersions cache scopes dict
  obtain ⟨body, still⟩ := ((cache.scopeVersions ttlDictBackend scopes).run dict).2.get_alike
    (cache.space.scopedKey key (scopeToken scopes
      (scopes.map fun scope => dict.version (cache.space.versionKey scope.text))))
  rw [alike.live] at body
  simp only [VersionedCache.getScoped, Task.run_bind, Task.run_operate, Task.run_pure, read]
  exact ⟨congrArg (·, _) body, alike.trans still⟩

/-! What every call keeps. -/

/-- The body was stored after every bump of its counters. -/
def Recent (dict : TTLDict) (subject : Subject) (versions : List Nat) : Prop :=
  ∀ counter ∈ subject.counters, dict.written counter < dict.written (subject.slot versions)

def Shut (dict : TTLDict) (subject : Subject) (versions : List Nat) (entry : TTLDictEntry) : Prop :=
  ∃ counter version, (counter, version) ∈ subject.counters.zip versions ∧
    dict.Barred entry counter version

/-- A body that is alive was stored after the last bumps, or is not looked up any more. -/
structure Accounted (dict : TTLDict) : Prop where
  counters : ∀ (space : Space) (name : String) (entry : TTLDictEntry),
    dict.live (space.versionKey name) = some entry → ∃ version : Nat, entry.value = toString version
  turns : ∀ key, dict.written key ≤ dict.turn
  bodies : ∀ (subject : Subject) (versions : List Nat) (entry : TTLDictEntry),
    versions.length = subject.counters.length → dict.live (subject.slot versions) = some entry →
    entry.expires ≤ dict.clock + 60 ∧
      (dict.Recent subject versions ∨ dict.Shut subject versions entry)

theorem Accounted.empty (clock : ℚ) : (TTLDict.empty clock).Accounted where
  counters space name entry found := by simp [live, TTLDict.empty] at found
  turns key := le_rfl
  bodies subject versions entry fits found := by simp [live, TTLDict.empty] at found

theorem Accounted.alike (accounted : dict.Accounted) (alike : Alike dict after) :
    after.Accounted where
  counters := by
    rw [alike.live]
    exact accounted.counters
  turns := by
    rw [alike.written, alike.turn]
    exact accounted.turns
  bodies := by
    simp only [Recent, Shut, Barred]
    rw [alike.live, alike.clock, alike.written]
    exact accounted.bodies

/-- Time alone: a counter that bars a body does so until the body has run out. -/
theorem Accounted.wait (accounted : dict.Accounted) (gap : ℚ≥0) : (dict.wait gap).Accounted where
  counters space name entry found := accounted.counters space name entry (live_of_wait found)
  turns := accounted.turns
  bodies subject versions entry fits found := by
    obtain ⟨brief, recent | ⟨counter, version, named, kept, held, outlives, other⟩⟩ :=
      accounted.bodies subject versions entry fits (live_of_wait found)
    all_goals
      have later : dict.clock ≤ (dict.wait gap).clock := le_add_of_nonneg_right gap.coe_nonneg
    · exact ⟨by linarith, .inl recent⟩
    · have alive := (live_cases found).2
      refine ⟨by linarith, .inr ⟨counter, version, named, kept, ?_, outlives, other⟩⟩
      exact live_of_store (live_cases held).1 (alive.trans outlives)

/-- A body is stored. -/
theorem Accounted.stored (accounted : dict.Accounted) {subject : Subject} {versions : List Nat}
    (fits : versions.length = subject.counters.length) (value : String) {ttl : Nat}
    (brief : ttl ≤ 60) : (dict.set (subject.slot versions) value ttl).Accounted := by
  have apart (space : Space) (name : String) : space.versionKey name ≠ subject.slot versions :=
    (subject.slot_ne_versionKey versions space name).symm
  have counter_apart (other : Subject) : ∀ counter ∈ other.counters,
      counter ≠ subject.slot versions := by
    intro counter member
    obtain ⟨space, name, rfl⟩ := other.counters_names member
    exact apart space name
  refine ⟨?_, written_set_le accounted.turns _ value ttl, ?_⟩
  · intro space name entry found
    rw [live_set, if_neg (apart space name)] at found
    exact accounted.counters space name entry found
  · intro other numbers entry other_fits found
    rw [live_set] at found
    split at found
    case isTrue same =>
      -- It is written after all that came before, the bumps of its counters too.
      obtain ⟨rfl, rfl⟩ := Subject.slot_unique other_fits fits same
      rw [← Option.some.inj found]
      refine ⟨by simpa [set] using brief, .inl ?_⟩
      intro counter member
      rw [written_set, written_set, if_neg (counter_apart other counter member), if_pos rfl]
      exact Nat.lt_succ_of_le (accounted.turns counter)
    case isFalse different =>
      obtain ⟨short, recent | ⟨counter, version, named, kept, held, outlives, apart_value⟩⟩ :=
        accounted.bodies other numbers entry other_fits found
      · refine ⟨short, .inl ?_⟩
        intro counter member
        rw [written_set, written_set, if_neg (counter_apart other counter member), if_neg different]
        exact recent counter member
      · refine ⟨short, .inr ⟨counter, version, named, kept, ?_, outlives, apart_value⟩⟩
        rw [live_set, if_neg (counter_apart other counter (List.of_mem_zip named).1)]
        exact held

theorem mem_zip_self {counters : List String} {first second : String}
    (member : (first, second) ∈ counters.zip counters) : first = second := by
  rw [List.zip_eq_zipWith, List.zipWith_self] at member
  obtain ⟨counter, -, same⟩ := List.mem_map.mp member
  exact (congrArg Prod.fst same).symm.trans (congrArg Prod.snd same)

theorem exists_mem_zip {counters : List String} {versions : List Nat}
    (fits : versions.length = counters.length) {counter : String} (member : counter ∈ counters) :
    ∃ version, (counter, version) ∈ counters.zip versions := by
  rw [← List.map_fst_zip fits.ge, List.mem_map] at member
  obtain ⟨⟨same, version⟩, named, rfl⟩ := member
  exact ⟨version, named⟩

/-- A counter is raised. -/
theorem Accounted.raised (accounted : dict.Accounted) {counter : String} {space : Space}
    {name : String} (names : counter = space.versionKey name) (clear : dict.RaisesClear counter) :
    (dict.set counter (toString (dict.version counter + 1)) VERSION_TTL_SECONDS).Accounted := by
  have apart (subject : Subject) (versions : List Nat) : subject.slot versions ≠ counter := by
    rw [names]
    exact subject.slot_ne_versionKey versions space name
  refine ⟨?_, written_set_le accounted.turns _ _ _, ?_⟩
  · intro other_space other_name entry found
    rw [live_set] at found
    split at found
    · exact ⟨dict.version counter + 1, by rw [← Option.some.inj found]⟩
    · exact accounted.counters other_space other_name entry found
  · intro subject versions entry fits found
    rw [live_set, if_neg (apart subject versions)] at found
    obtain ⟨brief, kept_out⟩ := accounted.bodies subject versions entry fits found
    refine ⟨brief, ?_⟩
    -- The other counters bar what they barred.
    have still {other : String} {version : Nat} (different : other ≠ counter)
        (barred : dict.Barred entry other version) :
        (dict.set counter (toString (dict.version counter + 1)) VERSION_TTL_SECONDS).Barred
          entry other version := by
      obtain ⟨kept, held, outlives, value⟩ := barred
      refine ⟨kept, ?_, outlives, value⟩
      rw [live_set, if_neg different]
      exact held
    by_cases raised_to : (counter, dict.version counter + 1) ∈ subject.counters.zip versions
    · obtain ⟨other, version, named, different, barred⟩ :=
        clear subject versions entry fits found raised_to
      exact .inr ⟨other, version, named, still different barred⟩
    by_cases counts : counter ∈ subject.counters
    · -- The body names another value of this counter, which outlives it now.
      obtain ⟨version, named⟩ := exists_mem_zip fits counts
      refine .inr ⟨counter, version, named, ⟨dict.clock + VERSION_TTL_SECONDS,
        toString (dict.version counter + 1)⟩, ?_, ?_, ?_⟩
      · rw [live_set, if_pos rfl]
      · simp only [VERSION_TTL_SECONDS]
        push_cast
        linarith
      · rw [versionOf_toString]
        rintro rfl
        exact raised_to named
    · have others : ∀ other ∈ subject.counters, other ≠ counter :=
        fun other member same => counts (same ▸ member)
      rcases kept_out with recent | ⟨other, version, named, barred⟩
      · refine .inl fun other member => ?_
        rw [written_set, written_set, if_neg (others other member), if_neg (apart subject versions)]
        exact recent other member
      · exact .inr ⟨other, version, named, still (others other (List.of_mem_zip named).1) barred⟩

theorem Accounted.counted (accounted : dict.Accounted) (space : Space) (name : String) :
    TTLDict.counted ((dict.live (space.versionKey name)).map (·.value)) =
      some (dict.version (space.versionKey name)) := by
  cases found : dict.live (space.versionKey name) with
  | none => simp [TTLDict.counted, TTLDict.version, found, versionOf]
  | some entry =>
      obtain ⟨version, value⟩ := accounted.counters space name entry found
      have nonempty : toString version ≠ "" := by
        intro blank
        have digits : (toString version).toList ≠ [] := by simp
        exact digits (by rw [blank]; rfl)
      simp only [TTLDict.counted, TTLDict.version, found, Option.map_some, value,
        if_neg nonempty, Redis.integer_toString, versionOf_toString]

/-- What a bump writes. -/
theorem Accounted.bump_eq (accounted : dict.Accounted) (cache : VersionedCache) (key : String) :
    ∃ read, Alike dict read ∧ CacheCall.perform (.bump cache key) dict =
      read.set (cache.space.versionKey key)
        (toString (read.version (cache.space.versionKey key) + 1)) VERSION_TTL_SECONDS := by
  obtain ⟨read, alike⟩ := dict.get_alike (cache.space.versionKey key)
  have count := accounted.counted cache.space key
  rw [← read, ← alike.version] at count
  have same : CacheCall.perform (.bump cache key) dict =
      (dict.incr (cache.space.versionKey key)).2 := by
    simp only [CacheCall.perform, VersionedCache.bump, Task.run_bind, Task.run_operate]
    cases (ttlDictBackend.incr (cache.space.versionKey key) dict).1 <;> rfl
  refine ⟨(dict.get (cache.space.versionKey key)).2, alike, ?_⟩
  rw [same]
  simp only [incr]
  rw [count]

theorem Accounted.bumped (accounted : dict.Accounted) (cache : VersionedCache) (key : String)
    (clear : dict.RaisesClear (cache.space.versionKey key)) :
    (CacheCall.perform (.bump cache key) dict).Accounted := by
  obtain ⟨read, alike, same⟩ := accounted.bump_eq cache key
  have clear_still : read.RaisesClear (cache.space.versionKey key) := by
    simp only [RaisesClear, Barred]
    rw [alike.live, alike.version]
    exact clear
  rw [same]
  exact (accounted.alike alike).raised rfl clear_still

theorem Accounted.performed (accounted : dict.Accounted) {call : CacheCall} (brief : call.Brief)
    (clear : BumpsClear dict (.call call)) : (call.perform dict).Accounted := by
  cases call with
  | bump cache key => exact accounted.bumped cache key clear
  | getVersioned cache key => exact accounted.alike (run_getVersioned cache key dict).2
  | getScoped cache key scopes => exact accounted.alike (run_getScoped cache key scopes dict).2
  | set cache key value version =>
      cases version with
      | some version =>
          let subject : Subject := ⟨cache.space, key, none⟩
          have fits : [version].length = subject.counters.length := rfl
          exact accounted.stored fits value brief
      | none =>
          obtain ⟨read, alike⟩ := run_currentVersion cache key dict
          let subject : Subject := ⟨cache.space, key, none⟩
          have fits : [dict.version (cache.space.versionKey key)].length =
            subject.counters.length := rfl
          have stored := (accounted.alike alike).stored fits value brief
          simp only [CacheCall.perform, VersionedCache.set, Task.run_bind, Task.run_operate, read]
          exact stored
  | setScoped cache key value observed =>
      let subject : Subject := ⟨cache.space, key, some (observed.map (·.1))⟩
      have fits : (observed.map (·.2)).length = subject.counters.length := by
        simp [subject, Subject.counters]
      exact accounted.stored fits value brief

/-- A body that a get finds is under the counters' current values, so none of them bars it. -/
theorem Accounted.recent_of_current (accounted : dict.Accounted) (subject : Subject)
    {entry : TTLDictEntry}
    (found : dict.live (subject.slot (subject.counters.map dict.version)) = some entry) :
    dict.Recent subject (subject.counters.map dict.version) := by
  have fits : (subject.counters.map dict.version).length = subject.counters.length :=
    List.length_map _
  obtain ⟨-, recent | ⟨counter, version, named, kept, held, -, other⟩⟩ :=
    accounted.bodies subject _ entry fits found
  · exact recent
  · have current : version = dict.version counter := by
      rw [List.zip_map_right, List.mem_map] at named
      obtain ⟨⟨first, second⟩, both, same⟩ := named
      cases same
      rw [mem_zip_self both]
      rfl
    rw [TTLDict.version, held] at current
    exact absurd current.symm other

theorem Accounted.invalidationFinal (accounted : dict.Accounted) : dict.InvalidationFinal where
  keyed cache key body version answered := by
    rw [(run_getVersioned cache key dict).1] at answered
    obtain ⟨found, rfl⟩ := Prod.ext_iff.mp answered
    obtain ⟨entry, held, -⟩ := Option.map_eq_some_iff.mp found
    let subject : Subject := ⟨cache.space, key, none⟩
    exact accounted.recent_of_current subject held _ (List.mem_singleton_self _)
  underScopes cache key scopes body token answered := by
    rw [(run_getScoped cache key scopes dict).1] at answered
    obtain ⟨found, rfl⟩ := Prod.ext_iff.mp answered
    obtain ⟨entry, held, -⟩ := Option.map_eq_some_iff.mp found
    let subject : Subject := ⟨cache.space, key, some scopes⟩
    have versions : subject.counters.map dict.version =
        scopes.map fun scope => dict.version (cache.space.versionKey scope.text) := by
      simp [subject, Subject.counters, Function.comp_def]
    have recent : dict.Recent subject _ := accounted.recent_of_current subject (versions ▸ held)
    rw [versions] at recent
    intro scope member
    exact recent _ (List.mem_map_of_mem member)

/-- No body that stands under scopes is alive. -/
def ScopesEmpty (dict : TTLDict) : Prop :=
  ∀ (space : Space) (key : String) (scopes : List Scope) (versions : List Nat),
    dict.live (Subject.slot ⟨space, key, some scopes⟩ versions) = none

theorem ScopesEmpty.step (empty : dict.ScopesEmpty) (accounted : dict.Accounted) {move : CacheMove}
    (keyed : move.Keyed) : (inProcessStep dict move).ScopesEmpty := by
  intro space key scopes versions
  have here := empty space key scopes versions
  cases move with
  | wait gap =>
      cases later : (dict.wait gap).live (Subject.slot ⟨space, key, some scopes⟩ versions) with
      | none => exact later
      | some entry =>
          rw [live_of_wait later] at here
          cases here
  | call call =>
      cases call with
      | setScoped cache other value observed => exact keyed.elim
      | getVersioned cache other =>
          exact (congrFun (run_getVersioned cache other dict).2.live _).trans here
      | getScoped cache other scopes =>
          exact (congrFun (run_getScoped cache other scopes dict).2.live _).trans here
      | bump cache other =>
          obtain ⟨read, alike, same⟩ := accounted.bump_eq cache other
          change (CacheCall.perform (.bump cache other) dict).live _ = none
          rw [same, live_set, if_neg (Subject.slot_ne_versionKey _ versions _ _), alike.live]
          exact here
      | set cache other value version =>
          have apart (number : Nat) : Subject.slot ⟨space, key, some scopes⟩ versions ≠
              cache.space.bodyKey other number := Space.bodyKey_ne_scopedKey.symm
          cases version with
          | some version =>
              change (dict.set (cache.space.bodyKey other version) value cache.ttl).live _ = none
              rw [live_set, if_neg (apart version)]
              exact here
          | none =>
              obtain ⟨read, alike⟩ := run_currentVersion cache other dict
              simp only [inProcessStep, CacheCall.perform, VersionedCache.set, Task.run_bind,
                Task.run_operate, read]
              change (TTLDict.set _ _ _ _).live _ = none
              rw [live_set, if_neg (apart _), alike.live]
              exact here

/-- A bump that raises its counter to the number of a live body brings it back. -/
theorem Accounted.clear_of_final (accounted : dict.Accounted) (empty : dict.ScopesEmpty)
    {move : CacheMove} (final : (inProcessStep dict move).InvalidationFinal) :
    BumpsClear dict move := by
  cases move with
  | wait gap => trivial
  | call call =>
      cases call with
      | getVersioned cache key => trivial
      | set cache key value version => trivial
      | getScoped cache key scopes => trivial
      | setScoped cache key value observed => trivial
      | bump cache key =>
          intro subject versions entry fits found raised_to
          obtain ⟨space, name, scopes⟩ := subject
          cases scopes with
          | some scopes =>
              rw [empty space name scopes versions] at found
              cases found
          | none =>
              obtain ⟨version, rfl⟩ := List.length_eq_one_iff.mp fits
              obtain ⟨same_counter, same_version⟩ := Prod.ext_iff.mp (List.mem_singleton.mp raised_to)
              obtain ⟨read, alike, bumped⟩ := accounted.bump_eq cache key
              change (CacheCall.perform (.bump cache key) dict).InvalidationFinal at final
              rw [bumped, alike.version] at final
              simp only at same_counter same_version
              rw [same_counter] at final same_version
              rw [same_version] at final
              -- The body lies where the next get looks.
              have apart : space.bodyKey name version ≠ space.versionKey name :=
                Space.bodyKey_ne_versionKey
              have served := (run_getVersioned { space, holder := "" } name
                (read.set (space.versionKey name) (toString version) VERSION_TTL_SECONDS)).1
              simp only at served
              rw [version_set_self, live_set, if_neg apart, alike.live] at served
              change dict.live (space.bodyKey name version) = some entry at found
              rw [found] at served
              have stored := final.keyed { space, holder := "" } name entry.value version served
              simp only at stored
              rw [written_set, written_set, if_pos rfl, if_neg apart, alike.turn,
                alike.written] at stored
              have earlier := accounted.turns (space.bodyKey name version)
              omega

structure Unscoped (dict : TTLDict) : Prop where
  accounted : dict.Accounted
  empty : dict.ScopesEmpty

end TTLDict

/-- Where every bump raises its counter to a number that no live body still
stands under, no get ever returns a body stored before a bump of one of its
counters; for bodies of a single counter the condition is exact. -/
theorem invalidation_final_of_clear (clock : ℚ) (moves : List CacheMove)
    (brief : ∀ move ∈ moves, move.Brief) :
    (Runs.Guarded inProcessStep BumpsClear (.empty clock) moves →
      Runs.Always inProcessStep TTLDict.InvalidationFinal (.empty clock) moves) ∧
    ((∀ move ∈ moves, move.Keyed) →
      Runs.Always inProcessStep TTLDict.InvalidationFinal (.empty clock) moves →
      Runs.Guarded inProcessStep BumpsClear (.empty clock) moves) := by
  have preserved (dict : TTLDict) (move : CacheMove) (short : move.Brief)
      (accounted : dict.Accounted) (met : BumpsClear dict move) :
      (inProcessStep dict move).Accounted := by
    cases move with
    | wait gap => exact accounted.wait gap
    | call call => exact accounted.performed short met
  constructor
  · intro clear
    have always := Runs.always_of_guarded_among _ preserved (.empty clock) brief clear
    exact always.mono _ fun _ accounted => accounted.invalidationFinal
  · intro keyed
    have usual : ∀ move ∈ moves, move.Brief ∧ move.Keyed :=
      fun move member => ⟨brief move member, keyed move member⟩
    have started : (TTLDict.empty clock).Unscoped := ⟨.empty clock, fun _ _ _ _ => rfl⟩
    refine (Runs.always_iff_guarded_among _ ?_ ?_ ?_ started usual).mp
    · rintro dict move ⟨short, keyed⟩ unscoped met
      exact ⟨preserved dict move short unscoped.accounted met,
        unscoped.empty.step unscoped.accounted keyed⟩
    · exact fun dict unscoped => unscoped.accounted.invalidationFinal
    · exact fun dict move _ unscoped final => unscoped.accounted.clear_of_final unscoped.empty final

def sampleCache : VersionedCache := EntitlementService.cache

/-- The body has run out by the second bump. -/
def settledMoves : List CacheMove :=
  [.call (.bump sampleCache "key"), .call (.set sampleCache "key" "old" (some 1)), .wait 61,
    .call (.bump sampleCache "key")]

theorem invalidation_final_of_clear_settled :
    Runs.Always inProcessStep TTLDict.InvalidationFinal (.empty 0) settledMoves := by
  have brief : ∀ move ∈ settledMoves, move.Brief := by
    simp [settledMoves, CacheMove.Brief, CacheCall.Brief, sampleCache, EntitlementService.cache]
  apply (invalidation_final_of_clear 0 settledMoves brief).1
  refine ⟨?_, trivial, trivial, ?_, trivial⟩
  · intro subject versions entry fits found
    simp [TTLDict.live, TTLDict.empty] at found
  · intro subject versions entry fits found
    have alive := (TTLDict.live_cases found).2
    have stored := TTLDict.live_of_wait found
    change TTLDict.live (((TTLDict.empty 0).set _ _ _).set _ _ _) _ = _ at stored
    rw [TTLDict.live_set] at stored
    split at stored
    · -- sixty-one seconds after it was stored for sixty
      rw [← Option.some.inj stored] at alive
      exact absurd alive (by decide +kernel)
    · rw [TTLDict.live_set, if_neg (subject.slot_ne_versionKey versions _ _)] at stored
      simp [TTLDict.live, TTLDict.empty] at stored

/-! A counter that ran out while a body was stored under its first version. -/

def resurrectingMoves : List CacheMove :=
  [.call (.bump sampleCache "key"), .wait 3590, .call (.getVersioned sampleCache "key"),
    .call (.set sampleCache "key" "old" (some 1)), .wait 11, .call (.bump sampleCache "key")]

theorem expired_counter_resurrects_body :
    (∀ move ∈ resurrectingMoves, move.Brief) ∧
      ¬Runs.Always inProcessStep TTLDict.InvalidationFinal (.empty 0) resurrectingMoves := by
  refine ⟨by simp [resurrectingMoves, CacheMove.Brief, CacheCall.Brief, sampleCache,
    EntitlementService.cache], ?_⟩
  intro always
  have final := always.last inProcessStep
  have served : ((sampleCache.getVersioned ttlDictBackend "key").run
      (Runs.run inProcessStep (.empty 0) resurrectingMoves)).1 = (some "old", 1) := by
    decide +kernel
  have stored := final.keyed sampleCache "key" "old" 1 served
  exact absurd stored (by decide +kernel)

end SynapseSaas
