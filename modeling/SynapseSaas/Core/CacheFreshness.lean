import SynapseSaas.Core.CacheSystem
import Mathlib.Data.List.Forall2
import Mathlib.Order.Nat

/-! A reader that starts after a writer's post-commit bump never returns a body
computed before that commit. -/

set_option autoImplicit false

namespace SynapseSaas

open Tasks (Task Discipline)

variable {Rows Answer : Type}

/-! What cannot change while requests go on. -/

def IsCounter (key : String) : Prop := ∃ (space : Space) (name : String), key = space.versionKey name

namespace World

def version (world : World Rows) (counter : String) : Nat := versionOf (world.redis.get counter)

/-- Commits and counters only go up, and a post-commit bump that is new has given
its counter a value that is new. -/
structure Grows (before after : World Rows) : Prop where
  commits : before.commits ≤ after.commits
  history : ∀ commit ≤ before.commits, after.history commit = before.history commit
  versions : ∀ counter, IsCounter counter → before.version counter ≤ after.version counter
  kept : ∀ flush ∈ before.flushed, flush ∈ after.flushed
  news : ∀ flush ∈ after.flushed, flush ∈ before.flushed ∨
    IsCounter flush.counter ∧ before.version flush.counter < flush.version

namespace Grows

variable {world first second third : World Rows}

theorem refl (world : World Rows) : Grows world world :=
  ⟨le_rfl, fun _ _ => rfl, fun _ _ => le_rfl, fun _ member => member, fun _ member => .inl member⟩

theorem trans (early : first.Grows second) (late : second.Grows third) : first.Grows third where
  commits := early.commits.trans late.commits
  history commit before :=
    (late.history commit (before.trans early.commits)).trans (early.history commit before)
  versions counter names := (early.versions counter names).trans (late.versions counter names)
  kept flush member := late.kept flush (early.kept flush member)
  news flush member := by
    rcases late.news flush member with old | ⟨names, raised⟩
    · exact early.news flush old
    · exact .inr ⟨names, (early.versions _ names).trans_lt raised⟩

end Grows

end World

theorem Computed.weaken {history : Nat → Rows} {last since earlier : Nat}
    {query : Query Rows Answer} {answer : Answer}
    (computed : Computed history last since query answer) (before : earlier ≤ since) :
    Computed history last earlier query answer := by
  cases computed with
  | done => exact .done
  | select ordered bounded rest => exact .select (before.trans ordered) bounded rest

theorem Computed.later {history after : Nat → Rows} {last later since : Nat}
    {query : Query Rows Answer} {answer : Answer}
    (computed : Computed history last since query answer) (longer : last ≤ later)
    (same : ∀ commit ≤ last, after commit = history commit) :
    Computed after later since query answer := by
  induction computed with
  | done => exact .done
  | @select since commit next answer ordered bounded rest ih =>
      apply Computed.select ordered (bounded.trans longer)
      rw [same commit bounded]
      exact ih

/-- A reader that saw this version of the counter has not missed a bump behind a
later commit than `since`. -/
structure Dated (world : World Rows) (since : Nat) (counter : String) (version : Nat) : Prop where
  names : IsCounter counter
  seen : version ≤ world.version counter
  missed : ∀ flush ∈ world.flushed, flush.counter = counter → flush.version ≤ version →
    flush.commit ≤ since

section Invariant

variable (evaluation : Subject → Query Rows String)

/-- A body computed late enough for the versions it is stored under. -/
def FreshBody (world : World Rows) (subject : Subject) (versions : List Nat) (body : String) : Prop :=
  ∃ since, List.Forall₂ (Dated world since) subject.counters versions ∧
    Computed world.history world.commits since (evaluation subject) body

structure CacheCoherent (world : World Rows) : Prop where
  counters : ∀ counter entry, IsCounter counter → world.redis counter = some entry →
    ∃ version : Nat, entry = ⟨toString version, false⟩
  flushed : ∀ flush ∈ world.flushed, IsCounter flush.counter ∧
    flush.version ≤ world.version flush.counter ∧ flush.commit ≤ world.commits
  bodies : ∀ subject versions entry, versions.length = subject.counters.length →
    world.redis (subject.slot versions) = some entry →
    FreshBody evaluation world subject versions entry.value

end Invariant

theorem Dated.later {before after : World Rows} {since : Nat} {counter : String} {version : Nat}
    (dated : Dated before since counter version) (grows : before.Grows after) :
    Dated after since counter version where
  names := dated.names
  seen := dated.seen.trans (grows.versions counter dated.names)
  missed flush member same below := by
    rcases grows.news flush member with old | ⟨_, raised⟩
    · exact dated.missed flush old same below
    · -- a new bump has raised the counter beyond what was seen
      rw [same] at raised
      exact absurd (below.trans dated.seen) (not_le_of_gt raised)

section Steps

variable {evaluation : Subject → Query Rows String} {world after : World Rows}

theorem FreshBody.later {subject : Subject} {versions : List Nat} {body : String}
    (fresh : FreshBody evaluation world subject versions body) (grows : world.Grows after) :
    FreshBody evaluation after subject versions body := by
  obtain ⟨since, dated, computed⟩ := fresh
  refine ⟨since, ?_, computed.later grows.commits grows.history⟩
  exact dated.imp fun _ _ dated => dated.later grows

/-- What a step has to show, beside that the world grows: counters stay counters,
the record stays true, and a body is an old one or fresh. -/
theorem CacheCoherent.kept (coherent : CacheCoherent evaluation world) (grows : world.Grows after)
    (counters : ∀ counter entry, IsCounter counter → after.redis counter = some entry →
      world.redis counter = some entry ∨ ∃ version : Nat, entry = ⟨toString version, false⟩)
    (flushed : ∀ flush ∈ after.flushed, flush ∈ world.flushed ∨ IsCounter flush.counter ∧
      flush.version ≤ after.version flush.counter ∧ flush.commit ≤ after.commits)
    (bodies : ∀ subject versions entry, versions.length = subject.counters.length →
      after.redis (subject.slot versions) = some entry →
      world.redis (subject.slot versions) = some entry ∨
        FreshBody evaluation after subject versions entry.value) :
    CacheCoherent evaluation after where
  counters counter entry names found := by
    rcases counters counter entry names found with old | new
    · exact coherent.counters counter entry names old
    · exact new
  flushed flush member := by
    rcases flushed flush member with old | new
    · obtain ⟨names, below, bounded⟩ := coherent.flushed flush old
      exact ⟨names, below.trans (grows.versions _ names), bounded.trans grows.commits⟩
    · exact new
  bodies subject versions entry fits found := by
    rcases bodies subject versions entry fits found with old | new
    · exact (coherent.bodies subject versions entry fits old).later grows
    · exact new

theorem CacheCoherent.initial (rows : Rows) : CacheCoherent evaluation (World.initial rows) where
  counters _ _ _ found := by cases found
  flushed _ member := absurd member List.not_mem_nil
  bodies _ _ _ _ found := by cases found

/-- The discipline of everything that touches the cache. -/
def cacheDiscipline (evaluation : Subject → Query Rows String) : Discipline (World Rows) where
  valid := CacheCoherent evaluation
  grows := World.Grows
  refl := World.Grows.refl
  trans := World.Grows.trans

/-! The operations. -/

namespace World

theorem version_of_get {counter : String} {version : Nat}
    (found : world.redis counter = some ⟨toString version, false⟩) :
    world.version counter = version := by
  rw [World.version, Redis.get, found, Option.map_some, versionOf_toString]

theorem version_put_of_ne {counter key : String} {entry : RedisEntry} (apart : counter ≠ key) :
    ({ world with redis := world.redis.put key entry } : World Rows).version counter =
      world.version counter := by
  simp [World.version, Redis.get, Redis.put, apart]

/-- The counter raised, with what goes on record. -/
def raised (world : World Rows) (counter : String) (recorded : List Flush) : World Rows :=
  { world with
    redis := world.redis.put counter ⟨toString (world.version counter + 1), false⟩
    flushed := world.flushed ++ recorded }

theorem version_raised (counter : String) (recorded : List Flush) :
    (world.raised counter recorded).version counter = world.version counter + 1 := by
  apply version_of_get
  simp [raised, Redis.put]

theorem version_raised_of_ne {counter other : String} (apart : other ≠ counter)
    (recorded : List Flush) :
    (world.raised counter recorded).version other = world.version other :=
  version_put_of_ne apart

end World

theorem incr_counter (coherent : CacheCoherent evaluation world) {counter : String}
    (names : IsCounter counter) :
    redisBackend.incr counter world =
      (some (world.version counter + 1), world.raised counter []) := by
  cases found : world.redis counter with
  | none =>
      have zero : world.version counter = 0 := by
        simp [World.version, Redis.get, found, versionOf]
      simp [redisBackend, Redis.incr, found, World.raised, zero]
  | some entry =>
      obtain ⟨version, rfl⟩ := coherent.counters counter entry names found
      have same := World.version_of_get found
      simp only [redisBackend, Redis.incr, found, Redis.integer_toString, World.raised, same,
        List.append_nil]

/-- A bump keeps the discipline; what it puts on record is its new version, behind
a commit that has taken place. -/
theorem later_raised (coherent : CacheCoherent evaluation world) {counter : String}
    (names : IsCounter counter) {recorded : List Flush}
    (records : ∀ flush ∈ recorded, flush.counter = counter ∧
      flush.version = world.version counter + 1 ∧ flush.commit ≤ world.commits) :
    (cacheDiscipline evaluation).Later world (world.raised counter recorded) := by
  have up : ∀ other, world.version other ≤ (world.raised counter recorded).version other := by
    intro other
    by_cases same : other = counter
    · rw [same, World.version_raised]
      exact Nat.le_succ _
    · exact (World.version_raised_of_ne same recorded).ge
  have grows : world.Grows (world.raised counter recorded) := by
    refine ⟨le_rfl, fun _ _ => rfl, fun other _ => up other, ?_, ?_⟩
    · exact fun flush member => List.mem_append_left _ member
    · intro flush member
      rcases List.mem_append.mp member with old | new
      · exact .inl old
      · obtain ⟨same, version, -⟩ := records flush new
        rw [same, version]
        exact .inr ⟨names, Nat.lt_succ_self _⟩
  -- The entry at the counter is replaced; bodies are stored under other keys.
  refine ⟨coherent.kept grows ?_ ?_ ?_, grows⟩
  · intro other entry _ found
    simp only [World.raised, Redis.put] at found
    split at found
    · exact .inr ⟨_, (Option.some.inj found).symm⟩
    · exact .inl found
  · intro flush member
    rcases List.mem_append.mp member with old | new
    · exact .inl old
    · obtain ⟨same, version, bounded⟩ := records flush new
      rw [same, version, World.version_raised]
      exact .inr ⟨names, le_rfl, bounded⟩
  · intro subject versions entry _ found
    obtain ⟨space, name, rfl⟩ := names
    simp only [World.raised, Redis.put] at found
    rw [if_neg (subject.slot_ne_versionKey versions space name)] at found
    exact .inl found

/-- A fresh body may be stored under the versions it is fresh for. -/
theorem later_stored (coherent : CacheCoherent evaluation world) {subject : Subject}
    {versions : List Nat} {body : String}
    (fresh : FreshBody evaluation world subject versions body) :
    (cacheDiscipline evaluation).Later world
      { world with redis := world.redis.put (subject.slot versions) ⟨body, true⟩ } := by
  have apart : ∀ counter, IsCounter counter → counter ≠ subject.slot versions := by
    rintro counter ⟨space, name, rfl⟩
    exact (subject.slot_ne_versionKey versions space name).symm
  have grows : world.Grows
      { world with redis := world.redis.put (subject.slot versions) ⟨body, true⟩ } := by
    refine ⟨le_rfl, fun _ _ => rfl, ?_, fun _ member => member, fun _ member => .inl member⟩
    intro counter names
    rw [World.version_put_of_ne (apart counter names)]
  refine ⟨coherent.kept grows ?_ (fun flush member => .inl member) ?_, grows⟩
  · intro counter entry names found
    simp only [Redis.put] at found
    rw [if_neg (apart counter names)] at found
    exact .inl found
  · intro other numbers entry fits found
    simp only [Redis.put] at found
    split at found
    -- The key tells the subject and the versions, so the body is fresh for them.
    case isTrue same =>
      obtain ⟨since, dated, computed⟩ := fresh
      obtain ⟨rfl, rfl⟩ := Subject.slot_unique fits dated.length_eq.symm same
      rw [← Option.some.inj found]
      exact .inr (FreshBody.later ⟨since, dated, computed⟩ grows)
    case isFalse _ => exact .inl found

theorem later_committed (coherent : CacheCoherent evaluation world) (change : Rows → Rows) :
    (cacheDiscipline evaluation).Later world (world.commit change).2 := by
  have grows : world.Grows (world.commit change).2 := by
    refine ⟨Nat.le_succ _, ?_, fun _ _ => le_rfl, fun _ member => member,
      fun _ member => .inl member⟩
    intro commit before
    exact Function.update_of_ne (Nat.lt_succ_of_le before).ne _ _
  refine ⟨coherent.kept grows ?_ ?_ ?_, grows⟩
  · exact fun _ _ _ found => .inl found
  · exact fun _ member => .inl member
  · exact fun _ _ _ _ found => .inl found

theorem Redis.expire_cases (redis : Redis) (key : String) :
    redis.expire key = redis ∨
      (∃ value, redis key = some ⟨value, true⟩) ∧ redis.expire key = redis.remove [key] := by
  unfold Redis.expire
  split
  case h_1 _ value found => exact .inr ⟨⟨value, found⟩, rfl⟩
  case h_2 _ => exact .inl rfl

theorem Redis.expire_of_some {redis : Redis} {key other : String} {entry : RedisEntry}
    (found : redis.expire key other = some entry) : redis other = some entry := by
  rcases redis.expire_cases key with same | ⟨-, removed⟩
  · rwa [same] at found
  · rw [removed, Redis.remove] at found
    split at found
    · cases found
    · exact found

/-- Only bodies expire. -/
theorem later_expired (coherent : CacheCoherent evaluation world) (key : String) :
    (cacheDiscipline evaluation).Later world (world.expire key) := by
  have counters : ∀ counter, IsCounter counter →
      (world.expire key).redis counter = world.redis counter := by
    intro counter names
    change world.redis.expire key counter = world.redis counter
    rcases world.redis.expire_cases key with same | ⟨⟨value, found⟩, removed⟩
    · rw [same]
    · rw [removed, Redis.remove, if_neg]
      rw [List.mem_singleton]
      intro same
      rw [← same] at found
      -- a counter has no time to live
      obtain ⟨version, immortal⟩ := coherent.counters counter _ names found
      cases immortal
  have grows : world.Grows (world.expire key) := by
    refine ⟨le_rfl, fun _ _ => rfl, ?_, fun _ member => member, fun _ member => .inl member⟩
    intro counter names
    simp only [World.version, Redis.get, counters counter names, le_refl]
  refine ⟨coherent.kept grows ?_ (fun flush member => .inl member) ?_, grows⟩
  · exact fun counter entry _ found => .inl (Redis.expire_of_some found)
  · exact fun subject versions entry _ found => .inl (Redis.expire_of_some found)

/-! Readers. -/

/-- The versions a reader has seen are no older than its start. -/
structure Observed (start now : World Rows) (counter : String) (version : Nat) : Prop where
  names : IsCounter counter
  since : start.version counter ≤ version
  seen : version ≤ now.version counter

theorem Observed.later {start now after : World Rows} {counter : String} {version : Nat}
    (observed : Observed start now counter version) (grows : now.Grows after) :
    Observed start after counter version where
  names := observed.names
  since := observed.since
  seen := observed.seen.trans (grows.versions counter observed.names)

theorem Observed.earlier {first start now : World Rows} {counter : String} {version : Nat}
    (observed : Observed start now counter version) (grows : first.Grows start) :
    Observed first now counter version where
  names := observed.names
  since := (grows.versions counter observed.names).trans observed.since
  seen := observed.seen

/-- No bump on record is behind a commit that has not taken place. -/
theorem Observed.dated {start now : World Rows} {counter : String} {version : Nat}
    (observed : Observed start now counter version) (coherent : CacheCoherent evaluation now) :
    Dated now now.commits counter version where
  names := observed.names
  seen := observed.seen
  missed flush member _ _ := (coherent.flushed flush member).2.2

theorem safe_currentVersion (coherent : CacheCoherent evaluation world) (cache : VersionedCache)
    (key : String) :
    (cacheDiscipline evaluation).Safe
      (fun version now => Observed world now (cache.space.versionKey key) version)
      (cache.currentVersion redisBackend key) world := by
  have names : IsCounter (cache.space.versionKey key) := ⟨cache.space, key, rfl⟩
  have asked : (cacheDiscipline evaluation).Safe
      (fun raw now => Observed world now (cache.space.versionKey key) (versionOf raw))
      (.operate (redisBackend.get (cache.space.versionKey key))) world := by
    apply Discipline.Safe.operate
    · exact fun later passed => .refl passed.valid
    · intro later last passed after
      exact ⟨names, passed.grows.versions _ names, after.grows.versions _ names⟩
  apply Discipline.Safe.bind (.refl coherent) asked
  intro raw later passed observed
  exact Discipline.Safe.pure fun last after => observed.later after.grows

theorem safe_scopeVersions (coherent : CacheCoherent evaluation world) (cache : VersionedCache)
    (scopes : List Scope) :
    (cacheDiscipline evaluation).Safe
      (fun versions now => List.Forall₂ (Observed world now)
        (scopes.map fun scope => cache.space.versionKey scope.text) versions)
      (cache.scopeVersions redisBackend scopes) world := by
  induction scopes generalizing world with
  | nil => exact Discipline.Safe.pure fun last after => .nil
  | cons scope rest ih =>
      apply Discipline.Safe.bind (.refl coherent)
        (safe_currentVersion coherent cache scope.text)
      intro version now passed observed
      apply Discipline.Safe.bind (.refl passed.valid) (ih passed.valid)
      intro versions later after others
      apply Discipline.Safe.pure
      intro last ended
      apply List.Forall₂.cons
      · exact (observed.later after.grows).later ended.grows
      · exact others.imp fun _ _ other => (other.earlier passed.grows).later ended.grows

theorem safe_query (coherent : CacheCoherent evaluation world) (query : Query Rows Answer) :
    (cacheDiscipline evaluation).Safe
      (fun answer now => Computed now.history now.commits world.commits query answer)
      query.run world := by
  induction query generalizing world with
  | done answer => exact Discipline.Safe.pure fun last after => .done
  | select next ih =>
      intro later passed
      refine ⟨.refl passed.valid, ?_⟩
      apply Discipline.Safe.weaken (.refl passed.valid) (ih later.rows passed.valid)
      intro answer now after computed
      have same := after.grows.history later.commits le_rfl
      apply Computed.select passed.grows.commits after.grows.commits
      rw [same]
      exact computed

/-- A body the reader may return: computed, statement by statement, from rows no
older than the last commit whose bump was on record when the reader started. -/
def NeverStale (evaluation : Subject → Query Rows String) (subject : Subject)
    (start : World Rows) (body : String) (now : World Rows) : Prop :=
  ∀ flush ∈ start.flushed, flush.counter ∈ subject.counters →
    Computed now.history now.commits flush.commit (evaluation subject) body

theorem NeverStale.later {subject : Subject} {start now : World Rows} {body : String}
    (fresh : NeverStale evaluation subject start body now) (grows : now.Grows after) :
    NeverStale evaluation subject start body after := by
  intro flush member names
  exact (fresh flush member names).later grows.commits grows.history

theorem exists_common {First Second : Type} {left right : First → Second → Prop}
    {firsts : List First} {seconds : List Second} (lefts : List.Forall₂ left firsts seconds)
    (rights : List.Forall₂ right firsts seconds) {first : First} (member : first ∈ firsts) :
    ∃ second, left first second ∧ right first second := by
  induction lefts with
  | nil => cases member
  | cons here _ ih =>
      cases rights with
      | cons also others =>
          rcases List.mem_cons.mp member with rfl | later
          · exact ⟨_, here, also⟩
          · exact ih others later

/-- A stored body is recent enough for whoever saw the versions it is stored under. -/
theorem FreshBody.neverStale {subject : Subject} {versions : List Nat} {body : String}
    {start : World Rows} (fresh : FreshBody evaluation world subject versions body)
    (begun : CacheCoherent evaluation start)
    (observed : List.Forall₂ (Observed start world) subject.counters versions)
    (grows : start.Grows world) :
    NeverStale evaluation subject start body world := by
  obtain ⟨since, dated, computed⟩ := fresh
  intro flush member names
  obtain ⟨version, dated, observed⟩ := exists_common dated observed names
  have before : flush.version ≤ version :=
    (begun.flushed flush member).2.1.trans observed.since
  have late := dated.missed flush (grows.kept flush member) rfl before
  exact computed.weaken late

section Subjects

variable {start : World Rows} {subject : Subject} {versions : List Nat}

theorem safe_getBody (begun : CacheCoherent evaluation start)
    (passed : (cacheDiscipline evaluation).Later start world)
    (observed : List.Forall₂ (Observed start world) subject.counters versions) :
    (cacheDiscipline evaluation).Safe
      (fun cached now => ∀ body ∈ cached, NeverStale evaluation subject start body now)
      (.operate (redisBackend.get (subject.slot versions))) world := by
  apply Discipline.Safe.operate
  · exact fun later passed => .refl passed.valid
  · intro later last after ended body found
    obtain ⟨entry, stored, rfl⟩ := Option.map_eq_some_iff.mp found
    have fresh := after.valid.bodies subject versions entry observed.length_eq.symm stored
    have still := observed.imp fun _ _ observed => observed.later after.grows
    exact (fresh.neverStale begun still (passed.grows.trans after.grows)).later ended.grows

/-- After a hit: the body found is the answer. -/
theorem safe_hit {cached : Option String} {readable : String → Bool} {body : String}
    (hit : cached.filter readable = some body)
    (fresh : ∀ body ∈ cached, NeverStale evaluation subject start body world) :
    (cacheDiscipline evaluation).Safe (NeverStale evaluation subject start)
      (Pure.pure body) world := by
  apply Discipline.Safe.pure
  intro last ended
  have member : body ∈ cached := (Option.filter_eq_some_iff.mp hit).1
  exact (fresh body member).later ended.grows

/-- After a miss: what is computed now may be stored under the versions seen before. -/
theorem safe_fill (begun : CacheCoherent evaluation start)
    (passed : (cacheDiscipline evaluation).Later start world)
    (observed : List.Forall₂ (Observed start world) subject.counters versions) (ttl : Nat) :
    (cacheDiscipline evaluation).Safe (NeverStale evaluation subject start)
      (do
        let body ← (evaluation subject).run
        let _ ← .operate (redisBackend.set (subject.slot versions) body ttl)
        return body) world := by
  -- The versions were read before the query, so the body is no older than they are.
  have dated : List.Forall₂ (Dated world world.commits) subject.counters versions :=
    observed.imp fun _ _ observed => observed.dated passed.valid
  apply Discipline.Safe.bind (.refl passed.valid) (safe_query passed.valid (evaluation subject))
  intro body computed_at after computed
  have stored : (cacheDiscipline evaluation).Safe
      (fun _ now => NeverStale evaluation subject start body now)
      (.operate (redisBackend.set (subject.slot versions) body ttl)) computed_at := by
    apply Discipline.Safe.operate
    · intro later passed
      have grows := after.grows.trans passed.grows
      apply later_stored passed.valid
      exact ⟨world.commits, dated.imp fun _ _ dated => dated.later grows,
        computed.later passed.grows.commits passed.grows.history⟩
    · intro later last until_stored ended flush member names
      -- What was flushed before the reader came had been committed by then.
      have known : flush.commit ≤ world.commits :=
        (begun.flushed flush member).2.2.trans passed.grows.commits
      have grows := until_stored.grows.trans (World.Grows.trans
        (later_stored until_stored.valid ⟨world.commits,
          dated.imp fun _ _ dated => dated.later (after.grows.trans until_stored.grows),
          computed.later until_stored.grows.commits until_stored.grows.history⟩).grows ended.grows)
      exact (computed.later grows.commits grows.history).weaken known
  apply Discipline.Safe.bind (.refl after.valid) stored
  intro _ later passed fresh
  exact Discipline.Safe.pure fun last ended => fresh.later ended.grows

end Subjects

theorem safe_getVersioned (coherent : CacheCoherent evaluation world) (cache : VersionedCache)
    (key : String) :
    (cacheDiscipline evaluation).Safe
      (fun found now => Observed world now (cache.space.versionKey key) found.2 ∧
        ∀ body ∈ found.1, NeverStale evaluation ⟨cache.space, key, none⟩ world body now)
      (cache.getVersioned redisBackend key) world := by
  apply Discipline.Safe.bind (.refl coherent) (safe_currentVersion coherent cache key)
  intro version now passed observed
  have seen : List.Forall₂ (Observed world now)
      (Subject.counters ⟨cache.space, key, none⟩) [version] := .cons observed .nil
  apply Discipline.Safe.bind (.refl passed.valid) (safe_getBody coherent passed seen)
  intro cached later after fresh
  apply Discipline.Safe.pure
  intro last ended
  refine ⟨(observed.later after.grows).later ended.grows, ?_⟩
  exact fun body found => (fresh body found).later ended.grows

theorem safe_getScoped (coherent : CacheCoherent evaluation world) (cache : VersionedCache)
    (key : String) (scopes : List Scope) :
    (cacheDiscipline evaluation).Safe
      (fun found now => (∃ versions, found.2 = scopeToken scopes versions ∧
          List.Forall₂ (Observed world now)
            (Subject.counters ⟨cache.space, key, some scopes⟩) versions) ∧
        ∀ body ∈ found.1, NeverStale evaluation ⟨cache.space, key, some scopes⟩ world body now)
      (cache.getScoped redisBackend key scopes) world := by
  apply Discipline.Safe.bind (.refl coherent) (safe_scopeVersions coherent cache scopes)
  intro versions now passed observed
  have asked := @safe_getBody _ _ _ _ ⟨cache.space, key, some scopes⟩ versions coherent passed
    observed
  apply Discipline.Safe.bind (.refl passed.valid) asked
  intro cached later after fresh
  apply Discipline.Safe.pure
  intro last ended
  refine ⟨⟨versions, rfl, ?_⟩, fun body found => (fresh body found).later ended.grows⟩
  exact observed.imp fun _ _ observed => (observed.later after.grows).later ended.grows

theorem safe_readThrough (coherent : CacheCoherent evaluation world) (cache : VersionedCache)
    (key : String) (readable : String → Bool) :
    (cacheDiscipline evaluation).Safe (NeverStale evaluation ⟨cache.space, key, none⟩ world)
      (readThrough redisBackend cache key readable
        (evaluation ⟨cache.space, key, none⟩).run) world := by
  apply Discipline.Safe.bind (.refl coherent) (safe_getVersioned coherent cache key)
  intro found now passed observed
  obtain ⟨cached, version⟩ := found
  obtain ⟨observed, fresh⟩ := observed
  cases hit : cached.filter readable with
  | some body =>
      simp only [hit]
      exact safe_hit hit fresh
  | none =>
      simp only [hit]
      have seen : List.Forall₂ (Observed world now)
          (Subject.counters ⟨cache.space, key, none⟩) [version] := .cons observed .nil
      exact safe_fill coherent passed seen cache.ttl

theorem safe_readThroughScoped (coherent : CacheCoherent evaluation world)
    (cache : VersionedCache) (key : String) (scopes : List Scope) (readable : String → Bool) :
    (cacheDiscipline evaluation).Safe (NeverStale evaluation ⟨cache.space, key, some scopes⟩ world)
      (readThroughScoped redisBackend cache key scopes readable
        (evaluation ⟨cache.space, key, some scopes⟩).run) world := by
  apply Discipline.Safe.bind (.refl coherent) (safe_getScoped coherent cache key scopes)
  intro found now passed observed
  obtain ⟨cached, token⟩ := found
  obtain ⟨⟨versions, same, observed⟩, fresh⟩ := observed
  change token = scopeToken scopes versions at same
  subst same
  cases hit : cached.filter readable with
  | some body =>
      simp only [hit]
      exact safe_hit hit fresh
  | none =>
      simp only [hit]
      exact safe_fill coherent passed observed cache.ttl

theorem safe_reader (coherent : CacheCoherent evaluation world)
    (readable : Subject → String → Bool) (reader : Reader) :
    (cacheDiscipline evaluation).Safe (NeverStale evaluation reader.subject world)
      (reader.task evaluation readable) world := by
  obtain ⟨cache, key, scopes⟩ := reader
  cases scopes with
  | none => exact safe_readThrough coherent cache key _
  | some scopes => exact safe_readThroughScoped coherent cache key scopes _

/-! Writers. -/

theorem safe_bump (coherent : CacheCoherent evaluation world) (cache : VersionedCache)
    (key : String) :
    (cacheDiscipline evaluation).Safe (fun _ _ => True) (cache.bump redisBackend key) world := by
  have names : IsCounter (cache.space.versionKey key) := ⟨cache.space, key, rfl⟩
  have counted : (cacheDiscipline evaluation).Safe (fun _ _ => True)
      (.operate (redisBackend.incr (cache.space.versionKey key))) world := by
    apply Discipline.Safe.operate
    · intro later passed
      rw [incr_counter passed.valid names]
      exact later_raised passed.valid names fun _ member => absurd member List.not_mem_nil
    · intros
      trivial
  apply Discipline.Safe.bind (.refl coherent) counted
  intro version later passed _
  cases version <;> exact Discipline.Safe.pure fun _ _ => trivial

/-- The bumps behind a commit, as the record has them. -/
def OnRecord (now : World Rows) (commit : Nat) (pending : DeferredBumps) : Prop :=
  ∀ entry ∈ pending, ∃ flush ∈ now.flushed,
    flush.counter = entry.1.space.versionKey entry.2 ∧ flush.commit = commit

theorem OnRecord.later {now : World Rows} {commit : Nat} {pending : DeferredBumps}
    (recorded : OnRecord now commit pending) (grows : now.Grows after) :
    OnRecord after commit pending := by
  intro entry member
  obtain ⟨flush, kept, named⟩ := recorded entry member
  exact ⟨flush, grows.kept flush kept, named⟩

theorem incr_after (coherent : CacheCoherent evaluation world) {counter : String}
    (names : IsCounter counter) (commit : Nat) :
    (redisAfter commit).incr counter world =
      (some (world.version counter + 1),
        world.raised counter [⟨counter, world.version counter + 1, commit⟩]) := by
  simp only [redisAfter, incr_counter coherent names, World.raised, List.append_nil]

theorem safe_bumpAfter (coherent : CacheCoherent evaluation world) {commit : Nat}
    (taken : commit ≤ world.commits) (cache : VersionedCache) (key : String) :
    (cacheDiscipline evaluation).Safe (fun _ now => OnRecord now commit [(cache, key)])
      (cache.bump (redisAfter commit) key) world := by
  have names : IsCounter (cache.space.versionKey key) := ⟨cache.space, key, rfl⟩
  -- The increment is what counts: the key expiring later changes no version.
  have counted : (cacheDiscipline evaluation).Safe
      (fun _ now => OnRecord now commit [(cache, key)])
      (.operate ((redisAfter commit).incr (cache.space.versionKey key))) world := by
    apply Discipline.Safe.operate
    · intro later passed
      rw [incr_after passed.valid names]
      apply later_raised passed.valid names
      intro flush member
      rw [List.mem_singleton.mp member]
      exact ⟨rfl, rfl, taken.trans passed.grows.commits⟩
    · intro later last passed ended entry member
      rw [incr_after passed.valid names] at ended
      rw [List.mem_singleton.mp member]
      refine ⟨⟨cache.space.versionKey key, later.version (cache.space.versionKey key) + 1, commit⟩,
        ended.grows.kept _ ?_, rfl, rfl⟩
      exact List.mem_append_right _ (List.mem_singleton_self _)
  apply Discipline.Safe.bind (.refl coherent) counted
  intro version later passed recorded
  cases version <;> exact Discipline.Safe.pure fun last ended => recorded.later ended.grows

theorem safe_runBumps (coherent : CacheCoherent evaluation world) {commit : Nat}
    (taken : commit ≤ world.commits) (pending : DeferredBumps) :
    (cacheDiscipline evaluation).Safe (fun _ now => OnRecord now commit pending)
      (runBumps (redisAfter commit) pending) world := by
  induction pending generalizing world with
  | nil => exact Discipline.Safe.pure fun last ended entry member => absurd member List.not_mem_nil
  | cons entry rest ih =>
      obtain ⟨cache, key⟩ := entry
      apply Discipline.Safe.bind (.refl coherent) (safe_bumpAfter coherent taken cache key)
      intro _ now passed recorded
      apply Discipline.Safe.weaken (.refl passed.valid)
        (ih passed.valid (taken.trans passed.grows.commits))
      intro _ last ended others entry member
      rcases List.mem_cons.mp member with rfl | other
      · exact recorded.later ended.grows _ (List.mem_singleton_self _)
      · exact others entry other

/-- What a request has told when it ended. -/
def Told (evaluation : Subject → Query Rows String) (request : Request Rows) (start : World Rows)
    (outcome : Outcome) (now : World Rows) : Prop :=
  match request, outcome with
  | .read reader, .body body => NeverStale evaluation reader.subject start body now
  | _, .committed commit pending => OnRecord now commit pending
  | _, _ => True

theorem safe_session (coherent : CacheCoherent evaluation world) {request : Request Rows}
    {start : World Rows} (work : Work Rows) (draft : Rows → Rows) (pending : DeferredBumps) :
    (cacheDiscipline evaluation).Safe (Told evaluation request start)
      (work.session draft pending) world := by
  -- Induction on the work of the session; only its end touches what others read.
  induction work generalizing world draft pending with
  | select next ih =>
      intro later passed
      exact ⟨.refl passed.valid, ih _ passed.valid draft pending⟩
  | mutate change next ih => exact ih coherent _ pending
  | invalidate cache key next ih =>
      apply Discipline.Safe.bind (.refl coherent) (safe_bump coherent cache key)
      intro _ later passed _
      exact ih passed.valid draft _
  | finish =>
      -- The bumps run after the commit, so each records the commit it follows.
      have committed : (cacheDiscipline evaluation).Safe
          (fun commit now => commit ≤ now.commits) (.operate (World.commit draft)) world := by
        apply Discipline.Safe.operate
        · exact fun later passed => later_committed passed.valid draft
        · exact fun later last passed ended => ended.grows.commits
      apply Discipline.Safe.bind (.refl coherent) committed
      intro commit now passed taken
      have flushed : (cacheDiscipline evaluation).Safe
          (fun _ now => OnRecord now commit pending)
          (flushDeferredBumps (redisAfter commit) pending) now := by
        apply Discipline.Safe.bind (.refl passed.valid) (safe_runBumps passed.valid taken pending)
        intro _ later after recorded
        exact Discipline.Safe.pure fun last ended => recorded.later ended.grows
      apply Discipline.Safe.bind (.refl passed.valid) flushed
      intro _ later after recorded
      apply Discipline.Safe.pure
      intro last ended
      unfold Told
      cases request <;> exact recorded.later ended.grows
  | fail =>
      apply Discipline.Safe.pure
      intro last ended
      cases request <;> trivial

end Steps

section Requests

variable (evaluation : Subject → Query Rows String) (readable : Subject → String → Bool)

theorem cache_follows :
    Tasks.Follows (cacheDiscipline evaluation) (serveCached evaluation readable) World.expire
      (Told evaluation) where
  served request origin coherent := by
    cases request with
    | write work => exact safe_session coherent work id []
    | read reader =>
        apply Discipline.Safe.bind (.refl coherent) (safe_reader coherent readable reader)
        intro body later passed fresh
        exact Discipline.Safe.pure fun last ended => fresh.later ended.grows
  happened key world coherent := later_expired coherent key

/-- Whatever the readers and writers are and however their operations interleave:
what a reader returns was computed, statement by statement, from rows that are no
older than any commit whose bump of one of its counters came before it started;
and the bumps a writer deferred come after its commit. As the rows may hold a
stamp of their commit, this dates the computation and not its outcome only. -/
theorem reader_after_bump_never_stale (rows : Rows)
    (actions : List (Tasks.Action (Request Rows) String)) :
    Runs.Always (cacheStep evaluation readable)
      (fun system => ∀ running ∈ system.running,
        (∀ reader body, running.request = .read reader → running.task = .done (.body body) →
          ∀ flush ∈ running.origin.flushed, flush.counter ∈ reader.subject.counters →
            Computed system.shared.history system.shared.commits flush.commit
              (evaluation reader.subject) body) ∧
        (∀ commit pending, running.task = .done (.committed commit pending) →
          ∀ entry ∈ pending, ∃ flush ∈ system.shared.flushed,
            flush.counter = entry.1.space.versionKey entry.2 ∧ flush.commit = commit))
      ⟨World.initial rows, []⟩ actions := by
  have always := Tasks.always_sound (cache_follows evaluation readable) (.initial rows) actions
  apply always.mono
  intro system sound running member
  constructor
  · intro reader body reading ended
    have told := sound.told member ended
    rw [reading] at told
    exact told
  · intro commit pending ended
    have told := sound.told member ended
    obtain ⟨request, origin, task⟩ := running
    cases request <;> exact told

end Requests

end SynapseSaas
