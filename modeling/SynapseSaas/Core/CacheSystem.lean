import SynapseSaas.Core.Cache
import Mathlib.Algebra.Group.Nat.Defs

/-! Requests over the database and a Redis cache: readers that go through the
cache, writers that invalidate it, and everything that may happen in between. -/

set_option autoImplicit false

namespace SynapseSaas

open Tasks (Task)

/-! Redis, as far as the cache uses it. A key that SET wrote has a time to live;
one that only INCR wrote has none. -/

structure RedisEntry where
  value : String
  expires : Bool
  deriving DecidableEq, Repr

abbrev Redis := String → Option RedisEntry

namespace Redis

/-- The integer INCR finds in a value. -/
def integer (value : String) : Option Nat :=
  if value.toList ≠ [] ∧ value.toList.all Char.isDigit then
    some (Nat.ofDigitChars 10 value.toList 0)
  else none

def get (redis : Redis) (key : String) : Option String := (redis key).map (·.value)

def put (redis : Redis) (key : String) (entry : RedisEntry) : Redis :=
  fun other => if other = key then some entry else redis other

def remove (redis : Redis) (keys : List String) : Redis :=
  fun key => if key ∈ keys then none else redis key

/-- INCR counts from 0, keeps the time to live, and refuses what is no integer. -/
def incr (redis : Redis) (key : String) : Option Nat × Redis :=
  match redis key with
  | none => (some 1, redis.put key ⟨toString 1, false⟩)
  | some entry =>
      match integer entry.value with
      | none => (none, redis)
      | some version => (some (version + 1), redis.put key ⟨toString (version + 1), entry.expires⟩)

/-- A key goes when its time to live is over, and at no other time. -/
def expire (redis : Redis) (key : String) : Redis :=
  match redis key with
  | some ⟨_, true⟩ => redis.remove [key]
  | _ => redis

@[simp] theorem integer_toString (version : Nat) : integer (toString version) = some version := by
  have digits := Delimited.digits_toString version
  have nonempty : (toString version).toList ≠ [] := by simp
  rw [integer, if_pos ⟨nonempty, List.all_eq_true.mpr digits⟩]
  simp

end Redis

/-! The world the requests share. -/

/-- A bump that was run after a commit: the counter, its new value, and the
number of the commit. -/
structure Flush where
  counter : String
  version : Nat
  commit : Nat
  deriving DecidableEq, Repr

/-- The rows after each commit, how many commits there were, the cache, and, for
the record only, the bumps that followed a commit. -/
structure World (Rows : Type) where
  history : Nat → Rows
  commits : Nat
  redis : Redis
  flushed : List Flush

section Operations

variable {Rows : Type}

namespace World

/-- Nothing has been committed over the first rows, and nothing is cached. -/
def initial (rows : Rows) : World Rows := ⟨fun _ => rows, 0, fun _ => none, []⟩

def rows (world : World Rows) : Rows := world.history world.commits

/-- The commit of a transaction, with its number. -/
def commit (change : Rows → Rows) (world : World Rows) : Nat × World Rows :=
  (world.commits + 1,
    { world with
      history := Function.update world.history (world.commits + 1) (change world.rows)
      commits := world.commits + 1 })

def expire (key : String) (world : World Rows) : World Rows :=
  { world with redis := world.redis.expire key }

end World

/-- The backend `get_redis()` returns. -/
def redisBackend : CacheBackend (World Rows) where
  get key world := (world.redis.get key, world)
  set key value _ world := ((), { world with redis := world.redis.put key ⟨value, true⟩ })
  delete keys world := ((), { world with redis := world.redis.remove keys })
  incr key world :=
    let (version, redis) := world.redis.incr key
    (version, { world with redis })

/-- The same backend, with a record of the bumps that follow the commit. -/
def redisAfter (commit : Nat) : CacheBackend (World Rows) where
  get := redisBackend.get
  set := redisBackend.set
  delete := redisBackend.delete
  incr key world :=
    match redisBackend.incr key world with
    | (some version, after) =>
        (some version, { after with flushed := after.flushed ++ [⟨key, version, commit⟩] })
    | (none, after) => (none, after)

/-! A computation is a sequence of statements, each of which sees what is
committed when it runs. -/

inductive Query (Rows Answer : Type) where
  | done (answer : Answer)
  | select (next : Rows → Query Rows Answer)

def Query.run {Answer : Type} : Query Rows Answer → Task (World Rows) Answer
  | .done answer => return answer
  | .select next => do
      let rows ← .observe World.rows
      (next rows).run

/-- The query has this answer when its statements see the rows of later and later
commits, none of them earlier than `since` and none later than `last`. -/
inductive Computed {Answer : Type} (history : Nat → Rows) (last : Nat) :
    Nat → Query Rows Answer → Answer → Prop where
  | done {since : Nat} {answer : Answer} : Computed history last since (.done answer) answer
  | select {since commit : Nat} {next : Rows → Query Rows Answer} {answer : Answer} :
      since ≤ commit → commit ≤ last → Computed history last commit (next (history commit)) answer →
      Computed history last since (.select next) answer

end Operations

/-! Reading through the cache. -/

section ReadThrough

variable {State : Type} (backend : CacheBackend State) (cache : VersionedCache)

/-- A body that cannot be read counts as a miss; a computed one is stored under
the version seen at the beginning. -/
def readThrough (key : String) (readable : String → Bool) (compute : Task State String) :
    Task State String := do
  let (cached, version) ← cache.getVersioned backend key
  match cached.filter readable with
  | some body => return body
  | none =>
      let body ← compute
      cache.set backend key body (some version)
      return body

def readThroughScoped (key : String) (scopes : List Scope) (readable : String → Bool)
    (compute : Task State String) : Task State String := do
  let (cached, token) ← cache.getScoped backend key scopes
  match cached.filter readable with
  | some body => return body
  | none =>
      let body ← compute
      cache.setScoped backend key body token
      return body

end ReadThrough

/-! The readers of the repository. -/

/-- The last `width` digits of a number in base 16. -/
def hex (width value : Nat) : List Char :=
  (List.range width).map fun index => Nat.digitChar (value / 16 ^ (width - 1 - index) % 16)

/-- `str(UUID)`. -/
def uuidText (id : Nat) : String :=
  String.ofList (hex 8 (id / 2 ^ 96) ++ '-' :: (hex 4 (id / 2 ^ 80) ++ '-' ::
    (hex 4 (id / 2 ^ 64) ++ '-' :: (hex 4 (id / 2 ^ 48) ++ '-' :: hex 12 id))))

def optionalText : Option Nat → String
  | some id => uuidText id
  | none => "None"

theorem hex_plain (width value : Nat) :
    ∀ digit ∈ hex width value, digit ≠ '=' ∧ digit ≠ ']' := by
  have digits : ∀ value < 16, Nat.digitChar value ≠ '=' ∧ Nat.digitChar value ≠ ']' := by
    decide
  intro digit member
  obtain ⟨index, -, rfl⟩ := List.mem_map.mp member
  exact digits _ (Nat.mod_lt _ (by decide))

theorem optionalText_plain (id : Option Nat) :
    ∀ symbol ∈ (optionalText id).toList, symbol ≠ '=' ∧ symbol ≠ ']' := by
  intro symbol member
  cases id with
  | none =>
      have letters : ∀ symbol ∈ ['N', 'o', 'n', 'e'], symbol ≠ '=' ∧ symbol ≠ ']' := by simp
      exact letters symbol member
  | some id =>
      simp only [optionalText, uuidText, String.toList_ofList, List.mem_append, List.mem_cons]
        at member
      rcases member with part | rfl | part | rfl | part | rfl | part | rfl | part
      all_goals first
        | exact hex_plain _ _ symbol part
        | decide

def Scope.ofText (label : String) (id : Option Nat)
    (plain : '=' ∉ label.toList ∧ ']' ∉ label.toList) : Scope where
  text := label ++ optionalText id
  plain := by
    have id_plain := optionalText_plain id
    simp only [String.toList_append, List.mem_append, not_or]
    exact ⟨⟨plain.1, fun member => (id_plain _ member).1 rfl⟩,
      ⟨plain.2, fun member => (id_plain _ member).2 rfl⟩⟩

namespace EntitlementService

def cache : VersionedCache where
  space := ⟨"entl", by decide⟩
  ttl := 60
  holder := "entitlements.service._cache"

/-- `effective_for_org`, up to the serialization of its answer. -/
def effectiveForOrg {State : Type} (backend : CacheBackend State) (organizationId : Nat)
    (readable : String → Bool) (compute : Task State String) : Task State String :=
  readThrough backend cache (uuidText organizationId) readable compute

end EntitlementService

namespace FeatureFlagService

def cache : VersionedCache where
  space := ⟨"fflags", by decide⟩
  ttl := 30
  holder := "feature_flags.service._cache"

def scopes (organizationId userId : Option Nat) : List Scope :=
  [⟨"all", by decide⟩, .ofText "org:" organizationId (by decide), .ofText "user:" userId (by decide)]

def isEnabled {State : Type} (backend : CacheBackend State) (flagKey : String)
    (organizationId userId : Option Nat) (evaluate : Task State Bool) : Task State Bool := do
  let cacheKey := flagKey ++ "|" ++ optionalText organizationId ++ "|" ++ optionalText userId
  let compute : Task State String := do
    let enabled ← evaluate
    return if enabled then "1" else "0"
  let body ← readThroughScoped backend cache cacheKey (scopes organizationId userId)
    (fun _ => true) compute
  return body == "1"

end FeatureFlagService

/-! The requests. -/

/-- A read through a cache, under one counter or under several scopes. -/
structure Reader where
  cache : VersionedCache
  key : String
  scopes : Option (List Scope)

def Reader.subject (reader : Reader) : Subject := ⟨reader.cache.space, reader.key, reader.scopes⟩

/-- What a request that writes does in its transaction, until it ends well or is
rolled back. -/
inductive Work (Rows : Type) where
  | select (next : Rows → Work Rows)
  | mutate (change : Rows → Rows) (next : Work Rows)
  | invalidate (cache : VersionedCache) (key : String) (next : Work Rows)
  | finish
  | fail

inductive Outcome where
  | body (text : String)
  | committed (commit : Nat) (flushed : DeferredBumps)
  | rolledBack

inductive Request (Rows : Type) where
  | read (reader : Reader)
  | write (work : Work Rows)

section Requests

variable {Rows : Type} (evaluation : Subject → Query Rows String)
  (readable : Subject → String → Bool)

def Reader.task (reader : Reader) : Task (World Rows) String :=
  match reader.scopes with
  | none => readThrough redisBackend reader.cache reader.key (readable reader.subject)
      (evaluation reader.subject).run
  | some scopes => readThroughScoped redisBackend reader.cache reader.key scopes
      (readable reader.subject) (evaluation reader.subject).run

/-- `effective_for_org` is such a reader. -/
theorem EntitlementService.effectiveForOrg_eq (organizationId : Nat) :
    let reader : Reader := ⟨EntitlementService.cache, uuidText organizationId, none⟩
    EntitlementService.effectiveForOrg redisBackend organizationId (readable reader.subject)
      (evaluation reader.subject).run = reader.task evaluation readable :=
  rfl

/-- The session of a request: an invalidation bumps at once and again after the
commit; a request that fails discards what it queued. -/
def Work.session : Work Rows → (Rows → Rows) → DeferredBumps → Task (World Rows) Outcome
  | .select next, draft, pending => do
      let rows ← .observe World.rows
      (next (draft rows)).session draft pending
  | .mutate change next, draft, pending => next.session (change ∘ draft) pending
  | .invalidate cache key next, draft, pending => do
      let _ ← cache.bump redisBackend key
      next.session draft (deferBump pending cache key)
  | .finish, draft, pending => do
      let commit ← .operate (World.commit draft)
      let _ ← flushDeferredBumps (redisAfter commit) pending
      return .committed commit pending
  | .fail, _, _ => return .rolledBack

def serveCached : Request Rows → Task (World Rows) Outcome
  | .read reader => do
      let body ← reader.task evaluation readable
      return .body body
  | .write work => work.session id []

/-- Readers and writers start and go on in any order; bodies may expire at any time. -/
def cacheStep : Tasks.System (Request Rows) (World Rows) Outcome → Tasks.Action (Request Rows) String →
    Tasks.System (Request Rows) (World Rows) Outcome :=
  Tasks.step (serveCached evaluation readable) World.expire

end Requests

end SynapseSaas
