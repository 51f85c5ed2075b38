import SynapseSaas.Foundation.Delimited
import SynapseSaas.Foundation.Tasks

/-! The version-counter cache, over any backend, and the keys it stores under.

A counter is the decimal string the backend's INCR keeps; a body is stored under
the versions its reader saw. Which body that is can be read off the key. -/

set_option autoImplicit false

namespace SynapseSaas

open Tasks (Task)
open Delimited (Stops before_unique number_unique digits_toString)

variable {State : Type}

def DEFAULT_TTL_SECONDS : Nat := 60

/-- What a backend does to the state it lives in; an INCR that raises has no answer. -/
structure CacheBackend (State : Type) where
  get (key : String) : State → Option String × State
  set (key value : String) (ex : Nat) : State → Unit × State
  delete (keys : List String) : State → Unit × State
  incr (key : String) : State → Option Nat × State

/-- A namespace, none of which contains the separator of the keys. -/
@[ext] structure Space where
  text : String
  plain : ':' ∉ text.toList
  deriving DecidableEq

namespace Space

variable (space : Space) (key : String)

def versionKey : String := space.text ++ ":ver:" ++ key

def bodyKey (version : Nat) : String := space.text ++ ":v" ++ toString version ++ ":" ++ key

def scopedKey (token : String) : String := space.text ++ ":s[" ++ token ++ "]:" ++ key

end Space

/-- A cache object. Two objects over one namespace are told apart by the module
that holds them. -/
structure VersionedCache where
  space : Space
  ttl : Nat := DEFAULT_TTL_SECONDS
  holder : String
  deriving DecidableEq

/-- A scope, under a name that cannot be mistaken for another part of a token. -/
@[ext] structure Scope where
  text : String
  plain : '=' ∉ text.toList ∧ ']' ∉ text.toList
  deriving DecidableEq

def scopePart (scope : Scope) (version : Nat) : String := scope.text ++ "=" ++ toString version

/-- The token of the versions a reader saw its scopes at. -/
def scopeToken (scopes : List Scope) (versions : List Nat) : String :=
  ",".intercalate (List.zipWith scopePart scopes versions)

/-- `int(raw) if raw else 0` of a counter's value. -/
def versionOf : Option String → Nat
  | some raw => Nat.ofDigitChars 10 raw.toList 0
  | none => 0

@[simp] theorem versionOf_toString (version : Nat) :
    versionOf (some (toString version)) = version := by
  simp [versionOf]

namespace VersionedCache

variable (backend : CacheBackend State) (cache : VersionedCache)

def currentVersion (key : String) : Task State Nat := do
  let versionRaw ← .operate (backend.get (cache.space.versionKey key))
  return versionOf versionRaw

/-- The body and the version it was looked up under, which goes back to `set` after a miss. -/
def getVersioned (key : String) : Task State (Option String × Nat) := do
  let version ← cache.currentVersion backend key
  let body ← .operate (backend.get (cache.space.bodyKey key version))
  return (body, version)

def get (key : String) : Task State (Option String) := do
  let (body, _) ← cache.getVersioned backend key
  return body

def set (key value : String) : Option Nat → Task State Unit
  | some version => .operate (backend.set (cache.space.bodyKey key version) value cache.ttl)
  | none => do
      let version ← cache.currentVersion backend key
      .operate (backend.set (cache.space.bodyKey key version) value cache.ttl)

/-- The versions of the scopes, read one after the other. -/
def scopeVersions : List Scope → Task State (List Nat)
  | [] => return []
  | scope :: rest => do
      let version ← cache.currentVersion backend scope.text
      let versions ← scopeVersions rest
      return version :: versions

/-- A body that several counters can invalidate, and the token of their versions. -/
def getScoped (key : String) (scopes : List Scope) : Task State (Option String × String) := do
  let versions ← cache.scopeVersions backend scopes
  let token := scopeToken scopes versions
  let body ← .operate (backend.get (cache.space.scopedKey key token))
  return (body, token)

def setScoped (key value token : String) : Task State Unit :=
  .operate (backend.set (cache.space.scopedKey key token) value cache.ttl)

/-- The new version, or -1 where the backend raised: a failed bump is logged only. -/
def bump (key : String) : Task State Int := do
  match ← .operate (backend.incr (cache.space.versionKey key)) with
  | some version => return version
  | none => return -1

/-- Invalidation is a bump: a counter that is reset would bring old bodies back. -/
def delete (key : String) : Task State Unit := do
  let _ ← cache.bump backend key
  return ()

end VersionedCache

/-! Invalidations that wait for the commit. -/

/-- The bumps a session has queued. -/
abbrev DeferredBumps := List (VersionedCache × String)

def deferBump (pending : DeferredBumps) (cache : VersionedCache) (key : String) : DeferredBumps :=
  if (cache, key) ∈ pending then pending else pending ++ [(cache, key)]

def runBumps (backend : CacheBackend State) : DeferredBumps → Task State Unit
  | [] => return ()
  | (cache, key) :: rest => do
      let _ ← cache.bump backend key
      runBumps backend rest

def flushDeferredBumps (backend : CacheBackend State) (pending : DeferredBumps) :
    Task State Nat := do
  runBumps backend pending
  return pending.length

/-! What a key names. -/

/-- What is cached: the bodies of one key, invalidated by its own counter or by
those of several scopes. -/
structure Subject where
  space : Space
  key : String
  scopes : Option (List Scope)
  deriving DecidableEq

namespace Subject

variable (subject : Subject)

def counters : List String :=
  match subject.scopes with
  | none => [subject.space.versionKey subject.key]
  | some scopes => scopes.map fun scope => subject.space.versionKey scope.text

/-- Where the body of these versions of its counters is stored. -/
def slot (versions : List Nat) : String :=
  match subject.scopes with
  | none => subject.space.bodyKey subject.key (versions.headD 0)
  | some scopes => subject.space.scopedKey subject.key (scopeToken scopes versions)

end Subject

/-- The token after the first scope's version. -/
def followingScopes : List Scope → List Nat → List Char
  | [], _ => []
  | scopes, versions => ',' :: (scopeToken scopes versions).toList

theorem followingScopes_stops (scopes : List Scope) (versions : List Nat) :
    Stops (fun symbol => symbol.isDigit = true) (followingScopes scopes versions) := by
  cases scopes with
  | nil => simp [followingScopes, Stops]
  | cons scope rest => simp [followingScopes]

theorem scopeToken_cons {scope : Scope} {version : Nat} {scopes : List Scope}
    {versions : List Nat} (lengths : versions.length = scopes.length) :
    (scopeToken (scope :: scopes) (version :: versions)).toList =
      scope.text.toList ++ '=' :: ((toString version).toList ++
        followingScopes scopes versions) := by
  cases scopes with
  | nil => simp [scopeToken, scopePart, followingScopes]
  | cons next rest =>
      obtain ⟨number, numbers, rfl⟩ := List.exists_cons_of_length_eq_add_one lengths
      simp only [scopeToken, List.zipWith_cons_cons, String.intercalate_cons_cons, followingScopes]
      simp [scopePart]

theorem scopeToken_of_following {scopes others : List Scope} {versions numbers : List Nat}
    (same : followingScopes scopes versions = followingScopes others numbers) :
    (scopeToken scopes versions).toList = (scopeToken others numbers).toList := by
  cases scopes with
  | nil =>
      cases others with
      | nil => simp [scopeToken]
      | cons other rest => cases same
  | cons scope scopes =>
      cases others with
      | nil => cases same
      | cons other others => exact (List.cons_eq_cons.mp same).2

theorem scopeToken_injective {scopes others : List Scope} {versions numbers : List Nat}
    (lengths : versions.length = scopes.length) (other_lengths : numbers.length = others.length)
    (same : (scopeToken scopes versions).toList = (scopeToken others numbers).toList) :
    scopes = others ∧ versions = numbers := by
  induction scopes generalizing versions others numbers with
  | nil =>
      have none_left := List.length_eq_zero_iff.mp lengths
      cases others with
      | nil => exact ⟨rfl, none_left.trans (List.length_eq_zero_iff.mp other_lengths).symm⟩
      | cons other rest =>
          obtain ⟨number, numbers, rfl⟩ := List.exists_cons_of_length_eq_add_one other_lengths
          rw [scopeToken_cons (Nat.succ.inj other_lengths)] at same
          simp [scopeToken] at same
  | cons scope scopes ih =>
      obtain ⟨version, versions, rfl⟩ := List.exists_cons_of_length_eq_add_one lengths
      cases others with
      | nil =>
          rw [scopeToken_cons (Nat.succ.inj lengths)] at same
          simp [scopeToken] at same
      | cons other others =>
          obtain ⟨number, numbers, rfl⟩ := List.exists_cons_of_length_eq_add_one other_lengths
          rw [scopeToken_cons (Nat.succ.inj lengths), scopeToken_cons (Nat.succ.inj other_lengths)]
            at same
          -- A name ends at the first separator, and a version at the first character that is
          -- no digit.
          obtain ⟨names, rests⟩ := before_unique scope.plain.1 other.plain.1 same
          obtain ⟨same_version, followings⟩ := number_unique
            (followingScopes_stops scopes versions) (followingScopes_stops others numbers) rests
          have same_scope : scope = other := Scope.ext (String.toList_inj.mp names)
          have same_rest : (scopeToken scopes versions).toList =
              (scopeToken others numbers).toList :=
            scopeToken_of_following followings
          obtain ⟨same_scopes, same_versions⟩ :=
            ih (Nat.succ.inj lengths) (Nat.succ.inj other_lengths) same_rest
          rw [same_scope, same_version, same_scopes, same_versions]
          exact ⟨rfl, rfl⟩

theorem closing_notMem_scopeToken {scopes : List Scope} {versions : List Nat}
    (lengths : versions.length = scopes.length) :
    ']' ∉ (scopeToken scopes versions).toList := by
  induction scopes generalizing versions with
  | nil => simp [scopeToken]
  | cons scope scopes ih =>
      obtain ⟨version, versions, rfl⟩ := List.exists_cons_of_length_eq_add_one lengths
      have rest := ih (Nat.succ.inj lengths)
      have not_digit : ']' ∉ (toString version).toList :=
        fun member => absurd (digits_toString version _ member) (by decide)
      have following : ']' ∉ followingScopes scopes versions := by
        cases scopes with
        | nil => exact List.not_mem_nil
        | cons next scopes => simp only [followingScopes, List.mem_cons, rest]; decide
      rw [scopeToken_cons (Nat.succ.inj lengths)]
      simp only [List.mem_append, List.mem_cons, scope.plain.2, not_digit, following]
      decide

namespace Space

theorem versionKey_toList (space : Space) (key : String) :
    (space.versionKey key).toList =
      space.text.toList ++ ':' :: 'v' :: 'e' :: 'r' :: ':' :: key.toList := by
  simp [versionKey]

theorem bodyKey_toList (space : Space) (key : String) (version : Nat) :
    (space.bodyKey key version).toList =
      space.text.toList ++ ':' :: 'v' :: ((toString version).toList ++ ':' :: key.toList) := by
  simp [bodyKey]

theorem scopedKey_toList (space : Space) (key token : String) :
    (space.scopedKey key token).toList =
      space.text.toList ++ ':' :: 's' :: '[' :: (token.toList ++ ']' :: ':' :: key.toList) := by
  simp [scopedKey]

theorem bodyKey_injective {space other : Space} {key another : String} {version number : Nat}
    (same : space.bodyKey key version = other.bodyKey another number) :
    space = other ∧ key = another ∧ version = number := by
  have texts := congrArg String.toList same
  rw [bodyKey_toList, bodyKey_toList] at texts
  obtain ⟨names, rests⟩ := before_unique space.plain other.plain texts
  obtain ⟨versions, keys⟩ := number_unique (by simp) (by simp) (List.cons_eq_cons.mp rests).2
  have same_key := String.toList_inj.mp (List.cons_eq_cons.mp keys).2
  exact ⟨Space.ext (String.toList_inj.mp names), same_key, versions⟩

theorem scopedKey_injective {space other : Space} {key another token mark : String}
    (closed : ']' ∉ token.toList) (other_closed : ']' ∉ mark.toList)
    (same : space.scopedKey key token = other.scopedKey another mark) :
    space = other ∧ key = another ∧ token = mark := by
  have texts := congrArg String.toList same
  rw [scopedKey_toList, scopedKey_toList] at texts
  obtain ⟨names, rests⟩ := before_unique space.plain other.plain texts
  have inside := (List.cons_eq_cons.mp (List.cons_eq_cons.mp rests).2).2
  obtain ⟨tokens, keys⟩ := before_unique closed other_closed inside
  have same_key := String.toList_inj.mp (List.cons_eq_cons.mp keys).2
  exact ⟨Space.ext (String.toList_inj.mp names), same_key, String.toList_inj.mp tokens⟩

theorem bodyKey_ne_versionKey {space other : Space} {key another : String} {version : Nat} :
    space.bodyKey key version ≠ other.versionKey another := by
  intro same
  have texts := congrArg String.toList same
  rw [bodyKey_toList, versionKey_toList] at texts
  obtain ⟨-, rests⟩ := before_unique space.plain other.plain texts
  -- a version begins with a digit where the counter's key goes on with a letter
  have later := (List.cons_eq_cons.mp rests).2
  cases digits : (toString version).toList with
  | nil =>
      rw [digits, List.nil_append] at later
      exact absurd (List.cons_eq_cons.mp later).1 (by decide)
  | cons digit more =>
      have decimal := digits_toString version digit (by rw [digits]; exact List.mem_cons_self)
      rw [digits, List.cons_append] at later
      rw [(List.cons_eq_cons.mp later).1] at decimal
      exact absurd decimal (by decide)

theorem scopedKey_ne_versionKey {space other : Space} {key another token : String} :
    space.scopedKey key token ≠ other.versionKey another := by
  intro same
  have texts := congrArg String.toList same
  rw [scopedKey_toList, versionKey_toList] at texts
  obtain ⟨-, rests⟩ := before_unique space.plain other.plain texts
  exact absurd (List.cons_eq_cons.mp rests).1 (by decide)

theorem bodyKey_ne_scopedKey {space other : Space} {key another token : String} {version : Nat} :
    space.bodyKey key version ≠ other.scopedKey another token := by
  intro same
  have texts := congrArg String.toList same
  rw [bodyKey_toList, scopedKey_toList] at texts
  obtain ⟨-, rests⟩ := before_unique space.plain other.plain texts
  exact absurd (List.cons_eq_cons.mp rests).1 (by decide)

end Space

namespace Subject

theorem counters_names (subject : Subject) {counter : String} (member : counter ∈ subject.counters) :
    ∃ (space : Space) (name : String), counter = space.versionKey name := by
  unfold counters at member
  cases scoped_by : subject.scopes with
  | none =>
      rw [scoped_by] at member
      exact ⟨subject.space, subject.key, List.mem_singleton.mp member⟩
  | some scopes =>
      rw [scoped_by] at member
      obtain ⟨scope, -, rfl⟩ := List.mem_map.mp member
      exact ⟨subject.space, scope.text, rfl⟩

theorem slot_ne_versionKey (subject : Subject) (versions : List Nat) (space : Space)
    (key : String) : subject.slot versions ≠ space.versionKey key := by
  unfold slot
  cases subject.scopes with
  | none => exact Space.bodyKey_ne_versionKey
  | some scopes => exact Space.scopedKey_ne_versionKey

/-- The key a body is stored under names its subject and the versions of all its counters. -/
theorem slot_unique {subject other : Subject} {versions numbers : List Nat}
    (fits : versions.length = subject.counters.length)
    (other_fits : numbers.length = other.counters.length)
    (same : subject.slot versions = other.slot numbers) :
    subject = other ∧ versions = numbers := by
  obtain ⟨space, key, scopes⟩ := subject
  obtain ⟨other_space, other_key, other_scopes⟩ := other
  cases scopes with
  | none =>
      cases other_scopes with
      -- A body stored under a version is never under a scoped key, nor the other way
      -- round.
      | some scopes => exact absurd same Space.bodyKey_ne_scopedKey
      | none =>
          obtain ⟨version, rfl⟩ := List.length_eq_one_iff.mp fits
          obtain ⟨number, rfl⟩ := List.length_eq_one_iff.mp other_fits
          obtain ⟨rfl, rfl, same_version⟩ := Space.bodyKey_injective same
          simp only [List.headD_cons] at same_version
          rw [same_version]
          exact ⟨rfl, rfl⟩
  | some scopes =>
      cases other_scopes with
      | none => exact absurd same.symm Space.bodyKey_ne_scopedKey
      | some others =>
          simp only [counters, List.length_map] at fits other_fits
          obtain ⟨rfl, rfl, tokens⟩ := Space.scopedKey_injective
            (closing_notMem_scopeToken fits) (closing_notMem_scopeToken other_fits) same
          obtain ⟨rfl, rfl⟩ := scopeToken_injective fits other_fits (congrArg String.toList tokens)
          exact ⟨rfl, rfl⟩

end Subject

end SynapseSaas
