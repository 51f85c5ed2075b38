import SynapseSaas.Core.RateLimiter
import SynapseSaas.Foundation.Tasks
import SynapseSaas.Foundation.Windows

/-! The rate limiter over Redis, which all processes share: a counter for each key, with a time
to live that the first calls set after they have counted. Calls interleave between their
commands, and any command or its reply may be lost. -/

set_option autoImplicit false

namespace SynapseSaas.RateLimiting

open Tasks (Task)

/-- A counter as Redis keeps it, times being Redis's own in milliseconds. Only `value` and
`deadline` are Redis's; the rest records when the counter began, when its time to live was first
set, and when the calls that have set it had counted. -/
structure Counter where
  value : Nat
  deadline : Option Int
  began : Int
  timed : Option Int
  renewals : List Int

/-- What one INCR counted. -/
structure Hit where
  caller : Nat
  key : String
  time : Int
  number : Nat

/-- Redis, and the hits in their order, the newest first. -/
structure Counters where
  now : Int
  counters : String → Option Counter
  hits : List Hit

/-- How TTL rounds the time that is left to seconds. -/
structure TtlReply where
  seconds : Int → Int
  nonneg : ∀ left, 0 < left → 0 ≤ seconds left
  near : ∀ left, 0 < left → left < 1000 * (seconds left + 1)

/-- What a call knows of a counter when it decides: what it counted, and since when and over how
many settings of the time to live its answer holds. -/
structure Reading where
  hit : Hit
  since : Int
  renewals : Nat

namespace Counters

/-- A counter is gone when its time to live is over. -/
def live (redis : Counters) (key : String) : Option Counter :=
  (redis.counters key).filter fun counter => counter.deadline.all (redis.now < ·)

def hitsOf (redis : Counters) (key : String) : List Hit := redis.hits.filter (·.key = key)

/-- INCR and TTL in one transaction. -/
def incrTtl (ttl : TtlReply) (caller : Nat) (key : String) (redis : Counters) :
    (Nat × Int × Reading) × Counters :=
  let counter := match redis.live key with
    | none => ⟨1, none, redis.now, none, []⟩
    | some counter => { counter with value := counter.value + 1 }
  let hit := ⟨caller, key, redis.now, counter.value⟩
  let left := match counter.deadline with
    | none => -1
    | some deadline => ttl.seconds (deadline - redis.now)
  ((counter.value, left, ⟨hit, redis.now, counter.renewals.length⟩),
    { redis with
      counters := Function.update redis.counters key (some counter)
      hits := hit :: redis.hits })

/-- EXPIRE of a counter that is gone does nothing. -/
def expire (key : String) (windowSeconds : Nat) (reading : Reading) (redis : Counters) :
    Reading × Counters :=
  match redis.live key with
  | none => ({ reading with since := redis.now, renewals := 0 }, redis)
  | some counter =>
      let counter := { counter with
        deadline := some (redis.now + 1000 * windowSeconds)
        timed := some (counter.timed.getD redis.now)
        renewals := reading.hit.time :: counter.renewals }
      ({ reading with since := redis.now, renewals := counter.renewals.length },
        { redis with counters := Function.update redis.counters key (some counter) })

def elapse (duration : Nat) (redis : Counters) : Counters :=
  { redis with now := redis.now + duration }

end Counters

/-- Whether a command is carried out, and whether its reply arrives. -/
inductive Connection where
  | up
  | unsent
  | unheard

/-- The connection of a call at its two commands. -/
structure Link where
  pipeline : Connection
  expire : Connection

section Check

variable {Answer : Type}

/-- One command; none where the client raises. -/
def command (connection : Connection) (operation : Counters → Answer × Counters) :
    Task Counters (Option Answer) :=
  match connection with
  | .up => do return some (← Task.operate operation)
  | .unsent => return none
  | .unheard => do
      let _ ← Task.operate operation
      return none

/-- What a call decides on its count and the time to live. -/
def verdict (limit count : Nat) (ttl : Int) : Result Unit :=
  if count > limit then
    raise .rateLimited "Too many attempts; slow down and retry shortly"
      [("retry_after_seconds", .int (max ttl 1)), ("limit", .int limit)]
  else .ok ()

/-- `_check_redis`; none where a command raises. -/
def checkRedis (ttl : TtlReply) (link : Link) (caller : Nat) (key : String)
    (limit windowSeconds : Nat) : Task Counters (Option (Result Unit × Reading)) := do
  let full := "rl:" ++ key
  match ← command link.pipeline (Counters.incrTtl ttl caller full) with
  | none => return none
  | some (count, left, reading) =>
      if left = -1 then
        match ← command link.expire (Counters.expire full windowSeconds reading) with
        | none => return none
        | some reading => return some (verdict limit count windowSeconds, reading)
      else return some (verdict limit count left, reading)

end Check

/-! What every command keeps. -/

/-- The window of a key in milliseconds. -/
def span (window : String → Nat) (key : String) : Int := 1000 * window key

/-- A counter and the hits of its key. -/
structure Stands (width : Int) (hits : List Hit) (counter : Counter) : Prop where
  counted : Windows.Counted Hit.time Hit.number width hits counter.began counter.value
  lasts : ∀ deadline ∈ counter.deadline, counter.began + width ≤ deadline
  timed : counter.deadline.isSome = counter.timed.isSome
  setters : ∀ time ∈ counter.renewals, ∃ first ∈ counter.timed, time ≤ first

structure Regular (window : String → Nat) (redis : Counters) : Prop where
  past : ∀ hit ∈ redis.hits, hit.time ≤ redis.now
  timely : ∀ key, ∀ counter ∈ redis.counters key, ∀ first ∈ counter.timed, first ≤ redis.now
  unused : ∀ key, redis.counters key = none → redis.hitsOf key = []
  stands : ∀ key, ∀ counter ∈ redis.counters key,
    Stands (span window key) (redis.hitsOf key) counter

/-- What may become of a counter of a given moment: its time to live is set, at most, or it ends
and another begins. -/
inductive Becomes (width now : Int) (counter next : Counter) : Prop
  | same (began : next.began = counter.began) (renewed : counter.renewals <:+ next.renewals)
      (unset : next.renewals = counter.renewals → next.deadline = counter.deadline)
      (timed : ∀ first ∈ counter.timed, first ∈ next.timed)
      (later : ∀ deadline ∈ next.deadline, deadline ∈ counter.deadline ∨ now + width ≤ deadline)
      (fresh : ∀ first ∈ next.timed, first ∈ counter.timed ∨ now ≤ first)
  | another (after : counter.began ≤ next.began) (deadline : Int)
      (due : deadline ∈ counter.deadline ∨ now + width ≤ deadline)
      (elapsed : deadline ≤ next.began)
      (fresh : ∀ first ∈ next.timed, now ≤ first)

structure Grows (window : String → Nat) (before after : Counters) : Prop where
  now : before.now ≤ after.now
  hits : before.hits <:+ after.hits
  becomes : ∀ key, ∀ counter ∈ before.counters key, ∃ next ∈ after.counters key,
    Becomes (span window key) before.now counter next

section Becomes

variable {width now : Int} {counter next last : Counter}

theorem Becomes.refl : Becomes width now counter counter :=
  .same rfl (List.suffix_refl _) (fun _ => rfl) (fun _ here => here) (fun _ here => .inl here)
    fun _ here => .inl here

theorem Becomes.began_le (becomes : Becomes width now counter next) :
    counter.began ≤ next.began := by
  cases becomes with
  | same began => exact began.ge
  | another after => exact after

theorem Becomes.fresh (becomes : Becomes width now counter next) :
    ∀ first ∈ next.timed, first ∈ counter.timed ∨ now ≤ first := by
  cases becomes with
  | same began renewed unset timed later fresh => exact fresh
  | another after deadline due elapsed fresh => exact fun first here => .inr (fresh first here)

theorem Becomes.trans {middle : Int} (passed : now ≤ middle)
    (first : Becomes width now counter next) (second : Becomes width middle next last) :
    Becomes width now counter last := by
  have fresh : ∀ time ∈ last.timed, time ∈ next.timed ∨ now ≤ time :=
    fun time here => (second.fresh time here).imp_right passed.trans
  cases first with
  | another after deadline due elapsed started =>
      refine .another (after.trans second.began_le) deadline due (elapsed.trans second.began_le) ?_
      intro time here
      exact (fresh time here).elim (started time) id
  | same began renewed unset timed later started =>
      have sooner : ∀ deadline, deadline ∈ next.deadline ∨ middle + width ≤ deadline →
          deadline ∈ counter.deadline ∨ now + width ≤ deadline := by
        rintro deadline (here | far)
        · exact later deadline here
        · exact .inr (by omega)
      cases second with
      | another after deadline due elapsed again =>
          refine .another (began ▸ after) deadline (sooner deadline due) elapsed ?_
          exact fun time here => passed.trans (again time here)
      | same began' renewed' unset' timed' later' =>
          refine .same (began'.trans began) (renewed.trans renewed') ?_
            (fun time here => timed' time (timed time here))
            (fun deadline here => sooner deadline (later' deadline here)) ?_
          · -- Two lists that are suffixes of one another in turn are the same.
            intro same
            have between : counter.renewals = next.renewals :=
              renewed.eq_of_length_le (same ▸ renewed'.length_le)
            exact (unset' (same.trans between)).trans (unset between.symm)
          · exact fun time here => (fresh time here).elim (started time) .inr

end Becomes

section Grows

variable {window : String → Nat} {before after last redis : Counters} {key : String}

theorem Grows.refl (redis : Counters) : Grows window redis redis :=
  ⟨le_refl _, List.suffix_refl _, fun _ counter here => ⟨counter, here, .refl⟩⟩

theorem Grows.trans (first : Grows window before after) (second : Grows window after last) :
    Grows window before last where
  now := first.now.trans second.now
  hits := first.hits.trans second.hits
  becomes key counter here := by
    obtain ⟨next, there, becomes⟩ := first.becomes key counter here
    obtain ⟨end_, found, later⟩ := second.becomes key next there
    exact ⟨end_, found, becomes.trans first.now later⟩

def discipline (window : String → Nat) : Tasks.Discipline Counters where
  valid := Regular window
  grows := Grows window
  refl := Grows.refl
  trans := Grows.trans

namespace Counters

/-- A counter is there and alive, or due, or has never been. -/
theorem live_cases (redis : Counters) (key : String) :
    (redis.counters key = none ∧ redis.live key = none) ∨
      (∃ counter, redis.counters key = some counter ∧ redis.live key = some counter ∧
        ∀ deadline ∈ counter.deadline, redis.now < deadline) ∨
      ∃ counter deadline, redis.counters key = some counter ∧ counter.deadline = some deadline ∧
        deadline ≤ redis.now ∧ redis.live key = none := by
  cases found : redis.counters key with
  | none => exact .inl ⟨rfl, by rw [live, found]; rfl⟩
  | some counter =>
      cases due : counter.deadline with
      | none =>
          refine .inr (.inl ⟨counter, rfl, by simp [live, found, due], ?_⟩)
          intro deadline here
          cases due ▸ here
      | some deadline =>
          by_cases elapsed : deadline ≤ redis.now
          · refine .inr (.inr ⟨counter, deadline, rfl, due, elapsed, ?_⟩)
            simp [live, found, due, elapsed]
          · refine .inr (.inl ⟨counter, rfl, by simp [live, found, due]; omega, ?_⟩)
            intro other here
            rw [due] at here
            cases here
            omega

theorem live_eq_some {counter : Counter} (here : redis.live key = some counter) :
    redis.counters key = some counter ∧ ∀ deadline ∈ counter.deadline, redis.now < deadline := by
  obtain ⟨-, gone⟩ | ⟨found, there, alive, early⟩ | ⟨found, deadline, -, -, -, gone⟩ :=
    redis.live_cases key
  · cases gone ▸ here
  · cases alive ▸ here
    exact ⟨there, early⟩
  · cases gone ▸ here

end Counters

/-- A command that leaves one counter and some hits of its key in a good state. -/
theorem later_of_update (regular : Regular window redis) {counter : Counter} {hits : List Hit}
    (grown : redis.hits <:+ hits) (past : ∀ hit ∈ hits, hit.time ≤ redis.now)
    (elsewhere : ∀ other, other ≠ key → hits.filter (·.key = other) = redis.hitsOf other)
    (timely : ∀ first ∈ counter.timed, first ≤ redis.now)
    (stands : Stands (span window key) (hits.filter (·.key = key)) counter)
    (becomes : ∀ old ∈ redis.counters key, Becomes (span window key) redis.now old counter) :
    (discipline window).Later redis
      { redis with counters := Function.update redis.counters key (some counter), hits } where
  valid := by
    refine ⟨past, ?_, ?_, ?_⟩
    · intro other held here first set
      dsimp only at here ⊢
      by_cases own : other = key
      · subst own
        rw [Function.update_self] at here
        cases here
        exact timely first set
      · rw [Function.update_of_ne own] at here
        exact regular.timely other held here first set
    · intro other vacant
      dsimp only [Counters.hitsOf] at vacant ⊢
      by_cases own : other = key
      · subst own
        rw [Function.update_self] at vacant
        cases vacant
      · rw [Function.update_of_ne own] at vacant
        rw [elsewhere other own]
        exact regular.unused other vacant
    · intro other held here
      dsimp only [Counters.hitsOf] at here ⊢
      by_cases own : other = key
      · subst own
        rw [Function.update_self] at here
        cases here
        exact stands
      · rw [Function.update_of_ne own] at here
        rw [elsewhere other own]
        exact regular.stands other held here
  grows := by
    refine ⟨le_refl _, grown, ?_⟩
    intro other old here
    dsimp only
    by_cases own : other = key
    · subst own
      rw [Function.update_self]
      exact ⟨counter, rfl, becomes old here⟩
    · rw [Function.update_of_ne own]
      exact ⟨old, here, .refl⟩

theorem incrTtl_later (regular : Regular window redis) (ttl : TtlReply) (caller : Nat)
    (key : String) :
    (discipline window).Later redis (redis.incrTtl ttl caller key).2 := by
  have earlier : ∀ hit ∈ redis.hitsOf key, hit.time ≤ redis.now :=
    fun hit member => regular.past hit (List.mem_of_mem_filter member)
  have past (number : Nat) :
      ∀ hit ∈ (⟨caller, key, redis.now, number⟩ :: redis.hits : List Hit),
        hit.time ≤ redis.now :=
    List.forall_mem_cons.mpr ⟨le_refl _, regular.past⟩
  have elsewhere (number : Nat) (other : String) (apart : other ≠ key) :
      (⟨caller, key, redis.now, number⟩ :: redis.hits : List Hit).filter (·.key = other) =
        redis.hitsOf other :=
    List.filter_cons_of_neg (by simpa using Ne.symm apart)
  have own (number : Nat) :
      (⟨caller, key, redis.now, number⟩ :: redis.hits : List Hit).filter (·.key = key) =
        ⟨caller, key, redis.now, number⟩ :: redis.hitsOf key :=
    List.filter_cons_of_pos (by simp)
  obtain ⟨vacant, gone⟩ | ⟨counter, here, alive, early⟩ |
    ⟨counter, deadline, here, due, elapsed, gone⟩ := redis.live_cases key
  · rw [Counters.incrTtl, gone]
    refine later_of_update regular (List.suffix_cons _ _) (past 1) (elsewhere 1) nofun ?_ ?_
    · rw [own, regular.unused key vacant]
      exact ⟨.first rfl, nofun, rfl, nofun⟩
    · intro old there
      cases vacant ▸ there
  · have stands := regular.stands key counter here
    rw [Counters.incrTtl, alive]
    refine later_of_update regular (List.suffix_cons _ _) (past _) (elsewhere _)
      (regular.timely key counter here) ?_ ?_
    · rw [own]
      exact ⟨.next stands.counted earlier rfl, stands.lasts, stands.timed, stands.setters⟩
    · intro old there
      cases here.symm.trans there
      exact .same rfl (List.suffix_refl _) (fun _ => rfl) (fun _ set => set)
        (fun _ set => .inl set) fun _ set => .inl set
  · have stands := regular.stands key counter here
    rw [Counters.incrTtl, gone]
    refine later_of_update regular (List.suffix_cons _ _) (past 1) (elsewhere 1) nofun ?_ ?_
    · rw [own]
      have spaced := (stands.lasts deadline due).trans elapsed
      exact ⟨.anew stands.counted earlier rfl spaced, nofun, rfl, nofun⟩
    · intro old there
      cases here.symm.trans there
      refine .another ?_ deadline (.inl due) elapsed nofun
      obtain ⟨first, member, same⟩ := stands.counted.begun
      exact same ▸ earlier first member

theorem Regular.timed_le (regular : Regular window redis) {counter : Counter}
    (here : redis.counters key = some counter) : counter.timed.getD redis.now ≤ redis.now := by
  cases set : counter.timed with
  | none => exact le_refl _
  | some first => exact regular.timely key counter here first set

/-- EXPIRE by a call that counted before the time to live was first set. -/
theorem expire_later (regular : Regular window redis) (reading : Reading)
    (counted : reading.hit.time ≤ redis.now)
    (unset : ∀ counter ∈ redis.counters key, ∀ first ∈ counter.timed, reading.hit.time ≤ first) :
    (discipline window).Later redis (redis.expire key (window key) reading).2 := by
  cases alive : redis.live key with
  | none =>
      rw [Counters.expire, alive]
      exact .refl regular
  | some counter =>
      obtain ⟨here, early⟩ := Counters.live_eq_some alive
      have stands := regular.stands key counter here
      have first_le := regular.timed_le here
      have lasts : counter.began ≤ redis.now := by
        obtain ⟨first, member, same⟩ := stands.counted.begun
        exact same ▸ regular.past first (List.mem_of_mem_filter member)
      rw [Counters.expire, alive]
      refine later_of_update regular (List.suffix_refl _) regular.past (fun _ _ => rfl) ?_ ?_ ?_
      · rintro first ⟨⟩
        exact first_le
      · refine ⟨stands.counted, ?_, rfl, ?_⟩
        · rintro deadline ⟨⟩
          exact add_le_add_left lasts _
        · intro time member
          refine ⟨_, rfl, ?_⟩
          rcases List.mem_cons.mp member with rfl | old
          · cases set : counter.timed with
            | none => exact counted
            | some first => exact unset counter here first set
          · obtain ⟨first, set, before⟩ := stands.setters time old
            rw [Option.mem_def.mp set]
            exact before
      · intro old there
        cases here.symm.trans there
        refine .same rfl (List.suffix_cons _ _) ?_ ?_ ?_ ?_
        · intro same
          exact absurd (congrArg List.length same) (Nat.succ_ne_self _)
        · intro first set
          rw [Option.mem_def.mp set]
          rfl
        · rintro deadline ⟨⟩
          exact .inr (le_refl _)
        · rintro first ⟨⟩
          cases set : counter.timed with
          | none => exact .inr (le_refl _)
          | some first => exact .inl rfl

theorem elapse_later (regular : Regular window redis) (duration : Nat) :
    (discipline window).Later redis (redis.elapse duration) where
  valid := by
    have later : redis.now ≤ redis.now + duration := by omega
    exact ⟨fun hit member => (regular.past hit member).trans later,
      fun key counter here first set => (regular.timely key counter here first set).trans later,
      regular.unused, regular.stands⟩
  grows := ⟨Int.le_add_of_nonneg_right (Int.natCast_nonneg duration), List.suffix_refl _,
    fun _ counter here => ⟨counter, here, .refl⟩⟩

end Grows

/-! What a call knows of the counter it has counted in, and what stays so. -/

section Knowledge

variable {window : String → Nat} {redis after : Counters} {width now : Int}
  {counter next : Counter} {hit : Hit} {reading : Reading} {until_ : Int}

/-- If the counter is no later one than the call's, it was there when the call counted. -/
def Standing (hit : Hit) (counter : Counter) : Prop :=
  counter.began ≤ hit.time → ∀ deadline ∈ counter.deadline, hit.time < deadline

/-- Its time to live was not set before the call counted. -/
def Unset (hit : Hit) (counter : Counter) : Prop := ∀ first ∈ counter.timed, hit.time ≤ first

/-- If the counter is no later one than the call's, its time to live is set, and it ends before
the given moment unless that is done again. -/
structure Ending (reading : Reading) (until_ : Int) (counter : Counter) : Prop where
  standing : Standing reading.hit counter
  renewed : counter.began ≤ reading.hit.time → reading.renewals ≤ counter.renewals.length
  due : counter.began ≤ reading.hit.time → counter.renewals.length = reading.renewals →
    ∃ deadline ∈ counter.deadline, deadline < until_
  timed : counter.began ≤ reading.hit.time → ∃ first ∈ counter.timed, first ≤ reading.since

/-- A counter that follows one which stands is that one still, or a later one. -/
theorem Standing.same_of_began (standing : Standing hit counter) (counted : hit.time ≤ now)
    (positive : 0 < width) (becomes : Becomes width now counter next)
    (early : next.began ≤ hit.time) :
    counter.renewals <:+ next.renewals ∧
      (next.renewals = counter.renewals → next.deadline = counter.deadline) ∧
      (∀ first ∈ counter.timed, first ∈ next.timed) ∧
      ∀ deadline ∈ next.deadline, deadline ∈ counter.deadline ∨ now + width ≤ deadline := by
  cases becomes with
  | same began renewed unset timed later fresh => exact ⟨renewed, unset, timed, later⟩
  | another after deadline due elapsed fresh =>
      rcases due with here | far
      · have := standing (after.trans early) deadline here
        omega
      · omega

theorem Standing.becomes (standing : Standing hit counter) (counted : hit.time ≤ now)
    (positive : 0 < width) (becomes : Becomes width now counter next) : Standing hit next := by
  intro early deadline here
  obtain ⟨-, -, -, later⟩ := standing.same_of_began counted positive becomes early
  rcases later deadline here with old | far
  · exact standing (becomes.began_le.trans early) deadline old
  · omega

theorem Unset.becomes (unset : Unset hit counter) (counted : hit.time ≤ now)
    (becomes : Becomes width now counter next) : Unset hit next := by
  intro first set
  exact (becomes.fresh first set).elim (unset first) counted.trans

theorem Ending.becomes (ending : Ending reading until_ counter) (counted : reading.hit.time ≤ now)
    (positive : 0 < width) (becomes : Becomes width now counter next) :
    Ending reading until_ next where
  standing := ending.standing.becomes counted positive becomes
  renewed early := by
    obtain ⟨renewed, -⟩ := ending.standing.same_of_began counted positive becomes early
    exact (ending.renewed (becomes.began_le.trans early)).trans renewed.length_le
  due early same := by
    obtain ⟨renewed, unset, -⟩ := ending.standing.same_of_began counted positive becomes early
    have before := ending.renewed (becomes.began_le.trans early)
    have equal : counter.renewals = next.renewals := renewed.eq_of_length_le (by omega)
    rw [unset equal.symm]
    exact ending.due (becomes.began_le.trans early) (equal ▸ same)
  timed early := by
    obtain ⟨-, -, timed, -⟩ := ending.standing.same_of_began counted positive becomes early
    obtain ⟨first, set, before⟩ := ending.timed (becomes.began_le.trans early)
    exact ⟨first, timed first set, before⟩

theorem Ending.mono {later : Int} (ending : Ending reading until_ counter)
    (passed : until_ ≤ later) : Ending reading later counter where
  standing := ending.standing
  renewed := ending.renewed
  due early same :=
    (ending.due early same).imp fun _ here => ⟨here.1, here.2.trans_le passed⟩
  timed := ending.timed

/-- The hit is on record, and the counter of its key is as told. -/
structure Noted (hit : Hit) (told : Counter → Prop) (redis : Counters) : Prop where
  recorded : hit ∈ redis.hits
  told : ∃ counter ∈ redis.counters hit.key, told counter

theorem Noted.later {told : Counter → Prop}
    (kept : ∀ {now : Int} {counter next : Counter}, hit.time ≤ now → told counter →
      Becomes (span window hit.key) now counter next → told next)
    (regular : Regular window redis) (record : Noted hit told redis)
    (later : (discipline window).Later redis after) : Noted hit told after where
  recorded := later.grows.hits.subset record.recorded
  told := by
    obtain ⟨counter, here, holds⟩ := record.told
    obtain ⟨next, there, becomes⟩ := later.grows.becomes hit.key counter here
    exact ⟨next, there, kept (regular.past hit record.recorded) holds becomes⟩

/-- What INCR and TTL tell a call. -/
structure Counting (key : String) (caller : Nat) (answer : Nat × Int × Reading) (redis : Counters) :
    Prop where
  caller : answer.2.2.hit.caller = caller
  key : answer.2.2.hit.key = key
  number : answer.2.2.hit.number = answer.1
  unset : answer.2.1 = -1 → Noted answer.2.2.hit
    (fun counter => Standing answer.2.2.hit counter ∧ Unset answer.2.2.hit counter) redis
  ending : answer.2.1 ≠ -1 → Noted answer.2.2.hit
    (Ending answer.2.2 (answer.2.2.since + 1000 * (answer.2.1 + 1))) redis

theorem Noted.ending_later (positive : 0 < window reading.hit.key)
    (regular : Regular window redis) (record : Noted reading.hit (Ending reading until_) redis)
    (later : (discipline window).Later redis after) :
    Noted reading.hit (Ending reading until_) after := by
  have wide : 0 < span window reading.hit.key := by
    rw [span]
    omega
  refine record.later ?_ regular later
  exact fun counted ending becomes => ending.becomes counted wide becomes

variable {ttl : TtlReply} {caller : Nat} {key : String}

theorem Counting.later {answer : Nat × Int × Reading} (positive : 0 < window key)
    (regular : Regular window redis) (counting : Counting key caller answer redis)
    (later : (discipline window).Later redis after) : Counting key caller answer after where
  caller := counting.caller
  key := counting.key
  number := counting.number
  unset found := by
    refine (counting.unset found).later ?_ regular later
    intro now counter next counted told becomes
    have wide : 0 < span window answer.2.2.hit.key := by
      rw [counting.key, span]
      omega
    exact ⟨told.1.becomes counted wide becomes, told.2.becomes counted becomes⟩
  ending found :=
    (counting.ending found).ending_later (counting.key ▸ positive) regular later

theorem counting_incrTtl (regular : Regular window redis) :
    Counting key caller (redis.incrTtl ttl caller key).1 (redis.incrTtl ttl caller key).2 := by
  obtain ⟨vacant, gone⟩ | ⟨counter, here, alive, early⟩ |
    ⟨counter, deadline, here, due, elapsed, gone⟩ := redis.live_cases key
  · rw [Counters.incrTtl, gone]
    exact ⟨rfl, rfl, rfl,
      fun _ => ⟨List.mem_cons_self, _, Function.update_self .., fun _ => nofun, nofun⟩,
      fun set => absurd rfl set⟩
  · have stands := regular.stands key counter here
    rw [Counters.incrTtl, alive]
    dsimp only
    cases set : counter.deadline with
    | none =>
        have unset : counter.timed = none := by
          rw [← Option.not_isSome_iff_eq_none, ← stands.timed, set]
          exact Bool.false_ne_true
        refine ⟨rfl, rfl, rfl, fun _ => ⟨List.mem_cons_self, _, Function.update_self .., ?_, ?_⟩,
          fun set => absurd rfl set⟩
        · exact fun _ => nofun
        · intro first member
          rw [unset] at member
          cases member
    | some deadline =>
        have ahead := early deadline set
        rw [set] at early
        have whole := ttl.nonneg (deadline - redis.now) (by omega)
        have near := ttl.near (deadline - redis.now) (by omega)
        obtain ⟨first, timed⟩ : ∃ first, counter.timed = some first := by
          rw [← Option.isSome_iff_exists, ← stands.timed, set]
          rfl
        refine ⟨rfl, rfl, rfl, fun unset => ?_, fun _ =>
          ⟨List.mem_cons_self, _, Function.update_self .., ?_⟩⟩
        · dsimp only at unset
          omega
        · refine ⟨fun _ => early, fun _ => le_refl _, fun _ _ => ⟨deadline, rfl, ?_⟩,
            fun _ => ⟨first, timed, regular.timely key counter here first timed⟩⟩
          dsimp only
          omega
  · rw [Counters.incrTtl, gone]
    exact ⟨rfl, rfl, rfl,
      fun _ => ⟨List.mem_cons_self, _, Function.update_self .., fun _ => nofun, nofun⟩,
      fun set => absurd rfl set⟩

theorem ending_expire (regular : Regular window redis) (key_eq : reading.hit.key = key)
    (positive : 0 < window key)
    (record : Noted reading.hit
      (fun counter => Standing reading.hit counter ∧ Unset reading.hit counter) redis) :
    (redis.expire key (window key) reading).1.hit = reading.hit ∧
      Noted reading.hit
        (Ending (redis.expire key (window key) reading).1
          ((redis.expire key (window key) reading).1.since + 1000 * (window key + 1)))
        (redis.expire key (window key) reading).2 := by
  subst key_eq
  obtain ⟨counter, here, standing, unset⟩ := record.told
  have counted := regular.past reading.hit record.recorded
  cases alive : redis.live reading.hit.key with
  | none =>
      rw [Counters.expire, alive]
      obtain ⟨vacant, -⟩ | ⟨other, -, there, -⟩ | ⟨other, deadline, there, due, elapsed, -⟩ :=
        redis.live_cases reading.hit.key
      · cases vacant ▸ here
      · cases alive ▸ there
      · cases here.symm.trans there
        obtain ⟨first, timed⟩ : ∃ first, counter.timed = some first := by
          rw [← Option.isSome_iff_exists, ← (regular.stands _ counter here).timed, due]
          rfl
        refine ⟨rfl, record.recorded, counter, here, standing, fun _ => Nat.zero_le _,
          fun _ _ => ⟨deadline, due, ?_⟩,
          fun _ => ⟨first, timed, regular.timely _ counter here first timed⟩⟩
        dsimp only
        omega
  | some other =>
      obtain ⟨there, early⟩ := Counters.live_eq_some alive
      cases here.symm.trans there
      rw [Counters.expire, alive]
      refine ⟨rfl, record.recorded, _, Function.update_self .., ?_, fun _ => le_refl _,
        fun _ _ => ⟨_, rfl, ?_⟩, fun _ => ⟨_, rfl, regular.timed_le here⟩⟩
      · rintro - deadline ⟨⟩
        dsimp only
        omega
      · dsimp only
        omega

end Knowledge

section Safe

variable {window : String → Nat} {redis : Counters} {ttl : TtlReply} {caller : Nat} {key : String}
  {limit count : Nat} {left : Int}

/-- An answer is as promised, and over a good connection there is one. -/
structure Heard {Answer : Type} (good : Prop) (promised : Answer → Counters → Prop)
    (answer : Option Answer) (redis : Counters) : Prop where
  told : ∀ value ∈ answer, promised value redis
  heard : good → answer.isSome

theorem safe_command {Answer : Type} {promised : Answer → Counters → Prop}
    {operation : Counters → Answer × Counters} (connection : Connection)
    (regular : Regular window redis)
    (stable : ∀ answer first last, Regular window first → promised answer first →
      (discipline window).Later first last → promised answer last)
    (safe : (discipline window).Safe promised (Task.operate operation) redis) :
    (discipline window).Safe (Heard (connection = .up) promised) (command connection operation)
      redis := by
  cases connection with
  | unsent => exact fun _ _ => ⟨nofun, nofun⟩
  | unheard =>
      exact Tasks.Discipline.Safe.bind (.refl regular) safe fun _ _ _ _ _ _ => ⟨nofun, nofun⟩
  | up =>
      refine Tasks.Discipline.Safe.bind (.refl regular) safe fun answer later passed told => ?_
      intro last after
      refine ⟨?_, fun _ => rfl⟩
      rintro other ⟨⟩
      exact stable answer later last passed.valid told after

theorem verdict_isOk : (verdict limit count left).isOk = true ↔ count ≤ limit := by
  rw [verdict]
  split
  · next beyond => exact iff_of_false Bool.false_ne_true (by omega)
  · next fits => exact iff_of_true rfl (by omega)

theorem verdict_refused (refused : (verdict limit count left).isOk = false) :
    retryAfter (verdict limit count left) = some (max left 1) := by
  rw [verdict] at refused ⊢
  split
  · rfl
  · next fits =>
      rw [if_neg fits] at refused
      cases refused

theorem retryAfter_verdict {seconds : Int}
    (told : retryAfter (verdict limit count left) = some seconds) : seconds = max left 1 := by
  rw [verdict] at told
  split at told
  · cases told
    rfl
  · cases told

/-- What the result of a check and its reading say. -/
structure Answered (caller : Nat) (key : String) (limit : Nat) (answer : Result Unit × Reading)
    (redis : Counters) : Prop where
  caller : answer.2.hit.caller = caller
  key : answer.2.hit.key = key
  recorded : answer.2.hit ∈ redis.hits
  passed : answer.1.isOk = true → answer.2.hit.number ≤ limit
  refused : answer.1.isOk = false → (retryAfter answer.1).isSome
  ending : ∀ seconds, retryAfter answer.1 = some seconds →
    Noted answer.2.hit (Ending answer.2 (answer.2.since + 1000 * (seconds + 1))) redis

theorem Answered.later {answer : Result Unit × Reading} {after : Counters}
    (positive : 0 < window key) (regular : Regular window redis)
    (answered : Answered caller key limit answer redis)
    (later : (discipline window).Later redis after) : Answered caller key limit answer after where
  caller := answered.caller
  key := answered.key
  recorded := later.grows.hits.subset answered.recorded
  passed := answered.passed
  refused := answered.refused
  ending seconds told :=
    (answered.ending seconds told).ending_later (answered.key ▸ positive) regular later

/-- A verdict on a reading whose counter ends no later than the caller is told. -/
theorem answered_verdict {reading : Reading} (caller_eq : reading.hit.caller = caller)
    (key_eq : reading.hit.key = key) (number : reading.hit.number = count)
    (record : Noted reading.hit (Ending reading (reading.since + 1000 * (left + 1))) redis) :
    Answered caller key limit (verdict limit count left, reading) redis where
  caller := caller_eq
  key := key_eq
  recorded := record.recorded
  passed ok := number.le.trans (verdict_isOk.mp ok)
  refused not_ok := by
    rw [verdict_refused not_ok]
    rfl
  ending seconds told := by
    obtain ⟨counter, here, ending⟩ := record.told
    refine ⟨record.recorded, counter, here, ending.mono ?_⟩
    have waits := retryAfter_verdict told
    dsimp only
    omega

theorem safe_incrTtl (positive : 0 < window key) :
    (discipline window).Safe (Counting key caller) (Task.operate (Counters.incrTtl ttl caller key))
      redis := by
  apply Tasks.Discipline.Safe.operate
  · intro later passed
    exact incrTtl_later passed.valid ttl caller key
  · intro later last passed after
    have done := incrTtl_later passed.valid ttl caller key
    exact (counting_incrTtl passed.valid).later positive done.valid after

/-- A call that found no time to live sets it. -/
theorem safe_expire {answer : Nat × Int × Reading} (positive : 0 < window key)
    (regular : Regular window redis) (counting : Counting key caller answer redis)
    (unset : answer.2.1 = -1) :
    (discipline window).Safe
      (fun reading later => Answered caller key limit
        (verdict limit answer.1 (window key), reading) later)
      (Task.operate (Counters.expire key (window key) answer.2.2)) redis := by
  have facts {later : Counters} (passed : (discipline window).Later redis later) :
      Noted answer.2.2.hit
        (fun counter => Standing answer.2.2.hit counter ∧ Unset answer.2.2.hit counter) later :=
    (counting.later positive regular passed).unset unset
  have expired {later : Counters} (passed : (discipline window).Later redis later) :
      (discipline window).Later later (later.expire key (window key) answer.2.2).2 := by
    have record := facts passed
    refine expire_later passed.valid _ (passed.valid.past _ record.recorded) ?_
    intro counter here
    obtain ⟨other, there, -, early⟩ := record.told
    rw [counting.key] at there
    cases here.symm.trans there
    exact early
  apply Tasks.Discipline.Safe.operate
  · exact fun later passed => expired passed
  · intro later last passed after
    obtain ⟨same, record⟩ := ending_expire passed.valid counting.key positive (facts passed)
    refine Answered.later positive (expired passed).valid ?_ after
    exact answered_verdict (same ▸ counting.caller) (same ▸ counting.key) (same ▸ counting.number)
      (by rw [same]; exact record)

theorem safe_checkRedis (link : Link) (positive : 0 < window ("rl:" ++ key))
    (regular : Regular window redis) :
    (discipline window).Safe (Heard (link = ⟨.up, .up⟩) (Answered caller ("rl:" ++ key) limit))
      (checkRedis ttl link caller key limit (window ("rl:" ++ key))) redis := by
  have counts : (discipline window).Safe
      (Heard (link.pipeline = .up) (Counting ("rl:" ++ key) caller))
      (command link.pipeline (Counters.incrTtl ttl caller ("rl:" ++ key))) redis := by
    refine safe_command link.pipeline regular ?_ (safe_incrTtl positive)
    exact fun answer first last valid counting later => counting.later positive valid later
  refine Tasks.Discipline.Safe.bind (.refl regular) counts fun answer later passed counted => ?_
  cases answer with
  | none =>
      refine fun _ _ => ⟨nofun, ?_⟩
      rintro rfl
      exact counted.heard rfl
  | some answer =>
      have counting := counted.told answer rfl
      obtain ⟨count, left, reading⟩ := answer
      dsimp only
      split
      · next unset =>
          have sets : (discipline window).Safe
              (Heard (link.expire = .up) fun reading => Answered caller ("rl:" ++ key) limit
                (verdict limit count (window ("rl:" ++ key)), reading))
              (command link.expire
                (Counters.expire ("rl:" ++ key) (window ("rl:" ++ key)) reading)) later := by
            refine safe_command link.expire passed.valid ?_
              (safe_expire positive passed.valid counting unset)
            exact fun answer first last valid answered later => answered.later positive valid later
          refine Tasks.Discipline.Safe.bind (.refl passed.valid) sets
            fun answer next after read => ?_
          cases answer with
          | none =>
              refine fun _ _ => ⟨nofun, ?_⟩
              rintro rfl
              exact read.heard rfl
          | some reading =>
              refine fun last ended => ⟨?_, fun _ => rfl⟩
              rintro other ⟨⟩
              exact (read.told reading rfl).later positive after.valid ended
      · next set =>
          have answered : Answered caller ("rl:" ++ key) limit (verdict limit count left, reading)
              later :=
            answered_verdict counting.caller counting.key counting.number (counting.ending set)
          refine fun last ended => ⟨?_, fun _ => rfl⟩
          rintro other ⟨⟩
          exact answered.later positive passed.valid ended

end Safe

section Bounds

variable {window : String → Nat} {redis : Counters}

/-- In an interval as long as the window, at most twice the limit of calls were among the first
of their counter. -/
theorem Regular.twice (regular : Regular window redis) (key : String) (limit : Nat)
    (opening : Int) :
    (redis.hitsOf key).countP
      (Windows.within Hit.time Hit.number limit opening (span window key)) ≤ 2 * limit := by
  cases here : redis.counters key with
  | none =>
      rw [regular.unused key here]
      exact Nat.zero_le _
  | some counter => exact (regular.stands key counter here).counted.twice limit opening

/-- After the time a refused call is told, the counter that refused it is gone, unless its time
to live was set again by calls that had counted before. -/
theorem Noted.ends {reading : Reading} {until_ : Int} (regular : Regular window redis)
    (record : Noted reading.hit (Ending reading until_) redis) (passed : until_ ≤ redis.now)
    {counter : Counter} (alive : redis.live reading.hit.key = some counter) :
    reading.hit.time < counter.began ∨
      reading.renewals < counter.renewals.length ∧
        ∀ time ∈ counter.renewals, time ≤ reading.since := by
  obtain ⟨here, early⟩ := Counters.live_eq_some alive
  obtain ⟨other, there, ending⟩ := record.told
  cases here.symm.trans there
  by_cases own : counter.began ≤ reading.hit.time
  · refine .inr ⟨?_, ?_⟩
    · refine lt_of_le_of_ne (ending.renewed own) fun same => ?_
      obtain ⟨deadline, due, before⟩ := ending.due own same.symm
      have := early deadline due
      omega
    · intro time member
      obtain ⟨first, set, before⟩ := (regular.stands _ counter here).setters time member
      obtain ⟨other, set', since⟩ := ending.timed own
      cases set.symm.trans set'
      exact before.trans since
  · exact .inl (by omega)

end Bounds

end SynapseSaas.RateLimiting
