import SynapseSaas.Core.Errors
import SynapseSaas.Foundation.Quotas
import Mathlib.Algebra.Order.Group.Int
import Mathlib.Order.Basic
import Mathlib.Tactic.Linarith

/-! The in-process rate limiter: a counter for each key, which the first call of a new
window starts afresh. -/

set_option autoImplicit false

namespace SynapseSaas.RateLimiting

open Quotas

/-- `_local` and `_local_windows`. -/
structure RateLimiter where
  counts : String → Option Nat
  windows : String → Option Int

namespace RateLimiter

def initial : RateLimiter := ⟨fun _ => none, fun _ => none⟩

/-- A counter of an earlier window is dropped. -/
def enter (limiter : RateLimiter) (key : String) (window : Int) : RateLimiter :=
  if limiter.windows key ≠ some window then
    { counts := Function.update limiter.counts key none
      windows := Function.update limiter.windows key (some window) }
  else limiter

/-- `_check_local` at the time `now`. -/
def checkLocal (limiter : RateLimiter) (key : String) (limit windowSeconds : Nat) (now : Int) :
    RateLimiter × Result Unit :=
  let limiter := limiter.enter key (now / windowSeconds)
  let count := (limiter.counts key).getD 0 + 1
  let limiter := { limiter with counts := Function.update limiter.counts key (some count) }
  if count > limit then
    let retryAfter := windowSeconds - now % windowSeconds
    (limiter, raise .rateLimited "Too many attempts; slow down and retry shortly"
      [("retry_after_seconds", .int (max retryAfter 1)), ("limit", .int limit)])
  else (limiter, .ok ())

end RateLimiter

/-- What the callers of a key pass with it. -/
structure Quota where
  limit : Nat
  windowSeconds : Nat
  positive : 1 ≤ windowSeconds

structure Call where
  key : String
  now : Int
  deriving DecidableEq

section

variable (quota : String → Quota)

def Call.window (call : Call) : Int := call.now / (quota call.key).windowSeconds

/-- The calls with their results. -/
def serve : RateLimiter → List Call → List (Call × Result Unit)
  | _, [] => []
  | limiter, call :: rest =>
    let answered := limiter.checkLocal call.key (quota call.key).limit
      (quota call.key).windowSeconds call.now
    (call, answered.2) :: serve answered.1 rest

/-- Every call with whether it went through. -/
def accepted (served : List (Call × Result Unit)) : List (Call × Bool) :=
  served.map fun entry => (entry.1, entry.2.isOk)

/-- The seconds a refused caller is told to wait. -/
def retryAfter : Result Unit → Option Int
  | .error (.domain error) =>
    match error.extras.lookup "retry_after_seconds" with
    | some (.int seconds) => some seconds
    | _ => none
  | _ => none

/-- In every window the accepted calls of a key are its first ones, up to the limit. -/
def FirstAccepted (calls : List Call) : Prop :=
  ∀ key window,
    ((accepted (serve quota .initial calls)).filter fun entry =>
        entry.1.key = key ∧ entry.1.window quota = window).map Prod.snd =
      firstServed (calls.countP fun call => call.key = key ∧ call.window quota = window)
        (quota key).limit

/-- A key is answered as if it were the only one. -/
def KeysApart (calls : List Call) : Prop :=
  ∀ key, (accepted (serve quota .initial calls)).filter (fun entry => entry.1.key = key) =
    accepted (serve quota .initial (calls.filter fun call => call.key = key))

/-- No interval as long as a window has more than twice the limit. -/
def TwiceAtMost (calls : List Call) : Prop :=
  ∀ key (start : Int), ((accepted (serve quota .initial calls)).countP fun entry =>
      entry.2 && decide (entry.1.key = key ∧ start ≤ entry.1.now ∧
        entry.1.now < start + (quota key).windowSeconds)) ≤ 2 * (quota key).limit

/-- Who waits as long as a refusal says comes in a later window. -/
def RetriesLater (calls : List Call) : Prop :=
  ∀ entry ∈ serve quota .initial calls, entry.2.isOk = false →
    ∃ seconds, retryAfter entry.2 = some seconds ∧ 1 ≤ seconds ∧
      ∀ later : Call, later.key = entry.1.key → entry.1.now + seconds ≤ later.now →
        entry.1.window quota < later.window quota

/-! The limiter against one counter for each key and window that is never reset. -/

/-- The counter of a key is the one of its window, and no window lies ahead. -/
structure Agrees (limiter : RateLimiter) (seen : String × Int → Nat) (time : Int) : Prop where
  counted : ∀ key window, time / (quota key).windowSeconds ≤ window →
    (if limiter.windows key = some window then (limiter.counts key).getD 0 else 0) =
      seen (key, window)
  reached : ∀ key window, limiter.windows key = some window →
    window ≤ time / (quota key).windowSeconds

def Call.slot (call : Call) : String × Int := (call.key, call.window quota)

def slotLimit (slot : String × Int) : Nat := (quota slot.1).limit

variable {quota} {limiter : RateLimiter} {seen : String × Int → Nat} {time : Int}

theorem Quota.seconds_pos (quota : Quota) : (0 : Int) < quota.windowSeconds := by
  have := quota.positive
  omega

theorem initial_agrees (time : Int) : Agrees quota .initial (fun _ => 0) time where
  counted _ _ _ := by rw [RateLimiter.initial, if_neg nofun]
  reached _ _ held := by cases held

namespace RateLimiter

theorem enter_counts (key : String) (window : Int) :
    ((limiter.enter key window).counts key).getD 0 =
      if limiter.windows key = some window then (limiter.counts key).getD 0 else 0 := by
  by_cases same : limiter.windows key = some window
  · rw [enter, if_neg (not_not_intro same), if_pos same]
  · rw [enter, if_pos same, if_neg same]
    simp

theorem enter_windows (key : String) (window : Int) :
    (limiter.enter key window).windows = Function.update limiter.windows key (some window) := by
  by_cases same : limiter.windows key = some window
  · rw [enter, if_neg (not_not_intro same), ← same, Function.update_eq_self]
  · rw [enter, if_pos same]

theorem enter_counts_of_ne {key other : String} (apart : other ≠ key) (window : Int) :
    (limiter.enter key window).counts other = limiter.counts other := by
  by_cases same : limiter.windows key = some window
  · rw [enter, if_neg (not_not_intro same)]
  · rw [enter, if_pos same]
    exact Function.update_of_ne apart _ _

/-- The limiter after a call, whatever its answer. -/
theorem checkLocal_state (key : String) (limit windowSeconds : Nat) (now : Int) :
    (limiter.checkLocal key limit windowSeconds now).1 =
      { limiter.enter key (now / windowSeconds) with
        counts := Function.update (limiter.enter key (now / windowSeconds)).counts key
          (some (((limiter.enter key (now / windowSeconds)).counts key).getD 0 + 1)) } := by
  rw [checkLocal]
  dsimp only
  split <;> rfl

theorem checkLocal_isOk (key : String) (limit windowSeconds : Nat) (now : Int) :
    (limiter.checkLocal key limit windowSeconds now).2.isOk =
      decide (((limiter.enter key (now / windowSeconds)).counts key).getD 0 < limit) := by
  rw [checkLocal]
  dsimp only
  split
  · next over_limit => exact (decide_eq_false (by omega)).symm
  · next fits => exact (decide_eq_true (by omega)).symm

theorem checkLocal_refused {key : String} {limit windowSeconds : Nat} {now : Int}
    (refused : (limiter.checkLocal key limit windowSeconds now).2.isOk = false) :
    retryAfter (limiter.checkLocal key limit windowSeconds now).2 =
      some (max (windowSeconds - now % windowSeconds) 1) := by
  rw [checkLocal] at refused ⊢
  dsimp only at refused ⊢
  split
  · rfl
  · next fits =>
      rw [if_neg fits] at refused
      cases refused

end RateLimiter

/-- The counter a call meets. -/
theorem Agrees.met (agrees : Agrees quota limiter seen time) {call : Call}
    (later : time ≤ call.now) :
    ((limiter.enter call.key (call.window quota)).counts call.key).getD 0 =
      seen (call.slot quota) := by
  rw [RateLimiter.enter_counts]
  apply agrees.counted
  exact Int.ediv_le_ediv (quota call.key).seconds_pos later

/-- A call keeps the agreement. -/
theorem Agrees.next (agrees : Agrees quota limiter seen time) {call : Call}
    (later : time ≤ call.now) :
    Agrees quota (limiter.checkLocal call.key (quota call.key).limit
      (quota call.key).windowSeconds call.now).1 (tally (Call.slot quota) seen call) call.now := by
  have met := agrees.met later
  rw [Call.window] at met
  rw [RateLimiter.checkLocal_state]
  refine ⟨?_, ?_⟩
  · intro key window ahead
    dsimp only
    rw [RateLimiter.enter_windows]
    by_cases own : key = call.key
    · subst own
      rw [Function.update_self, Function.update_self, tally]
      by_cases current : call.now / (quota call.key).windowSeconds = window
      · subst current
        have here : (call.key, call.now / ((quota call.key).windowSeconds : Int)) =
            call.slot quota := rfl
        rw [if_pos rfl, Option.getD_some, met, here, Function.update_self]
      · -- A window ahead of the call's has not been counted in yet.
        have before : time / (quota call.key).windowSeconds ≤
            call.now / (quota call.key).windowSeconds :=
          Int.ediv_le_ediv (quota call.key).seconds_pos later
        have unseen := agrees.counted call.key window (before.trans ahead)
        have untouched : limiter.windows call.key ≠ some window := by
          intro held
          have := agrees.reached call.key window held
          omega
        have elsewhere : (call.key, window) ≠ call.slot quota := by
          intro same
          exact current (congrArg Prod.snd same).symm
        rw [if_neg untouched] at unseen
        rw [if_neg (by simpa using current), Function.update_of_ne elsewhere, unseen]
    · have elsewhere : (key, window) ≠ call.slot quota := by
        intro same
        exact own (congrArg Prod.fst same)
      rw [Function.update_of_ne own, Function.update_of_ne own, RateLimiter.enter_counts_of_ne own,
        tally, Function.update_of_ne elsewhere]
      apply agrees.counted
      exact (Int.ediv_le_ediv (quota key).seconds_pos later).trans ahead
  · intro key window held
    dsimp only at held
    rw [RateLimiter.enter_windows] at held
    by_cases own : key = call.key
    · subst own
      rw [Function.update_self] at held
      exact (Option.some.inj held).ge
    · rw [Function.update_of_ne own] at held
      exact (agrees.reached key window held).trans
        (Int.ediv_le_ediv (quota key).seconds_pos later)

/-- The limiter answers as counters that are never reset do. -/
theorem Agrees.accepted_eq (agrees : Agrees quota limiter seen time) {calls : List Call}
    (later : ∀ call ∈ calls, time ≤ call.now)
    (ordered : calls.Pairwise fun first second => first.now ≤ second.now) :
    accepted (serve quota limiter calls) =
      admissions (Call.slot quota) (slotLimit quota) seen calls := by
  induction calls generalizing limiter seen time with
  | nil => rfl
  | cons call rest ih =>
      obtain ⟨first, ordered⟩ := List.pairwise_cons.mp ordered
      have here := later call List.mem_cons_self
      have rest_eq := ih (agrees.next here) first ordered
      rw [accepted] at rest_eq
      rw [accepted, serve, List.map_cons, rest_eq, admissions, RateLimiter.checkLocal_isOk]
      congr 3
      exact congrArg (· < (quota call.key).limit) (agrees.met here)

theorem accepted_initial {calls : List Call}
    (ordered : calls.Pairwise fun first second => first.now ≤ second.now) :
    accepted (serve quota .initial calls) =
      admissions (Call.slot quota) (slotLimit quota) (fun _ => 0) calls := by
  cases calls with
  | nil => rfl
  | cons call rest =>
      refine (initial_agrees call.now).accepted_eq ?_ ordered
      intro later held
      cases held with
      | head => exact le_refl _
      | tail _ held => exact (List.pairwise_cons.mp ordered).1 later held

theorem first_accepted {calls : List Call}
    (ordered : calls.Pairwise fun first second => first.now ≤ second.now) :
    FirstAccepted quota calls := by
  intro key window
  rw [accepted_initial ordered]
  have class_eq (call : Call) :
      (call.key = key ∧ call.window quota = window) ↔ call.slot quota = (key, window) := by
    rw [Call.slot, Prod.mk.injEq]
  simp only [class_eq]
  exact verdicts_admissions (Call.slot quota) (slotLimit quota) calls (fun _ => 0) (key, window)

theorem keys_apart {calls : List Call}
    (ordered : calls.Pairwise fun first second => first.now ≤ second.now) :
    KeysApart quota calls := by
  intro key
  rw [accepted_initial ordered, accepted_initial (ordered.filter _)]
  have whole (first second : Call) (same : first.slot quota = second.slot quota) :
      decide (first.key = key) = decide (second.key = key) := by
    have keys : first.key = second.key := congrArg Prod.fst same
    rw [keys]
  exact admissions_filter (Call.slot quota) (slotLimit quota) whole calls fun _ _ => rfl

/-- Two adjacent windows cover an interval of a window's length. -/
theorem window_of_interval {start now width : Int} (positive : 0 < width) (after : start ≤ now)
    (before : now < start + width) : now / width = start / width ∨ now / width = start / width + 1 := by
  have lower : start / width ≤ now / width := Int.ediv_le_ediv positive after
  have upper : now / width < start / width + 2 := by
    rw [Int.ediv_lt_iff_lt_mul positive]
    have rest := Int.emod_lt_of_pos start positive
    have split := Int.mul_ediv_add_emod start width
    calc now < start + width := before
      _ < (start / width + 2) * width := by linarith
  omega

theorem countP_le_add {α : Type} {whole first second : α → Bool} (items : List α)
    (covered : ∀ item, whole item = true → first item = true ∨ second item = true) :
    items.countP whole ≤ items.countP first + items.countP second := by
  induction items with
  | nil => exact Nat.zero_le _
  | cons item rest ih =>
      rw [List.countP_cons, List.countP_cons, List.countP_cons]
      by_cases inside : whole item = true
      · rcases covered item inside with one | other
        · rw [if_pos inside, if_pos one]
          omega
        · rw [if_pos inside, if_pos other]
          omega
      · rw [if_neg inside]
        omega

theorem twice_at_most {calls : List Call}
    (ordered : calls.Pairwise fun first second => first.now ≤ second.now) :
    TwiceAtMost quota calls := by
  intro key start
  rw [accepted_initial ordered]
  have inWindow := admitted_le (Call.slot quota) (slotLimit quota) calls (fun _ => 0)
  have first := inWindow (key, start / (quota key).windowSeconds)
  have second := inWindow (key, start / (quota key).windowSeconds + 1)
  refine (countP_le_add _ ?_).trans ((Nat.add_le_add first second).trans_eq (Nat.two_mul _).symm)
  rintro ⟨call, verdict⟩ inside
  simp only [Bool.and_eq_true, decide_eq_true_eq] at inside ⊢
  obtain ⟨admitted, rfl, after, before⟩ := inside
  rcases window_of_interval (quota call.key).seconds_pos after before with window | window
  · exact .inl ⟨Prod.ext rfl window, admitted⟩
  · exact .inr ⟨Prod.ext rfl window, admitted⟩

/-- A refusal names the seconds that are left of the window. -/
theorem serve_refused {calls : List Call} {entry : Call × Result Unit}
    (served : entry ∈ serve quota limiter calls) (refused : entry.2.isOk = false) :
    retryAfter entry.2 = some (max ((quota entry.1.key).windowSeconds -
      entry.1.now % (quota entry.1.key).windowSeconds) 1) := by
  induction calls generalizing limiter with
  | nil => cases served
  | cons call rest ih =>
      cases served with
      | head => exact RateLimiter.checkLocal_refused refused
      | tail _ later => exact ih later

theorem retries_later (calls : List Call) : RetriesLater quota calls := by
  intro entry served refused
  refine ⟨_, serve_refused served refused, le_max_right _ _, ?_⟩
  intro later same waited
  rw [Call.window, Call.window, same]
  have positive := (quota entry.1.key).seconds_pos
  have split := Int.mul_ediv_add_emod entry.1.now (quota entry.1.key).windowSeconds
  have waited := (Int.add_le_add_left (le_max_left _ _) _).trans waited
  rw [Int.lt_iff_add_one_le, Int.le_ediv_iff_mul_le positive]
  linarith

end

/-- The first calls of a window go through up to the limit, keys do not disturb each
other, no interval of a window's length has more than twice the limit, and whoever
waits as told comes in a later window. -/
theorem fixed_window (quota : String → Quota) (calls : List Call)
    (ordered : calls.Pairwise fun first second => first.now ≤ second.now) :
    FirstAccepted quota calls ∧ KeysApart quota calls ∧ TwiceAtMost quota calls ∧
      RetriesLater quota calls :=
  ⟨first_accepted ordered, keys_apart ordered, twice_at_most ordered, retries_later calls⟩

theorem fixed_window_attempts :
    let quota : String → Quota := fun _ => ⟨2, 60, by decide⟩
    let calls : List Call := [⟨"login:ip", 115⟩, ⟨"login:ip", 116⟩, ⟨"reset:ip", 117⟩,
      ⟨"login:ip", 118⟩, ⟨"login:ip", 121⟩]
    FirstAccepted quota calls ∧ KeysApart quota calls ∧ TwiceAtMost quota calls ∧
      RetriesLater quota calls :=
  fixed_window _ _ (by decide)

end SynapseSaas.RateLimiting
