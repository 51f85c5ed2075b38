import Mathlib.Data.Int.ConditionallyCompleteOrder
import Mathlib.Tactic.Ring
import Mathlib.Tactic.Linarith

/-! The proleptic Gregorian calendar on integer day numbers.

Day zero is 1970-01-01 and months are numbered `12 * year + (month - 1)`, so
month arithmetic is integer arithmetic and no date outside the calendar exists.
-/

set_option autoImplicit false

namespace Calendar

def isLeap (year : Int) : Bool :=
  year % 4 = 0 ∧ (year % 100 ≠ 0 ∨ year % 400 = 0)

def daysIn (month : Int) : Int :=
  match month % 12 with
  | 1 => if isLeap (month / 12) then 29 else 28
  | 3 | 5 | 8 | 10 => 30
  | _ => 31

/-- The first day of a month. The year is counted from March, so that a leap
day is the last day of its year. -/
def firstDay (month : Int) : Int :=
  let year := (month - 2) / 12
  365 * year + year / 4 - year / 100 + year / 400 + (153 * ((month - 2) % 12) + 2) / 5 - 719468

example : firstDay (12 * 1970) = 0 := by decide

/-- The leap days before a year, counted from March, and before the one after it. -/
theorem leapDays_succ (year : Int) : year / 4 - year / 100 + year / 400 =
    (year - 1) / 4 - (year - 1) / 100 + (year - 1) / 400 + if isLeap year then 1 else 0 := by
  simp only [isLeap, decide_eq_true_eq]
  split <;> omega

/-- Together with the epoch this determines `firstDay`: consecutive months are
as far apart as the Gregorian rule says. -/
theorem firstDay_succ (month : Int) : firstDay (month + 1) = firstDay month + daysIn month := by
  obtain ⟨year, r, rfl, low, high⟩ : ∃ year r, month = 12 * year + r ∧ 0 ≤ r ∧ r < 12 :=
    ⟨month / 12, month % 12, by omega, by omega, by omega⟩
  have rest : (12 * year + r) % 12 = r := by omega
  have whole : (12 * year + r) / 12 = year := by omega
  simp only [daysIn, rest, whole, firstDay]
  have cases : r = 0 ∨ r = 1 ∨ r = 2 ∨ r = 3 ∨ r = 4 ∨ r = 5 ∨ r = 6 ∨ r = 7 ∨ r = 8 ∨
      r = 9 ∨ r = 10 ∨ r = 11 := by omega
  rcases cases with rfl | rfl | rfl | rfl | rfl | rfl | rfl | rfl | rfl | rfl | rfl | rfl
  case inr.inl =>
    have earlier : (12 * year + 1 - 2) / 12 = year - 1 := by omega
    have later : (12 * year + 1 + 1 - 2) / 12 = year := by omega
    have leaps := leapDays_succ year
    simp only [earlier, later]
    generalize year / 4 = fourth, year / 100 = century, year / 400 = cycle at leaps ⊢
    cases leap : isLeap year <;>
      · simp only [leap, if_true, Bool.false_eq_true, if_false] at leaps ⊢
        omega
  all_goals (simp only; omega)

theorem daysIn_bounds (month : Int) : 28 ≤ daysIn month ∧ daysIn month ≤ 31 := by
  simp only [daysIn]
  split <;> (try split) <;> omega

theorem firstDay_lt_succ (month : Int) : firstDay month < firstDay (month + 1) := by
  rw [firstDay_succ]
  have := daysIn_bounds month
  omega

theorem firstDay_strictMono : StrictMono firstDay :=
  strictMono_int_of_lt_succ firstDay_lt_succ

theorem leapDays_near (year : Int) :
    -699 ≤ 400 * (year / 4 - year / 100 + year / 400) - 97 * year ∧
      400 * (year / 4 - year / 100 + year / 400) - 97 * year ≤ 396 := by
  omega

theorem passedDays_near (place : Int) :
    153 * place - 2 ≤ 5 * ((153 * place + 2) / 5) ∧
      5 * ((153 * place + 2) / 5) ≤ 153 * place + 2 := by
  omega

/-- The mean Gregorian month is `146097 / 4800` days; no month start is more
than a few days off the mean. -/
theorem firstDay_near_mean (month : Int) :
    146097 * (month - 2) - 4800 * 719471 ≤ 4800 * firstDay month ∧
      4800 * firstDay month ≤ 146097 * (month - 2) - 4800 * 719464 := by
  obtain ⟨year, place, placed, low, high⟩ : ∃ year place,
      month - 2 = 12 * year + place ∧ 0 ≤ place ∧ place < 12 :=
    ⟨(month - 2) / 12, (month - 2) % 12, by omega, by omega, by omega⟩
  have whole : (12 * year + place) / 12 = year := by omega
  have rest : (12 * year + place) % 12 = place := by omega
  have leaps := leapDays_near year
  have days := passedDays_near place
  simp only [firstDay, placed, whole, rest]
  -- Only the bounds on the quotients count from here.
  generalize year / 4 = fourth, year / 100 = century, year / 400 = cycle at leaps ⊢
  generalize (153 * place + 2) / 5 = passed at days ⊢
  omega

/-- The month a day lies in: the mean gives a month that is off by at most one. -/
def monthOf (day : Int) : Int :=
  let guess := (day + 719468) * 4800 / 146097 + 2
  if day < firstDay guess then guess - 1
  else if firstDay (guess + 1) ≤ day then guess + 1
  else guess

theorem monthOf_spec (day : Int) :
    firstDay (monthOf day) ≤ day ∧ day < firstDay (monthOf day + 1) := by
  simp only [monthOf]
  generalize guess_eq : (day + 719468) * 4800 / 146097 + 2 = guess
  have before := firstDay_near_mean (guess - 1)
  have after := firstDay_near_mean (guess + 1 + 1)
  split
  · rw [show guess - 1 + 1 = guess by ring]
    omega
  · split <;> omega

theorem monthOf_eq_iff (day : Int) (month : Int) :
    monthOf day = month ↔ firstDay month ≤ day ∧ day < firstDay (month + 1) := by
  obtain ⟨low, high⟩ := monthOf_spec day
  constructor
  · rintro rfl
    exact ⟨low, high⟩
  · rintro ⟨low', high'⟩
    have left := firstDay_strictMono.lt_iff_lt.mp (low.trans_lt high')
    have right := firstDay_strictMono.lt_iff_lt.mp (low'.trans_lt high)
    omega

@[simp] theorem monthOf_firstDay (month : Int) : monthOf (firstDay month) = month :=
  (monthOf_eq_iff _ _).mpr ⟨le_rfl, firstDay_lt_succ month⟩

theorem le_monthOf_iff (day : Int) (month : Int) : month ≤ monthOf day ↔ firstDay month ≤ day := by
  obtain ⟨low, high⟩ := monthOf_spec day
  constructor
  · intro le
    exact (firstDay_strictMono.monotone le).trans low
  · intro le
    have := firstDay_strictMono.lt_iff_lt.mp (le.trans_lt high)
    omega

theorem monthOf_mono : Monotone monthOf := fun first second le =>
  (le_monthOf_iff second _).mpr ((monthOf_spec first).1.trans le)

/-- The last day of the month, reached the way a program without a calendar
library does: 32 days on, back to the first, one day back. -/
def lastDay (first : Int) : Int := firstDay (monthOf (first + 32)) - 1

theorem lastDay_firstDay (month : Int) : lastDay (firstDay month) = firstDay (month + 1) - 1 := by
  have here := firstDay_succ month
  have next := firstDay_succ (month + 1)
  have length := daysIn_bounds month
  have length' := daysIn_bounds (month + 1)
  have lands : monthOf (firstDay month + 32) = month + 1 :=
    (monthOf_eq_iff _ _).mpr ⟨by omega, by omega⟩
  rw [lastDay, lands]

end Calendar
