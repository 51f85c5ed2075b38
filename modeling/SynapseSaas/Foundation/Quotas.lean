import Mathlib.Data.List.Basic
import Mathlib.Logic.Function.Basic

/-! First come, first served: every item belongs to a class, and a class admits its first
so many items. -/

set_option autoImplicit false

namespace Quotas

/-- What becomes of so many items where so many places are left. -/
def firstServed (items places : Nat) : List Bool :=
  List.replicate (min items places) true ++ List.replicate (items - places) false

@[simp] theorem firstServed_none (places : Nat) : firstServed 0 places = [] := by
  simp [firstServed]

theorem firstServed_free (items places : Nat) :
    firstServed (items + 1) (places + 1) = true :: firstServed items places := by
  rw [firstServed, firstServed, Nat.add_min_add_right, Nat.add_sub_add_right,
    List.replicate_succ, List.cons_append]

theorem firstServed_full (items : Nat) :
    firstServed (items + 1) 0 = false :: firstServed items 0 := by
  simp [firstServed, List.replicate_succ]

theorem firstServed_admits (items places : Nat) :
    (firstServed items places).count true ≤ places := by
  rw [firstServed, List.count_append, List.count_replicate_self, List.count_replicate,
    if_neg (by decide), Nat.add_zero]
  exact Nat.min_le_right items places

variable {Item Class : Type} [DecidableEq Class] (classOf : Item → Class) (limit : Class → Nat)

/-- The counters with one more item. -/
def tally (seen : Class → Nat) (item : Item) : Class → Nat :=
  Function.update seen (classOf item) (seen (classOf item) + 1)

/-- Every item with whether it is admitted. -/
def admissions : (Class → Nat) → List Item → List (Item × Bool)
  | _, [] => []
  | seen, item :: rest =>
    (item, decide (seen (classOf item) < limit (classOf item))) ::
      admissions (tally classOf seen item) rest

/-- The verdicts on the items of one class, in their order. -/
def verdicts (served : List (Item × Bool)) (cls : Class) : List Bool :=
  (served.filter fun entry => classOf entry.1 = cls).map Prod.snd

theorem verdicts_admissions (items : List Item) (seen : Class → Nat) (cls : Class) :
    verdicts classOf (admissions classOf limit seen items) cls =
      firstServed (items.countP fun item => classOf item = cls) (limit cls - seen cls) := by
  induction items generalizing seen with
  | nil => exact (firstServed_none _).symm
  | cons item rest ih =>
      have later := ih (tally classOf seen item)
      rw [verdicts] at later ⊢
      by_cases own : classOf item = cls
      · subst own
        rw [admissions, List.filter_cons_of_pos (by simp), List.map_cons, later,
          List.countP_cons_of_pos (by simp), tally, Function.update_self]
        by_cases free : seen (classOf item) < limit (classOf item)
        · obtain ⟨places, left⟩ : ∃ places, limit (classOf item) - seen (classOf item) = places + 1 :=
            Nat.exists_eq_add_of_lt (Nat.sub_pos_of_lt free) |>.imp fun _ h => by omega
          rw [left, firstServed_free, decide_eq_true free, Nat.sub_succ', left,
            Nat.add_sub_cancel]
        · have none_left : limit (classOf item) - seen (classOf item) = 0 := by omega
          rw [none_left, firstServed_full, decide_eq_false free, Nat.sub_succ', none_left]
      · rw [admissions, List.filter_cons_of_neg (by simpa using own), later,
          List.countP_cons_of_neg (by simpa using own), tally,
          Function.update_of_ne (Ne.symm own)]

/-- A class never admits more than its limit. -/
theorem admitted_le (items : List Item) (seen : Class → Nat) (cls : Class) :
    ((admissions classOf limit seen items).countP fun entry =>
        decide (classOf entry.1 = cls) && entry.2) ≤ limit cls := by
  have counted : ((admissions classOf limit seen items).countP fun entry =>
      decide (classOf entry.1 = cls) && entry.2) =
        (verdicts classOf (admissions classOf limit seen items) cls).count true := by
    rw [verdicts, List.count, List.countP_map, List.countP_filter]
    apply List.countP_congr
    intro entry _
    simp [and_comm]
  calc _ = (verdicts classOf (admissions classOf limit seen items) cls).count true := counted
    _ ≤ limit cls - seen cls := by
      rw [verdicts_admissions]
      exact firstServed_admits _ _
    _ ≤ limit cls := Nat.sub_le _ _

/-- Leaving out the items of some classes changes nothing for the others. -/
theorem admissions_filter {keep : Item → Bool}
    (whole : ∀ first second, classOf first = classOf second → keep first = keep second)
    (items : List Item) {seen other : Class → Nat}
    (agree : ∀ item, keep item = true → seen (classOf item) = other (classOf item)) :
    (admissions classOf limit seen items).filter (fun entry => keep entry.1) =
      admissions classOf limit other (items.filter keep) := by
  induction items generalizing seen other with
  | nil => rfl
  | cons item rest ih =>
      by_cases kept : keep item = true
      · rw [List.filter_cons_of_pos kept, admissions, admissions,
          List.filter_cons_of_pos (by exact kept), agree item kept]
        congr 1
        apply ih
        intro later kept_later
        rw [tally, tally, Function.update_apply, Function.update_apply, agree item kept,
          agree later kept_later]
      · rw [List.filter_cons_of_neg kept, admissions, List.filter_cons_of_neg (by exact kept)]
        apply ih
        intro later kept_later
        have apart : classOf later ≠ classOf item := by
          intro same
          exact kept ((whole later item same).symm.trans kept_later)
        rw [tally, Function.update_of_ne apart, agree later kept_later]

end Quotas
