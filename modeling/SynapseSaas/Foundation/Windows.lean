import Mathlib.Algebra.Order.Group.Int
import Mathlib.Data.List.Basic

/-! Hits of a counter that starts again, at the earliest, a window after it began. -/

set_option autoImplicit false

namespace Windows

variable {Hit : Type} (time : Hit → Int) (number : Hit → Nat)

/-- The hits so far, the newest first. Each counts on from the one before it or is the first of
a counter that begins a window after the last one began at the earliest; the indices are when
the counter began and where it stands. -/
inductive Counted (window : Int) : List Hit → Int → Nat → Prop
  | first {hit : Hit} (one : number hit = 1) : Counted window [hit] (time hit) 1
  | next {hits : List Hit} {hit : Hit} {began : Int} {count : Nat}
      (counted : Counted window hits began count)
      (latest : ∀ earlier ∈ hits, time earlier ≤ time hit) (succeeds : number hit = count + 1) :
      Counted window (hit :: hits) began (count + 1)
  | anew {hits : List Hit} {hit : Hit} {began : Int} {count : Nat}
      (counted : Counted window hits began count)
      (latest : ∀ earlier ∈ hits, time earlier ≤ time hit) (one : number hit = 1)
      (elapsed : began + window ≤ time hit) : Counted window (hit :: hits) (time hit) 1

/-- The hit is among the first of its counter, and in the interval. -/
def within (limit : Nat) (opening window : Int) (hit : Hit) : Bool :=
  number hit ≤ limit ∧ opening ≤ time hit ∧ time hit < opening + window

variable {time number} {window began opening : Int} {hits : List Hit} {count limit : Nat}

namespace Counted

/-- The counter began with one of the hits. -/
theorem begun (counted : Counted time number window hits began count) :
    ∃ hit ∈ hits, time hit = began := by
  induction counted with
  | first one => exact ⟨_, List.mem_cons_self, rfl⟩
  | next counted latest succeeds ih =>
      obtain ⟨hit, member, same⟩ := ih
      exact ⟨hit, List.mem_cons_of_mem _ member, same⟩
  | anew counted latest one elapsed ih => exact ⟨_, List.mem_cons_self, rfl⟩

/-- Of the interval, a counter that began before it takes what it stands at, and one that began
within it leaves the limit to the one before. -/
theorem countP_within (counted : Counted time number window hits began count) :
    hits.countP (within time number limit opening window) ≤
      if began < opening then min count limit
      else if began < opening + window then limit + min count limit
      else 2 * limit := by
  induction counted with
  | @first hit one =>
      rw [List.countP_singleton]
      by_cases inside : within time number limit opening window hit = true
      · rw [if_pos inside]
        obtain ⟨few, after, before⟩ := of_decide_eq_true inside
        rw [if_neg (by omega), if_pos before]
        omega
      · rw [if_neg inside]
        exact Nat.zero_le _
  | @next hits hit began count counted latest succeeds ih =>
      obtain ⟨start, member, same⟩ := counted.begun
      have begins : began ≤ time hit := same ▸ latest start member
      rw [List.countP_cons]
      by_cases inside : within time number limit opening window hit = true
      · rw [if_pos inside]
        obtain ⟨few, after, before⟩ := of_decide_eq_true inside
        split_ifs at ih ⊢ <;> omega
      · rw [if_neg inside]
        split_ifs at ih ⊢ <;> omega
  | @anew hits hit began count counted latest one elapsed ih =>
      rw [List.countP_cons]
      by_cases early : time hit < opening
      · -- Nothing has happened in the interval yet.
        have none_before : hits.countP (within time number limit opening window) = 0 := by
          refine List.countP_eq_zero.mpr fun earlier member inside => ?_
          have bounds := of_decide_eq_true inside
          have := latest earlier member
          omega
        have outside : ¬ within time number limit opening window hit = true := by
          intro inside
          have bounds := of_decide_eq_true inside
          omega
        rw [none_before, if_neg outside]
        exact Nat.zero_le _
      · by_cases inside : within time number limit opening window hit = true
        · rw [if_pos inside]
          obtain ⟨few, after, before⟩ := of_decide_eq_true inside
          -- The counter before it began before the interval did.
          rw [if_pos (by omega)] at ih
          rw [if_neg early, if_pos before]
          omega
        · rw [if_neg inside, if_neg early]
          split_ifs at ih ⊢ <;> omega

/-- An interval as long as a window has at most twice the limit of first hits. -/
theorem twice (counted : Counted time number window hits began count) (limit : Nat)
    (opening : Int) :
    hits.countP (within time number limit opening window) ≤ 2 * limit := by
  have bound : hits.countP (within time number limit opening window) ≤ _ := counted.countP_within
  split_ifs at bound <;> omega

end Counted

end Windows
