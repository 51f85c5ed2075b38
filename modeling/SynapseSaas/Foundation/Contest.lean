import Mathlib.Data.List.Perm.Basic

/-! Contests by rank: the first entry that no other outranks wins. -/

set_option autoImplicit false

namespace Contest

variable {Entry : Type} (rank : Entry → Nat)

/-- A challenger replaces the holder only by outranking it. -/
def challenge (holder : Option Entry) (challenger : Entry) : Option Entry :=
  match holder with
  | none => some challenger
  | some held => if rank held < rank challenger then some challenger else some held

def winner (entries : List Entry) : Option Entry := entries.foldl (challenge rank) none

/-- An entry none of the others outranks. -/
def Top (entries : List Entry) (entry : Entry) : Prop :=
  entry ∈ entries ∧ ∀ other ∈ entries, rank other ≤ rank entry

/-- A contest with a holder is one that the holder entered first. -/
theorem foldl_challenge (holder : Option Entry) (entries : List Entry) :
    entries.foldl (challenge rank) holder = winner rank (holder.toList ++ entries) := by
  cases holder with
  | none => rfl
  | some held => rfl

theorem winner_cons_cons (held challenger : Entry) (rest : List Entry) :
    winner rank (held :: challenger :: rest) =
      if rank held < rank challenger then winner rank (challenger :: rest)
      else winner rank (held :: rest) := by
  simp only [winner, List.foldl_cons, challenge]
  split <;> rfl

theorem winner_cons_top (held : Entry) (rest : List Entry) :
    ∃ entry, winner rank (held :: rest) = some entry ∧ Top rank (held :: rest) entry := by
  induction rest generalizing held with
  | nil => exact ⟨held, rfl, by simp, by simp⟩
  | cons challenger rest ih =>
      rw [winner_cons_cons]
      -- The second entry takes the lead or not; either way one entry fewer is left.
      split
      · next outranked =>
          obtain ⟨entry, won, member, above⟩ := ih challenger
          refine ⟨entry, won, List.mem_cons_of_mem _ member, ?_⟩
          intro other entered
          rcases List.mem_cons.mp entered with rfl | later
          · exact Nat.le_trans (Nat.le_of_lt outranked) (above challenger (by simp))
          · exact above other later
      · next stays =>
          obtain ⟨entry, won, member, above⟩ := ih held
          have first := above held (by simp)
          refine ⟨entry, won, ?_, ?_⟩
          · rcases List.mem_cons.mp member with rfl | member
            · simp
            · simp [member]
          · intro other entered
            simp only [List.mem_cons] at entered
            rcases entered with rfl | rfl | later
            · exact first
            · omega
            · exact above other (List.mem_cons_of_mem _ later)

/-- The winner is one of the entries, and none outranks it. -/
theorem winner_top {entries : List Entry} {entry : Entry} (won : winner rank entries = some entry) :
    Top rank entries entry := by
  cases entries with
  | nil => cases won
  | cons held rest =>
      obtain ⟨other, won', top⟩ := winner_cons_top rank held rest
      rw [won] at won'
      cases won'
      exact top

theorem exists_winner {entries : List Entry} {entry : Entry} (entered : entry ∈ entries) :
    ∃ other, winner rank entries = some other := by
  cases entries with
  | nil => cases entered
  | cons held rest =>
      obtain ⟨other, won, -⟩ := winner_cons_top rank held rest
      exact ⟨other, won⟩

/-- The first entry wins against entries that do not outrank it. -/
theorem winner_cons_of_top {held : Entry} {rest : List Entry}
    (above : ∀ other ∈ rest, rank other ≤ rank held) : winner rank (held :: rest) = some held := by
  induction rest with
  | nil => rfl
  | cons challenger rest ih =>
      have := above challenger (by simp)
      rw [winner_cons_cons, if_neg (by omega)]
      exact ih fun other later => above other (List.mem_cons_of_mem _ later)

/-- Where the top entries agree on an outcome, so do the winners of all orders. -/
theorem winner_map_perm {Outcome : Type} {outcome : Entry → Outcome} {first second : List Entry}
    (perm : first.Perm second)
    (agree : ∀ one other, Top rank second one → Top rank second other → outcome one = outcome other) :
    (winner rank first).map outcome = (winner rank second).map outcome := by
  cases won : winner rank first with
  | none =>
      cases won' : winner rank second with
      | none => rfl
      | some other =>
          obtain ⟨one, won''⟩ := exists_winner rank (perm.mem_iff.mpr (winner_top rank won').1)
          rw [won] at won''
          cases won''
  | some one =>
      have ⟨entered, above⟩ := winner_top rank won
      have top : Top rank second one :=
        ⟨perm.mem_iff.mp entered, fun other there => above other (perm.mem_iff.mpr there)⟩
      obtain ⟨other, won'⟩ := exists_winner rank top.1
      rw [won', Option.map_some, Option.map_some, agree one other top (winner_top rank won')]

end Contest
