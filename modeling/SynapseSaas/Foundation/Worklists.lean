import Mathlib.Algebra.BigOperators.Group.List.Basic
import Mathlib.Algebra.GroupWithZero.Nat

/-! A loop over a stack of nodes, each of which is refused or has others pushed in its
place, and what it accepts. -/

set_option autoImplicit false

namespace Worklists

variable {Node Error : Type}

/-- The node on top is visited first; what a visit pushes comes on top, the last uppermost. -/
def walk (visit : Node → Except Error (List Node)) : Nat → List Node → Option (Except Error Unit)
  | _, [] => some (.ok ())
  | 0, _ :: _ => none
  | fuel + 1, node :: rest =>
      match visit node with
      | .error error => some (.error error)
      | .ok pushed => walk visit fuel (pushed.reverse ++ rest)

variable {visit : Node → Except Error (List Node)} {size : Node → Nat} {good : Node → Prop}

/-- Where visits shrink what is left to visit, the loop ends, and it accepts the stacks whose
nodes are all good: a good node is one that is not refused and pushes only good ones. -/
theorem walk_ends (positive : ∀ node, 0 < size node)
    (shrinks : ∀ node pushed, visit node = .ok pushed → (pushed.map size).sum < size node)
    (good_iff : ∀ node, good node ↔
      ∃ pushed, visit node = .ok pushed ∧ ∀ child ∈ pushed, good child)
    {fuel : Nat} {stack : List Node} (enough : (stack.map size).sum ≤ fuel) :
    ∃ result, walk visit fuel stack = some result ∧
      (result = .ok () ↔ ∀ node ∈ stack, good node) := by
  induction fuel generalizing stack with
  | zero =>
      cases stack with
      | nil => exact ⟨.ok (), rfl, by simp⟩
      | cons node rest =>
          have := positive node
          rw [List.map_cons, List.sum_cons] at enough
          omega
  | succ fuel ih =>
      cases stack with
      | nil => exact ⟨.ok (), rfl, by simp⟩
      | cons node rest =>
          rw [walk, List.forall_mem_cons, good_iff]
          rw [List.map_cons, List.sum_cons] at enough
          cases visited : visit node with
          | error error =>
              refine ⟨.error error, rfl, iff_of_false (by simp) ?_⟩
              rintro ⟨⟨pushed, accepted, _⟩, _⟩
              cases accepted
          | ok pushed =>
              have fewer := shrinks node pushed visited
              have left : ((pushed.reverse ++ rest).map size).sum ≤ fuel := by
                rw [List.map_append, List.sum_append, List.map_reverse, List.sum_reverse]
                omega
              obtain ⟨result, ended, accepts⟩ := ih left
              refine ⟨result, ended, accepts.trans ?_⟩
              constructor
              · intro all
                exact ⟨⟨pushed, rfl, fun child here => all child (by simp [here])⟩,
                  fun other here => all other (by simp [here])⟩
              · rintro ⟨⟨same, accepted, children⟩, others⟩ other here
                cases accepted
                rw [List.mem_append, List.mem_reverse] at here
                exact here.elim (children other) (others other)

end Worklists
