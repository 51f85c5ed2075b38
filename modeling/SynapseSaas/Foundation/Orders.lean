import SynapseSaas.Foundation.Runs
import Mathlib.Data.List.Perm.Basic

/-! Runs over the same actions in different orders. -/

set_option autoImplicit false

namespace Runs

variable {State Action : Type} (step : State → Action → State)

/-- Every order of the actions leads to the same state. -/
def OrderFree (start : State) (actions : List Action) : Prop :=
  ∀ first second, first.Perm actions → second.Perm actions →
    run step start first = run step start second

theorem run_absorbed {state : State} (absorbs : ∀ action, step state action = state)
    (actions : List Action) : run step state actions = state := by
  induction actions with
  | nil => rfl
  | cons action rest ih => rw [run_cons, absorbs, ih]

/-- An invariant that the actions of a run keep, whatever others do. -/
theorem run_invariant_mem (invariant : State → Prop) {start : State} {actions : List Action}
    (preserved : ∀ state, ∀ action ∈ actions, invariant state → invariant (step state action))
    (initial : invariant start) : invariant (run step start actions) := by
  induction actions generalizing start with
  | nil => exact initial
  | cons action rest ih =>
      exact ih (fun state other member => preserved state other (List.mem_cons_of_mem _ member))
        (preserved start action (by simp) initial)

/-- Actions that commute on an invariant may be taken in any order. -/
theorem run_perm (invariant : State → Prop) {start : State} {first second : List Action}
    (perm : first.Perm second)
    (preserved : ∀ state, ∀ action ∈ first, invariant state → invariant (step state action))
    (commute : ∀ state, ∀ one ∈ first, ∀ other ∈ first, invariant state →
      step (step state one) other = step (step state other) one)
    (initial : invariant start) : run step start first = run step start second := by
  induction perm generalizing start with
  | nil => rfl
  | cons action perm ih =>
      refine ih (fun state other member => preserved state other (by simp [member]))
        (fun state one left other right => commute state one (by simp [left]) other (by simp [right]))
        (preserved start action (by simp) initial)
  | swap one other rest =>
      rw [run_cons, run_cons, run_cons, run_cons, commute start one (by simp) other (by simp) initial]
  | trans left right firstly secondly =>
      rw [firstly preserved commute initial]
      refine secondly (fun state action member => preserved state action (left.mem_iff.mpr member))
        (fun state one here other there => commute state one (left.mem_iff.mpr here) other
          (left.mem_iff.mpr there)) initial

/-- A run whose ending actions absorb is decided by the first of them. -/
theorem run_ends (region : State → Prop) (ending : Action → Prop) {start : State}
    {actions : List Action}
    (keeps : ∀ state, ∀ action ∈ actions, region state → ¬ ending action →
      region (step state action))
    (absorbs : ∀ state, ∀ action ∈ actions, region state → ending action →
      ∀ other, step (step state action) other = step state action)
    (initial : region start) (ends : ∃ action ∈ actions, ending action) :
    ∃ state, region state ∧ ∃ action ∈ actions, ending action ∧
      run step start actions = step state action := by
  induction actions generalizing start with
  | nil =>
      obtain ⟨action, member, -⟩ := ends
      cases member
  | cons action rest ih =>
      -- The first ending absorbs the rest; before it the region is kept.
      by_cases here : ending action
      · exact ⟨start, initial, action, by simp, here,
          run_absorbed step (absorbs start action (by simp) initial here) rest⟩
      · obtain ⟨state, inside, last, member, ended, final⟩ := ih
          (fun state other member => keeps state other (by simp [member]))
          (fun state other member => absorbs state other (by simp [member]))
          (keeps start action (by simp) initial here) (by
            obtain ⟨last, member, ended⟩ := ends
            rcases List.mem_cons.mp member with rfl | member
            · exact absurd ended here
            · exact ⟨last, member, ended⟩)
        exact ⟨state, inside, last, by simp [member], ended, final⟩

end Runs

namespace Orders

variable {α β : Type}

theorem exists_perm_cons {element : α} {elements : List α} (member : element ∈ elements) :
    ∃ rest, (element :: rest).Perm elements := by
  obtain ⟨before, after, rfl⟩ := List.append_of_mem member
  exact ⟨before ++ after, List.perm_middle.symm⟩

theorem exists_perm_append_singleton {element : α} {elements : List α}
    (member : element ∈ elements) : ∃ rest, (rest ++ [element]).Perm elements := by
  obtain ⟨rest, perm⟩ := exists_perm_cons member
  exact ⟨rest, (List.perm_append_singleton element rest).trans perm⟩

theorem exists_perm_cons_cons {first second : α} {elements : List α} (left : first ∈ elements)
    (right : second ∈ elements) (distinct : first ≠ second) :
    ∃ rest, (first :: second :: rest).Perm elements := by
  obtain ⟨others, perm⟩ := exists_perm_cons left
  have member : second ∈ others :=
    (List.mem_cons.mp (perm.mem_iff.mpr right)).resolve_left distinct.symm
  obtain ⟨rest, inner⟩ := exists_perm_cons member
  exact ⟨rest, (inner.cons first).trans perm⟩

/-- An order of the images is the image of an order. -/
theorem exists_perm_filterMap {image : α → Option β} {order : List β} {elements : List α}
    (perm : order.Perm (elements.filterMap image)) :
    ∃ source : List α, source.Perm elements ∧ source.filterMap image = order := by
  induction order generalizing elements with
  | nil => exact ⟨elements, .refl _, List.nil_perm.mp perm⟩
  | cons head rest ih =>
      obtain ⟨element, member, is_head⟩ := List.mem_filterMap.mp (perm.mem_iff.mp List.mem_cons_self)
      obtain ⟨others, split⟩ := exists_perm_cons member
      have images := (split.filterMap image).symm
      rw [List.filterMap_cons_some is_head] at images
      obtain ⟨source, reorders, same⟩ := ih ((perm.trans images).cons_inv)
      exact ⟨element :: source, (reorders.cons element).trans split, by
        rw [List.filterMap_cons_some is_head, same]⟩

end Orders
