import Mathlib.Data.List.Basic

/-! Reading concatenated text back: a part ends where a character it cannot
contain begins the next. -/

set_option autoImplicit false

namespace Delimited

variable {Symbol : Type}

/-- The list does not begin with a symbol of the kind. -/
def Stops (kind : Symbol → Prop) (symbols : List Symbol) : Prop :=
  ∀ symbol ∈ symbols.head?, ¬ kind symbol

@[simp] theorem stops_cons {kind : Symbol → Prop} {symbol : Symbol} {rest : List Symbol} :
    Stops kind (symbol :: rest) ↔ ¬ kind symbol := by
  simp [Stops]

/-- A part of one kind of symbols, before what does not begin with that kind, is
determined by the whole. -/
theorem parts_unique {kind : Symbol → Prop} {first second left right : List Symbol}
    (first_kind : ∀ symbol ∈ first, kind symbol) (second_kind : ∀ symbol ∈ second, kind symbol)
    (left_stops : Stops kind left) (right_stops : Stops kind right)
    (same : first ++ left = second ++ right) : first = second ∧ left = right := by
  induction first generalizing second with
  | nil =>
      cases second with
      | nil => exact ⟨rfl, same⟩
      | cons symbol rest =>
          rw [List.nil_append, List.cons_append] at same
          rw [same, stops_cons] at left_stops
          -- The second part goes on where the first has already stopped.
          exact absurd (second_kind symbol List.mem_cons_self) left_stops
  | cons symbol rest ih =>
      cases second with
      | nil =>
          rw [List.nil_append, List.cons_append] at same
          rw [← same, stops_cons] at right_stops
          -- And the other way round.
          exact absurd (first_kind symbol List.mem_cons_self) right_stops
      | cons other others =>
          obtain ⟨heads, tails⟩ := List.cons_eq_cons.mp same
          obtain ⟨_, first_rest⟩ := List.forall_mem_cons.mp first_kind
          obtain ⟨_, second_rest⟩ := List.forall_mem_cons.mp second_kind
          obtain ⟨same_part, same_rest⟩ := ih first_rest second_rest tails
          rw [heads, same_part]
          exact ⟨rfl, same_rest⟩

/-- What stands before a separator it does not contain is determined by the whole. -/
theorem before_unique {separator : Symbol} {first second left right : List Symbol}
    (first_free : separator ∉ first) (second_free : separator ∉ second)
    (same : first ++ separator :: left = second ++ separator :: right) :
    first = second ∧ left = right := by
  have unique := @parts_unique _ (· ≠ separator) first second (separator :: left)
    (separator :: right) (fun symbol member => ne_of_mem_of_not_mem member first_free)
    (fun symbol member => ne_of_mem_of_not_mem member second_free) (by simp) (by simp) same
  exact ⟨unique.1, (List.cons_eq_cons.mp unique.2).2⟩

theorem digits_toString (number : Nat) : ∀ digit ∈ (toString number).toList, digit.isDigit := by
  intro digit member
  rw [Nat.toString_eq_repr, Nat.toList_repr] at member
  exact Nat.isDigit_of_mem_toDigits (by decide) (by decide) member

theorem toString_injective {first second : Nat}
    (same : (toString first).toList = (toString second).toList) : first = second := by
  have value : Nat.ofDigitChars 10 (toString first).toList 0 =
      Nat.ofDigitChars 10 (toString second).toList 0 := by rw [same]
  simpa using value

/-- A decimal number is determined by text that goes on with something else than a digit. -/
theorem number_unique {first second : Nat} {left right : List Char}
    (left_stops : Stops (fun symbol => symbol.isDigit = true) left)
    (right_stops : Stops (fun symbol => symbol.isDigit = true) right)
    (same : (toString first).toList ++ left = (toString second).toList ++ right) :
    first = second ∧ left = right := by
  obtain ⟨digits, rests⟩ := parts_unique (digits_toString first) (digits_toString second)
    left_stops right_stops same
  exact ⟨toString_injective digits, rests⟩

end Delimited
