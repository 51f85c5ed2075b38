import Mathlib.Algebra.BigOperators.Group.List.Basic
import Mathlib.Tactic.Ring

/-! Bit fields side by side in one number, the first of them on top. -/

set_option autoImplicit false

namespace BitFields

/-- A value that fits its width. -/
structure Field where
  width : Nat
  value : Nat
  fits : value < 2 ^ width

def total (fields : List Field) : Nat := (fields.map Field.width).sum

/-- The fields joined by shifts and bitwise or. -/
def pack : List Field → Nat
  | [] => 0
  | field :: rest => field.value <<< total rest ||| pack rest

/-- What fields of the given widths are read from a number. -/
def unpack : List Nat → Nat → List Nat
  | [], _ => []
  | width :: rest, number => number >>> rest.sum % 2 ^ width :: unpack rest number

theorem pack_lt (fields : List Field) : pack fields < 2 ^ total fields := by
  induction fields with
  | nil => exact Nat.one_pos
  | cons field rest ih =>
      change _ < 2 ^ (field.width + total rest)
      apply Nat.or_lt_two_pow
      · rw [Nat.shiftLeft_eq, pow_add]
        exact Nat.mul_lt_mul_of_pos_right field.fits (Nat.two_pow_pos _)
      · exact ih.trans_le (Nat.pow_le_pow_right Nat.two_pos (Nat.le_add_left ..))

/-- No bit of a field lies in the fields below it, so joining them is adding them. -/
theorem pack_cons (field : Field) (rest : List Field) :
    pack (field :: rest) = field.value * 2 ^ total rest + pack rest := by
  rw [pack, ← Nat.shiftLeft_add_eq_or_of_lt (pack_lt rest), Nat.shiftLeft_eq]

/-- Fields do not see what lies above them. -/
theorem unpack_add (widths : List Nat) (above number : Nat) :
    unpack widths (above * 2 ^ widths.sum + number) = unpack widths number := by
  induction widths generalizing above with
  | nil => rfl
  | cons width rest ih =>
      have split : above * 2 ^ (width :: rest).sum = above * 2 ^ width * 2 ^ rest.sum := by
        rw [List.sum_cons, pow_add]
        ring
      simp only [unpack, split, ih, Nat.shiftRight_eq_div_pow, List.cons.injEq, and_true]
      rw [Nat.add_comm, Nat.add_mul_div_right _ _ (Nat.two_pow_pos _), Nat.add_mul_mod_self_right]

theorem unpack_pack (fields : List Field) :
    unpack (fields.map Field.width) (pack fields) = fields.map Field.value := by
  induction fields with
  | nil => rfl
  | cons field rest ih =>
      have top : (field.value * 2 ^ total rest + pack rest) / 2 ^ total rest = field.value := by
        rw [Nat.add_comm, Nat.add_mul_div_right _ _ (Nat.two_pow_pos _),
          Nat.div_eq_of_lt (pack_lt rest), Nat.zero_add]
      have below : unpack (rest.map Field.width) (field.value * 2 ^ total rest + pack rest) =
          rest.map Field.value := (unpack_add _ _ _).trans ih
      rw [pack_cons, List.map_cons, List.map_cons, unpack, ← total, below,
        Nat.shiftRight_eq_div_pow, top, Nat.mod_eq_of_lt field.fits]

/-- The first field decides the order. -/
theorem pack_lt_pack {first second : Field} {rest rest' : List Field}
    (smaller : first.value < second.value) (same : total rest = total rest') :
    pack (first :: rest) < pack (second :: rest') := by
  rw [pack_cons, pack_cons, ← same]
  calc first.value * 2 ^ total rest + pack rest
      < first.value * 2 ^ total rest + 2 ^ total rest := Nat.add_lt_add_left (pack_lt rest) _
    _ = (first.value + 1) * 2 ^ total rest := (Nat.succ_mul ..).symm
    _ ≤ second.value * 2 ^ total rest := Nat.mul_le_mul_right _ smaller
    _ ≤ second.value * 2 ^ total rest + pack rest' := Nat.le_add_right ..

end BitFields
