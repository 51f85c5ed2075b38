import Mathlib.Data.List.DropRight

/-! Texts as Python's string methods take them apart. The texts come from HTTP headers,
which are decoded as Latin-1. -/

set_option autoImplicit false

namespace SynapseSaas

abbrev Text := List Char

namespace Text

/-- `str.isspace` up to U+00FF. -/
def isSpace (char : Char) : Bool :=
  let code := char.toNat
  (9 ≤ code ∧ code ≤ 13) ∨ (28 ≤ code ∧ code ≤ 32) ∨ code = 0x85 ∨ code = 0xA0

/-- `text.strip()`. -/
def strip (text : Text) : Text := (text.dropWhile isSpace).rdropWhile isSpace

/-- `text.partition(char)` without the separator: a text without it comes first whole. -/
def partition (char : Char) (text : Text) : Text × Text :=
  (text.takeWhile (· ≠ char), (text.dropWhile (· ≠ char)).drop 1)

/-- Digits after a digit, single underscores between them; `count` digits so far. -/
def moreDigits (count number : Nat) : Text → Option (Nat × Nat)
  | [] => some (count, number)
  | ['_'] => none
  | char :: digit :: rest =>
    if char = '_' then
      if digit.isDigit then moreDigits (count + 1) (10 * number + (digit.toNat - 48)) rest
      else none
    else if char.isDigit then
      moreDigits (count + 1) (10 * number + (char.toNat - 48)) (digit :: rest)
    else none
  | [char] =>
    if char.isDigit then some (count + 1, 10 * number + (char.toNat - 48)) else none

/-- The value of digits, at most as many as `int` reads. -/
def digits? : Text → Option Nat
  | [] => none
  | char :: rest =>
    if char.isDigit then
      match moreDigits 1 (char.toNat - 48) rest with
      | some (count, number) => if count ≤ 4300 then some number else none
      | none => none
    else none

/-- `int(text)`; `none` is a `ValueError`. -/
def int? (text : Text) : Option Int :=
  match strip text with
  | '-' :: digits => (digits? digits).map fun number => -(number : Int)
  | '+' :: digits => (digits? digits).map Int.ofNat
  | digits => (digits? digits).map Int.ofNat

example : int? " -1_700\t".toList = some (-1700) := by decide

example : strip " v1 = a ".toList = "v1 = a".toList := by decide

end Text

end SynapseSaas
