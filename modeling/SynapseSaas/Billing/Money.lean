import Mathlib
import SynapseSaas.Billing.Checkouts
import SynapseSaas.Foundation.Delimited
import SynapseSaas.Foundation.Doubles

/-! Amounts as texts. The code divides the cents by a hundred, which makes a double of them, and
prints it with two decimals. -/

set_option autoImplicit false

namespace SynapseSaas.Money

open Doubles

/-- `f"{cents / 100:,.2f}"` of what is not negative. -/
def amountText (cents : Nat) : String :=
  let hundredths := ((ofRatio cents 100).times 100).toNat
  let rest := toString (hundredths % 100)
  thousands (hundredths / 100) ++ "." ++ (if rest.length < 2 then "0" else "") ++ rest

def signedText (cents : Int) : String := (if cents < 0 then "-" else "") ++ amountText cents.natAbs

/-- An amount after the symbol of its currency. -/
def moneyText (symbols : List (String × String)) (cents : Int) (currency : String) : String :=
  (symbols.lookup currency).getD (currency ++ " ") ++ signedText cents

/-- `format_money` of the invoice's PDF. -/
def formatMoney : Int → String → String :=
  moneyText [("PHP", "PHP "), ("USD", "USD "), ("EUR", "EUR ")]

/-- `_format_money` of the manual provider. -/
def _formatMoney : Int → String → String := moneyText [("PHP", "₱"), ("USD", "$"), ("EUR", "€")]

/-- The amount a text shows, in cents. -/
def readCents (text : String) : Int :=
  let digits := Nat.ofDigitChars 10 (text.toList.filter Char.isDigit) 0
  if '-' ∈ text.toList then -digits else digits

/-- Amounts up to which a double tells one cent from the next. -/
def exactBelow : Nat := 100 * 2 ^ 46

theorem hundredths_exact {cents : Nat} (small : cents < exactBelow) :
    ((ofRatio cents 100).times 100).toNat = cents := by
  have same : (ofRatio cents 100).times 100 = cents :=
    @times_ofRatio cents 100 7 (by decide) (by decide) (by decide) small
  rw [same, Int.toNat_natCast]

section Digits

theorem filter_digits (number : Nat) :
    (toString number).toList.filter Char.isDigit = (toString number).toList :=
  List.filter_eq_self.mpr (Delimited.digits_toString number)

theorem filter_zeros (count : Nat) :
    (List.replicate count '0').filter Char.isDigit = List.replicate count '0' := by
  apply List.filter_eq_self.mpr
  intro symbol member
  rw [List.eq_of_mem_replicate member]
  rfl

theorem read_digits (number before : Nat) :
    Nat.ofDigitChars 10 (toString number).toList before =
      10 ^ (toString number).length * before + number := by
  have value : Nat.ofDigitChars 10 (toString number).toList 0 = number := by simp
  rw [Nat.ofDigitChars_eq_ofDigitChars_zero, value, String.length_toList]

/-- Zeros in front fill a number up to its digits. -/
theorem read_padded {number width before : Nat} (fits : (toString number).length ≤ width) :
    Nat.ofDigitChars 10
        (List.replicate (width - (toString number).length) '0' ++ (toString number).toList) before =
      10 ^ width * before + number := by
  rw [Nat.ofDigitChars_append, Nat.ofDigitChars_replicate_zero, read_digits, ← mul_assoc, ← pow_add,
    Nat.add_sub_cancel' fits]

theorem read_thousands (number : Nat) :
    Nat.ofDigitChars 10 ((thousands number).toList.filter Char.isDigit) 0 = number := by
  induction number using thousands.induct with
  | case1 number small =>
      rw [thousands, if_pos small, filter_digits]
      simp
  | case2 number large ih =>
      have fits : (toString (number % 1000)).length ≤ 3 :=
        (Nat.length_repr_le_iff (by decide)).mpr (Nat.mod_lt _ (by decide))
      have comma : ",".toList.filter Char.isDigit = [] := rfl
      rw [thousands, if_neg large]
      simp only [String.toList_append, List.filter_append, String.toList_ofList, filter_zeros,
        filter_digits, comma, List.append_nil]
      rw [List.append_assoc, Nat.ofDigitChars_append, ih, read_padded fits]
      exact Nat.div_add_mod number 1000

theorem thousands_symbols (number : Nat) :
    ∀ symbol ∈ (thousands number).toList, symbol.isDigit ∨ symbol = ',' := by
  induction number using thousands.induct with
  | case1 number small =>
      intro symbol member
      rw [thousands, if_pos small] at member
      exact .inl (Delimited.digits_toString number symbol member)
  | case2 number large ih =>
      intro symbol member
      rw [thousands, if_neg large] at member
      simp only [String.toList_append, List.mem_append, String.toList_ofList] at member
      rcases member with ((before | comma) | zero) | digit
      · exact ih symbol before
      · exact .inr (List.mem_singleton.mp comma)
      · rw [List.eq_of_mem_replicate zero]
        exact .inl rfl
      · exact .inl (Delimited.digits_toString _ symbol digit)

end Digits

/-- Two decimals, with a zero in front of a single digit. -/
theorem cents_digits (cents : Nat) :
    (if (toString (cents % 100)).length < 2 then "0" else "").toList =
      List.replicate (2 - (toString (cents % 100)).length) '0' := by
  have fits : (toString (cents % 100)).length ≤ 2 :=
    (Nat.length_repr_le_iff (by decide)).mpr (Nat.mod_lt _ (by decide))
  have some_digit : 0 < (toString (cents % 100)).length := Nat.length_repr_pos
  split
  · have single : (toString (cents % 100)).length = 1 := by omega
    rw [single]
    rfl
  · have double : (toString (cents % 100)).length = 2 := by omega
    rw [double]
    rfl

section Amounts

variable {cents : Nat} (small : cents < exactBelow)

include small

theorem amountText_eq : (amountText cents).toList =
    (thousands (cents / 100)).toList ++ ['.'] ++
      (List.replicate (2 - (toString (cents % 100)).length) '0' ++
        (toString (cents % 100)).toList) := by
  simp only [amountText, hundredths_exact small, String.toList_append, cents_digits,
    List.append_assoc]
  rfl

theorem read_amountText :
    Nat.ofDigitChars 10 ((amountText cents).toList.filter Char.isDigit) 0 = cents := by
  have fits : (toString (cents % 100)).length ≤ 2 :=
    (Nat.length_repr_le_iff (by decide)).mpr (Nat.mod_lt _ (by decide))
  have point : ['.'].filter Char.isDigit = [] := rfl
  rw [amountText_eq small, List.filter_append, List.filter_append, List.filter_append, filter_zeros,
    filter_digits, point, List.append_nil, Nat.ofDigitChars_append, read_thousands,
    read_padded fits]
  exact Nat.div_add_mod cents 100

theorem unsigned_amountText : '-' ∉ (amountText cents).toList := by
  rw [amountText_eq small]
  simp only [List.mem_append, not_or]
  refine ⟨⟨fun member => ?_, by decide⟩, fun member => ?_, fun member => ?_⟩
  · rcases thousands_symbols _ _ member with digit | comma
    · exact absurd digit (by decide)
    · exact absurd comma (by decide)
  · exact absurd (List.eq_of_mem_replicate member) (by decide)
  · exact absurd (Delimited.digits_toString _ _ member) (by decide)

end Amounts

/-- A symbol that is no part of the number. -/
def Plain (symbol : String) : Prop := ∀ char ∈ symbol.toList, ¬ char.isDigit ∧ char ≠ '-'

theorem read_moneyText {symbols : List (String × String)} {currency : String} {cents : Int}
    (small : cents.natAbs < exactBelow)
    (plain : Plain ((symbols.lookup currency).getD (currency ++ " "))) :
    readCents (moneyText symbols cents currency) = cents := by
  generalize named : (symbols.lookup currency).getD (currency ++ " ") = symbol at plain
  have silent : symbol.toList.filter Char.isDigit = [] :=
    List.filter_eq_nil_iff.mpr fun char member => (plain char member).1
  have unsigned : '-' ∉ symbol.toList := fun member => (plain '-' member).2 rfl
  have value := read_amountText small
  have positive := unsigned_amountText small
  have minus : "-".toList = ['-'] := rfl
  rw [moneyText, named, signedText, readCents]
  by_cases negative : cents < 0
  · simp [negative, silent, value, minus, abs_of_neg negative]
  · simp [negative, silent, value, unsigned, positive]
    omega

theorem plain_of_alpha {char : Char} (letter : char.isAlpha) : ¬ char.isDigit ∧ char ≠ '-' := by
  constructor
  · intro digit
    simp only [Char.isAlpha, Char.isUpper, Char.isLower, Char.isDigit, Bool.or_eq_true,
      Bool.and_eq_true, decide_eq_true_eq, ge_iff_le, UInt32.le_iff_toNat_le] at letter digit
    simp at letter digit
    omega
  · rintro rfl
    exact absurd letter (by decide)

theorem plain_of_letters {currency : String} (letters : ∀ char ∈ currency.toList, char.isAlpha) :
    Plain (currency ++ " ") := by
  intro char member
  rw [String.toList_append, List.mem_append] at member
  rcases member with letter | blank
  · exact plain_of_alpha (letters char letter)
  · rw [List.mem_singleton.mp blank]
    decide

/-- A table whose symbols are plain gives plain symbols to all currencies. -/
theorem plain_symbol {symbols : List (String × String)} {currency : String}
    (plain : ∀ entry ∈ symbols, Plain entry.2)
    (letters : ∀ char ∈ currency.toList, char.isAlpha) :
    Plain ((symbols.lookup currency).getD (currency ++ " ")) := by
  cases found : symbols.lookup currency with
  | none => exact plain_of_letters letters
  | some symbol =>
      obtain ⟨before, after, same, -⟩ := List.lookup_eq_some_iff.mp found
      exact plain (currency, symbol) (by simp [same])

theorem plain_of_all {symbols : List (String × String)}
    (checked : symbols.all fun entry => entry.2.toList.all fun char => !char.isDigit && char != '-') :
    ∀ entry ∈ symbols, Plain entry.2 := by
  intro entry member char here
  have each := List.all_eq_true.mp (List.all_eq_true.mp checked entry member) char here
  simpa using each

/-- The first amount beyond that is printed as another. -/
example : (ofRatio (exactBelow + 1) 100).times 100 = exactBelow + 2 := by decide +kernel

/-- The manual provider's instructions name the price as it is. -/
theorem _formatMoney_exact {cents : Int} {currency : String} (small : cents.natAbs < exactBelow) :
    _formatMoney cents currency = SynapseSaas.formatMoney cents currency := by
  simp only [_formatMoney, moneyText, signedText, amountText, hundredths_exact small,
    SynapseSaas.formatMoney, String.append_assoc]

end SynapseSaas.Money
