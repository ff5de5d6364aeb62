/-
This file reads numerals back. The digits that a number is written with denote this number, in
every base up to sixteen, and zeros in front of them change nothing. So different numbers have
different numerals. A numeral consists of digits, behind a minus sign if the number is negative.
-/
import Intercept.Text.Digits
import Mathlib.Tactic.IntervalCases
import Mathlib.Logic.Function.Basic

namespace Intercept.Text

/-! ### Numbers from their digits -/

theorem digitIn?_digitChar {base digit : Nat} (within : digit < base) (small : base ≤ 16) :
    digitIn? base digit.digitChar = some digit := by
  have reads : digitValue? digit.digitChar = some digit := by
    have bounded := Nat.lt_of_lt_of_le within small
    interval_cases digit <;> rfl
  rw [digitIn?, reads]
  exact Option.filter_some_pos (decide_eq_true within)

theorem number_concat (base : Nat) (digits : List Char) (last : Char) :
    number base (digits ++ [last]) = number base digits * base + (digitIn? base last).getD 0 := by
  simp only [number, numberFrom, List.foldl_append, List.foldl_cons, List.foldl_nil]

/-- The digits of a number denote it. -/
theorem number_toDigits {base : Nat} (proper : 1 < base) (small : base ≤ 16) (value : Nat) :
    number base (Nat.toDigits base value) = value := by
  induction value using Nat.strong_induction_on with
  | _ value inductionHypothesis =>
    rcases Nat.lt_or_ge value base with single | more
    · rw [Nat.toDigits_of_lt_base single, ← List.nil_append [value.digitChar], number_concat,
        digitIn?_digitChar single small]
      exact (congrArg (· + value) (Nat.zero_mul base)).trans (Nat.zero_add value)
    · have positive := Nat.lt_of_lt_of_le (Nat.zero_lt_of_lt proper) more
      rw [Nat.toDigits_of_base_le proper more, number_concat,
        inductionHypothesis _ (Nat.div_lt_self positive proper),
        digitIn?_digitChar (Nat.mod_lt _ (Nat.zero_lt_of_lt proper)) small]
      exact Nat.div_add_mod' value base

/-- A numeral consists of the digits of its base. -/
theorem exists_digit_of_mem_toDigits {base : Nat} (proper : 1 < base) {value : Nat} {char : Char}
    (isDigit : char ∈ Nat.toDigits base value) : ∃ digit < base, char = digit.digitChar := by
  induction value using Nat.strong_induction_on with
  | _ value inductionHypothesis =>
    rcases Nat.lt_or_ge value base with single | more
    · rw [Nat.toDigits_of_lt_base single] at isDigit
      exact ⟨value, single, List.mem_singleton.mp isDigit⟩
    · rw [Nat.toDigits_of_base_le proper more] at isDigit
      rcases List.mem_append.mp isDigit with isHigher | isLast
      · have positive := Nat.lt_of_lt_of_le (Nat.zero_lt_of_lt proper) more
        exact inductionHypothesis _ (Nat.div_lt_self positive proper) isHigher
      · exact ⟨value % base, Nat.mod_lt _ (Nat.zero_lt_of_lt proper), List.mem_singleton.mp isLast⟩

theorem number_decimalDigits (value : Nat) : number 10 (decimalDigits value) = value :=
  number_toDigits (by decide) (by decide) value

theorem number_hexDigits (value : Nat) : number 16 (hexDigits value) = value :=
  number_toDigits (by decide) (by decide) value

/-- Zeros in front change nothing. -/
theorem number_padZeros {base : Nat} (proper : 0 < base) (small : base ≤ 16) (width : Nat)
    (digits : List Char) : number base (padZeros width digits) = number base digits := by
  have zero : digitIn? base '0' = some 0 := digitIn?_digitChar proper small
  have zeros (count : Nat) : numberFrom base 0 (List.replicate count '0') = 0 := by
    induction count with
    | zero => rfl
    | succ count inductionHypothesis =>
      rw [List.replicate_succ, numberFrom, List.foldl_cons, zero, Nat.zero_mul]
      exact inductionHypothesis
  rw [padZeros, number, numberFrom, List.foldl_append, ← numberFrom, ← numberFrom, zeros, number]

/-- Padding fills a numeral up to the width, if it is not longer already. -/
theorem length_padZeros {width : Nat} {digits : List Char} (fits : digits.length ≤ width) :
    (padZeros width digits).length = width := by
  rw [padZeros, List.length_append, List.length_replicate, Nat.sub_add_cancel fits]

/-! ### Integers -/

theorem decimalDigits_injective : Function.Injective decimalDigits :=
  Function.LeftInverse.injective (g := number 10) number_decimalDigits

/-- Whether a character occurs in decimal numerals. -/
def isNumeral (char : Char) : Bool :=
  char.isDigit || char = '-'

theorem isDigit_of_mem_decimalDigits {value : Nat} {char : Char}
    (isDigit : char ∈ decimalDigits value) : char.isDigit :=
  Nat.isDigit_of_mem_toDigits (by decide) (by decide) isDigit

theorem isNumeral_of_mem_signedDigits {value : Int} {char : Char}
    (isDigit : char ∈ signedDigits value) : isNumeral char := by
  unfold isNumeral
  cases value with
  | ofNat value => rw [isDigit_of_mem_decimalDigits isDigit, Bool.true_or]
  | negSucc value =>
    rcases List.mem_cons.mp isDigit with rfl | isDigit
    · rfl
    · rw [isDigit_of_mem_decimalDigits isDigit, Bool.true_or]

theorem signedDigits_injective : Function.Injective signedDigits := by
  -- A minus sign is no digit, so it tells negative numbers from the others.
  have unsigned {value other : Nat} : decimalDigits value ≠ '-' :: decimalDigits other :=
    fun same => absurd (isDigit_of_mem_decimalDigits (same ▸ List.mem_cons_self)) (by decide)
  intro first second same
  cases first with
  | ofNat first =>
    cases second with
    | ofNat second => rw [decimalDigits_injective same]
    | negSucc second => exact absurd same unsigned
  | negSucc first =>
    cases second with
    | ofNat second => exact absurd same.symm unsigned
    | negSucc second =>
      obtain ⟨-, same⟩ := List.cons.inj same
      rw [Nat.succ.inj (decimalDigits_injective same)]

theorem signedDigits_ne_nil (value : Int) : signedDigits value ≠ [] := by
  cases value with
  | ofNat value => exact Nat.toDigits_ne_nil
  | negSucc value => exact List.cons_ne_nil _ _

end Intercept.Text
