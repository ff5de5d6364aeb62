/-
This file writes numbers as text: decimal and lower-case hexadecimal digits of a
natural number, the decimal text of an integer, and a fixed number of hexadecimal
places. It also reads decimal and hexadecimal digits back into numbers.
-/

namespace Intercept.Text

/-! ### Writing digits -/

/-- The decimal digits of a number, most significant first. -/
def decimalDigits (number : Nat) : List Char :=
  Nat.toDigits 10 number

/-- The lower-case hexadecimal digits of a number, most significant first. -/
def hexDigits (number : Nat) : List Char :=
  Nat.toDigits 16 number

/-- The decimal text of a natural number. -/
def decimal (number : Nat) : String :=
  String.ofList (decimalDigits number)

/-- The decimal digits of an integer, with a minus sign in front of a negative one. -/
def signedDigits : Int → List Char
  | .ofNat number => decimalDigits number
  | .negSucc number => '-' :: decimalDigits (number + 1)

/-- The decimal text of an integer. -/
def signedDecimal (number : Int) : String :=
  String.ofList (signedDigits number)

/-- The lower-case hexadecimal text of a number. -/
def hex (number : Nat) : String :=
  String.ofList (hexDigits number)

/-- The upper-case hexadecimal digits of a number. -/
def upperHexDigits (number : Nat) : List Char :=
  (hexDigits number).map Char.toUpper

/-- Pads digits with zeros in front up to a width; longer digits stay as they are. -/
def padZeros (width : Nat) (digits : List Char) : List Char :=
  List.replicate (width - digits.length) '0' ++ digits

/-! ### Reading digits -/

/-- The value of one hexadecimal digit of either case. -/
def digitValue? (digit : Char) : Option Nat :=
  if '0' ≤ digit ∧ digit ≤ '9' then some (digit.toNat - '0'.toNat)
  else if 'a' ≤ digit ∧ digit ≤ 'f' then some (digit.toNat - 'a'.toNat + 10)
  else if 'A' ≤ digit ∧ digit ≤ 'F' then some (digit.toNat - 'A'.toNat + 10)
  else none

/-- The value of one digit in a base up to sixteen. -/
def digitIn? (base : Nat) (digit : Char) : Option Nat :=
  (digitValue? digit).filter (· < base)

/-- Whether a character is a digit of a base up to sixteen. -/
def isDigitIn (base : Nat) (digit : Char) : Bool :=
  (digitIn? base digit).isSome

/-- The number that digits of a base denote, continuing from a number read so far;
characters that are no digits count as zero. -/
def numberFrom (base : Nat) (start : Nat) (digits : List Char) : Nat :=
  digits.foldl (fun number digit => number * base + (digitIn? base digit).getD 0) start

/-- The number that digits of a base denote. -/
def number (base : Nat) (digits : List Char) : Nat :=
  numberFrom base 0 digits

/-- Reads a non-empty run of digits that fills the whole text. -/
def number? (base : Nat) (digits : List Char) : Option Nat :=
  if digits.isEmpty ∨ ¬ digits.all (isDigitIn base) then none else some (number base digits)

end Intercept.Text
