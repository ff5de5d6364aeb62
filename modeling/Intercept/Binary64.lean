/-
This file holds double-precision numbers by their bit patterns and the two exact rules
that turn them into decimal text and back. A finite number is an integer times a power
of two. Its text is the shortest decimal that lies in the interval of reals rounding to
it, found by testing the two neighbours of the number on coarser and finer decimal
grids in exact arithmetic. A decimal is read by rounding an exact quotient to the
nearest number, ties going to the even one.
-/
import Intercept.Text.Digits

namespace Intercept

/-- A double-precision number, given by its bit pattern. -/
structure Binary64 where
  bits : UInt64
deriving DecidableEq

namespace Binary64

/-! ### Fields of the bit pattern -/

/-- Whether the sign bit is set. -/
def negative (value : Binary64) : Bool :=
  1 <<< 63 ≤ value.bits.toNat

/-- The biased exponent. -/
def exponentField (value : Binary64) : Nat :=
  value.bits.toNat / (1 <<< 52) % 2048

/-- The fraction below the leading bit. -/
def fraction (value : Binary64) : Nat :=
  value.bits.toNat % (1 <<< 52)

/-- Whether the pattern is no number at all. -/
def isNaN (value : Binary64) : Bool :=
  value.exponentField = 2047 ∧ value.fraction ≠ 0

/-- Whether the pattern is an infinity. -/
def isInfinite (value : Binary64) : Bool :=
  value.exponentField = 2047 ∧ value.fraction = 0

/-- Whether the pattern is a zero of either sign. -/
def isZero (value : Binary64) : Bool :=
  value.exponentField = 0 ∧ value.fraction = 0

/-- The positive infinity. -/
def infinity : Binary64 := ⟨0x7FF0000000000000⟩

/-- A pattern that is no number. -/
def notANumber : Binary64 := ⟨0x7FF8000000000000⟩

/-- The number with its sign turned around. -/
def negate (value : Binary64) : Binary64 :=
  ⟨value.bits ^^^ 0x8000000000000000⟩

/-- Numeric equality: the two zeros are equal and a pattern that is no number equals
nothing. -/
def equals (left right : Binary64) : Bool :=
  if left.isNaN || right.isNaN then false
  else (left.isZero && right.isZero) || left.bits == right.bits

/-! ### Exact value -/

/-- The integer of a finite magnitude. -/
def significand (value : Binary64) : Nat :=
  if value.exponentField = 0 then value.fraction else value.fraction + 1 <<< 52

/-- The power of two of a finite magnitude. -/
def exponent (value : Binary64) : Int :=
  if value.exponentField = 0 then -1074 else (value.exponentField : Int) - 1075

/-- A positive quotient of naturals. -/
structure Quotient where
  numerator : Nat
  denominator : Nat

/-- A multiple of a power of a base. -/
def Quotient.ofPower (multiple base : Nat) : Int → Quotient
  | .ofNat power => ⟨multiple * base.pow power, 1⟩
  | .negSucc power => ⟨multiple, base.pow (power + 1)⟩

/-- Comparison of two quotients by cross multiplication. -/
def Quotient.compare (left right : Quotient) : Ordering :=
  Ord.compare (left.numerator * right.denominator) (right.numerator * left.denominator)

/-- The product of two quotients. -/
def Quotient.times (left right : Quotient) : Quotient :=
  ⟨left.numerator * right.numerator, left.denominator * right.denominator⟩

/-- The greatest power of ten that does not exceed a positive quotient. -/
def Quotient.decimalExponent (value : Quotient) : Int :=
  let guess : Int := (Text.decimalDigits value.numerator).length -
    (Text.decimalDigits value.denominator).length
  if (Quotient.ofPower 1 10 guess).compare value = .gt then guess - 1 else guess

/-- The reals that round to a finite number: its value and the ends of the interval in
quarters of the last binary place, and whether the ends belong to it. -/
structure Interval where
  quarter : Int
  middle : Nat
  low : Nat
  high : Nat
  closed : Bool

/-- The rounding interval of a finite number. Below a power of two the grid is twice as
fine, so the lower end is nearer there. -/
def interval (value : Binary64) : Interval :=
  let middle := 4 * value.significand
  { quarter := value.exponent - 2
    middle
    low := if value.fraction = 0 ∧ 1 < value.exponentField then middle - 1 else middle - 2
    high := middle + 2
    closed := value.significand % 2 = 0 }

/-- Whether a quotient lies in an interval. -/
def Interval.contains (interval : Interval) (value : Quotient) : Bool :=
  let low := (Quotient.ofPower interval.low 2 interval.quarter).compare value
  let high := value.compare (Quotient.ofPower interval.high 2 interval.quarter)
  (low = .lt ∨ (interval.closed ∧ low = .eq)) ∧ (high = .lt ∨ (interval.closed ∧ high = .eq))

/-! ### The shortest decimal -/

/-- A decimal: an integer times a power of ten. -/
structure Decimal where
  digits : Nat
  power : Int

/-- Drops zeros at the end of a decimal's digits, at most as many as there is fuel. -/
def Decimal.trim : Nat → Decimal → Decimal
  | 0, decimal => decimal
  | fuel + 1, decimal =>
    if decimal.digits ≠ 0 ∧ decimal.digits % 10 = 0 then
      Decimal.trim fuel ⟨decimal.digits / 10, decimal.power + 1⟩
    else decimal

/-- The better of the value's two neighbours on the grid of a power of ten, if one of them
lies in the interval; an exact tie goes up. -/
def neighbour? (interval : Interval) (value : Quotient) (power : Int) : Option Decimal :=
  let scaled := value.times (Quotient.ofPower 1 10 (-power))
  let below := scaled.numerator / scaled.denominator
  let above := below + 1
  let fits (digits : Nat) := interval.contains (Quotient.ofPower digits 10 power)
  let nearerBelow := 2 * (scaled.numerator % scaled.denominator) < scaled.denominator
  match fits below, fits above with
  | true, true => some ⟨if nearerBelow then below else above, power⟩
  | true, false => some ⟨below, power⟩
  | false, true => some ⟨above, power⟩
  | false, false => none

/-- Tries grids of more and more digits; the last grid serves as the answer when no grid
has a hit. -/
def shortestFrom (interval : Interval) (value : Quotient) (power : Int) : Nat → Decimal
  | 0 => ⟨value.numerator / value.denominator, 0⟩
  | grids + 1 =>
    match neighbour? interval value power with
    | some decimal => decimal
    | none => shortestFrom interval value (power - 1) grids

/-- The shortest decimal that reads back as a finite, non-zero magnitude, and the nearest
one among those. Seventeen digits always suffice. -/
def shortest (value : Binary64) : Decimal :=
  let interval := value.interval
  let exact := Quotient.ofPower interval.middle 2 interval.quarter
  (shortestFrom interval exact exact.decimalExponent 18).trim 18

/-- Writes a decimal without an exponent. -/
def Decimal.positional (decimal : Decimal) : List Char :=
  let digits := Text.decimalDigits decimal.digits
  match decimal.power with
  | .ofNat power => digits ++ List.replicate power '0'
  | .negSucc power =>
    let padded := Text.padZeros (power + 2) digits
    let whole := padded.length - (power + 1)
    padded.take whole ++ '.' :: padded.drop whole

/-- The text of a number: shortest digits that read back, never an exponent. -/
def render (value : Binary64) : String :=
  if value.isNaN then "NaN"
  else
    let magnitude :=
      if value.isInfinite then ['i', 'n', 'f']
      else if value.isZero then ['0']
      else value.shortest.positional
    String.ofList (if value.negative then '-' :: magnitude else magnitude)

/-! ### Reading a decimal -/

/-- The quotient rounded to the nearest integer, a half going to the even neighbour. -/
def Quotient.round (value : Quotient) : Nat :=
  let whole := value.numerator / value.denominator
  let twice := 2 * (value.numerator % value.denominator)
  if value.denominator < twice ∨ (twice = value.denominator ∧ whole % 2 = 1) then whole + 1
  else whole

/-- The greatest power of two that does not exceed a positive quotient. -/
def Quotient.binaryExponent (value : Quotient) : Int :=
  let guess : Int := (value.numerator.log2 : Int) - value.denominator.log2
  if (Quotient.ofPower 1 2 guess).compare value = .gt then guess - 1 else guess

/-- The number nearest to a non-negative quotient. -/
def ofQuotient (value : Quotient) : Binary64 :=
  if value.numerator = 0 then ⟨0⟩
  else
    let power := max (value.binaryExponent - 52) (-1074)
    let significand := (value.times (Quotient.ofPower 1 2 (-power))).round
    let pattern := (power + 1074).toNat * (1 <<< 52) + significand
    if infinity.bits.toNat ≤ pattern then infinity else ⟨UInt64.ofNat pattern⟩

/-- The number nearest to an integer times a power of ten. Powers far outside the range are
decided without computing them. -/
def ofDecimal (digits : Nat) (power : Int) : Binary64 :=
  if digits = 0 then ⟨0⟩
  else
    let size : Int := (Text.decimalDigits digits).length + power
    if 400 < size then infinity
    else if size < -400 then ⟨0⟩
    else ofQuotient (Quotient.ofPower digits 10 power)

end Binary64

end Intercept
