/-
This file reads the written form of sets of characters. A set is a sequence of runs, each
given by the number of characters left out before it and the number of characters in
it. Numbers are in base thirty-six and separated by blanks or line ends.
-/
import Intercept.Text.Split

namespace Intercept.Unicode

/-- The value of a digit in base thirty-six; any other character counts as zero. -/
def runDigit (digit : Char) : Nat :=
  if '0' ≤ digit ∧ digit ≤ '9' then digit.toNat - '0'.toNat
  else if 'a' ≤ digit ∧ digit ≤ 'z' then digit.toNat - 'a'.toNat + 10
  else 0

/-- The number that digits in base thirty-six denote. -/
def runNumber (digits : List Char) : Nat :=
  digits.foldl (fun number digit => number * 36 + runDigit digit) 0

/-- A set of characters as ranges of code points, both ends included, in ascending order. -/
abbrev Ranges := List (Nat × Nat)

/-- The ranges of runs that follow a code point. -/
def rangesFrom : Nat → List Nat → Ranges
  | next, skipped :: taken :: rest =>
    (next + skipped, next + skipped + taken - 1) :: rangesFrom (next + skipped + taken) rest
  | _, _ => []

/-- The words of a text, between blanks and line ends. -/
def words (text : String) : List (List Char) :=
  ((Text.cut ' ' text.toList).flatMap (Text.cut '\n')).filter fun word => !word.isEmpty

/-- Reads the written form of a set. -/
def rangesOf (runs : String) : Ranges :=
  rangesFrom 0 ((words runs).map runNumber)

/-- Whether a code point lies in one of the ranges. -/
def inRanges (ranges : Ranges) (code : Nat) : Bool :=
  ranges.any fun range => range.1 ≤ code && code ≤ range.2

/-- Reads entries of code points: dashes inside an entry, blanks or line ends between
entries. -/
def entriesOf (entries : String) : List (List Nat) :=
  (words entries).map fun entry => (Text.cut '-' entry).map runNumber

end Intercept.Unicode
