/-
This file measures how much room a pattern takes when it is laid out as an automaton on
the bytes of a text. A character takes one state for each of its bytes, a class takes
room for its ranges, and a counted repetition takes room for every copy of its body.
Patterns that would take too much room are refused, and the measure says which ones.
-/
import Intercept.Pattern.Matching

namespace Intercept.Pattern

/-- The room of one state, in bytes. -/
def stateRoom : Nat := 32

/-- The room of one way out of a state. -/
def branchRoom : Nat := 8

/-- The most room that a pattern may take: ten mebibytes. -/
def roomLimit : Nat := 10 * 1024 * 1024

/-- The room of a range: one way out if it is a range of bytes, else a second one for the bytes
before the last. -/
def rangeRoom (range : Nat × Nat) : Nat :=
  if range.2 < 128 then branchRoom else 2 * branchRoom

/-- The room of the ranges of a set. A complement reaches over all lengths of characters, for
which it takes ten states; a change of case doubles what there is. -/
def CharClass.room : CharClass → Nat
  | .ranges listed => (listed.map rangeRoom).sum
  | .union left right => left.room + right.room
  | .intersection left right => left.room + right.room
  | .difference left right => left.room + right.room
  | .symmetricDifference left right => left.room + right.room
  | .complement body => 10 * stateRoom + body.room
  | .foldCase body => 2 * body.room
  | .foldAsciiCase body => 2 * body.room

/-- The room of a set as a step of a pattern. -/
def CharClass.stepRoom : CharClass → Nat
  | .ranges [(low, high)] =>
    if low = high then stateRoom * (Char.ofNat low).utf8Size
    else stateRoom + rangeRoom (low, high)
  | set => stateRoom + set.room

/-- The room of a matcher. -/
def Matcher.room : Matcher → Nat
  | .empty => stateRoom
  | .set members => members.stepRoom
  | .look _ => stateRoom
  | .concat first .empty => first.room
  | .concat first second => first.room + second.room
  | .alternation first second => branchRoom + first.room + second.room
  | .repetition least none body => stateRoom + max least 1 * body.room
  | .repetition least (some most) body => most * body.room + (most - least) * stateRoom

/-- Whether a matcher takes no more room than it may. -/
def Matcher.fits (matcher : Matcher) : Bool :=
  matcher.room ≤ roomLimit

end Intercept.Pattern
