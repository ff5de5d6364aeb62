/-
This file says what a pattern matches. A text of n characters has n + 1 places, and a set
of places is a list of n + 1 marks. Each piece of a pattern carries the set of places
where it may start to the set of places where it may end: a set of characters moves
the marks one place on, an assertion keeps some of them, a repetition applies its body
until nothing new is reached. A pattern matches a text if some place can be reached from
some place.
-/
import Intercept.Pattern.CharClass

namespace Intercept.Pattern

/-- Assertions with the options that bear on them settled. -/
inductive Look where
  | start
  | stop
  | startLine
  | endLine
  | startLineCrlf
  | endLineCrlf
  | wordBoundary (unicode : Bool)
  | notWordBoundary (unicode : Bool)
  | wordStart (unicode : Bool)
  | wordEnd (unicode : Bool)
  | wordStartHalf (unicode : Bool)
  | wordEndHalf (unicode : Bool)

/-- A pattern reduced to what it matches. -/
inductive Matcher where
  | empty
  | set (set : CharClass)
  | look (look : Look)
  | concat (first second : Matcher)
  | alternation (first second : Matcher)
  | repetition (least : Nat) (most : Option Nat) (body : Matcher)

/-! ### Places -/

/-- The characters on the two sides of a place. -/
abbrev Surroundings := Option Char × Option Char

/-- The surroundings of all places, after a character that stands before the text. -/
def surroundings : Option Char → List Char → List Surroundings
  | before, [] => [(before, none)]
  | before, char :: rest => (before, some char) :: surroundings (some char) rest

/-- Whether a neighbour is a word character. -/
def isWord (unicode : Bool) : Option Char → Bool
  | none => false
  | some char =>
    if unicode then Unicode.isWordCharacter char
    else Unicode.inRanges (CharClass.asciiRanges .word) char.toNat

/-- Whether an assertion holds at a place. -/
def Look.holds (look : Look) (place : Surroundings) : Bool :=
  let (before, after) := place
  match look with
  | .start => before.isNone
  | .stop => after.isNone
  | .startLine => before.isNone || before == some '\n'
  | .endLine => after.isNone || after == some '\n'
  | .startLineCrlf =>
    before.isNone || before == some '\n' || (before == some '\r' && after != some '\n')
  | .endLineCrlf =>
    after.isNone || after == some '\r' || (after == some '\n' && before != some '\r')
  | .wordBoundary unicode => isWord unicode before != isWord unicode after
  | .notWordBoundary unicode => isWord unicode before == isWord unicode after
  | .wordStart unicode => !isWord unicode before && isWord unicode after
  | .wordEnd unicode => isWord unicode before && !isWord unicode after
  | .wordStartHalf unicode => !isWord unicode before
  | .wordEndHalf unicode => !isWord unicode after

/-! ### Marks -/

/-- A set of places, one mark for each place in order. -/
abbrev Marks := List Bool

/-- The places in either set. -/
def Marks.union (left right : Marks) : Marks :=
  List.zipWith (· || ·) left right

/-- Moves the marks before members of a set one place on. -/
def Marks.advance (text : List Char) (set : CharClass) (marks : Marks) : Marks :=
  false :: List.zipWith (fun mark char => mark && set.contains char) marks text

/-- Keeps the marks where an assertion holds. -/
def Marks.keep (text : List Char) (look : Look) (marks : Marks) : Marks :=
  List.zipWith (fun mark place => mark && look.holds place) marks (surroundings none text)

/-- Applies a step a number of times, or until it changes nothing. -/
def repeatStep (step : Marks → Marks) : Nat → Marks → Marks
  | 0, marks => marks
  | count + 1, marks =>
    let next := step marks
    if next = marks then marks else repeatStep step count next

/-- The places where a piece may end when it starts at a marked place. A repetition reaches
nothing new once it has run one time more than there are characters, so larger counts are
cut down to that. -/
def Matcher.reach (text : List Char) : Matcher → Marks → Marks
  | .empty, marks => marks
  | .set members, marks => marks.advance text members
  | .look assertion, marks => marks.keep text assertion
  | .concat first second, marks => second.reach text (first.reach text marks)
  | .alternation first second, marks =>
    (first.reach text marks).union (second.reach text marks)
  | .repetition least most body, marks =>
    let bound := text.length + 1
    let required := repeatStep (body.reach text) (min least bound) marks
    let further := match most with
      | none => bound
      | some most => min (most - least) bound
    repeatStep (fun reached => Marks.union reached (body.reach text reached)) further required

/-- Whether a matcher matches somewhere in a text. -/
def Matcher.matchesText (matcher : Matcher) (text : String) : Bool :=
  let chars := text.toList
  (matcher.reach chars (List.replicate (chars.length + 1) true)).any id

end Intercept.Pattern
