/-
This file holds patterns as they are written: literals, classes, assertions, groups,
repetitions and alternatives, each with the span of the text it was read from, so that
a later stage can still point at what it refuses.
-/

namespace Intercept.Pattern

/-- A stretch of a pattern, by the numbers of characters before its start and its end. -/
structure Span where
  start : Nat
  stop : Nat
deriving DecidableEq

/-- A single character as written. A two-digit hexadecimal escape can also mean a byte. -/
structure Literal where
  span : Span
  char : Char
  byteEscape : Bool

/-- The options that a pattern can switch. -/
inductive Flag where
  | caseInsensitive
  | multiLine
  | dotMatchesNewLine
  | swapGreed
  | unicode
  | crlf
  | ignoreWhitespace
deriving DecidableEq

/-- A list of flags as written: `none` is the sign that switches off what follows it. -/
abbrev FlagItems := List (Option Flag)

/-- What a list of flags says about one flag, the last mention deciding. -/
def flagState (flag : Flag) : FlagItems → Bool → Option Bool
  | [], _ => none
  | none :: rest, _ => flagState flag rest false
  | some other :: rest, on =>
    match flagState flag rest on with
    | some state => some state
    | none => if other = flag then some on else none

/-- Assertions about a place between two characters. -/
inductive AssertionKind where
  | startLine
  | endLine
  | startText
  | endText
  | wordBoundary
  | notWordBoundary
  | wordStart
  | wordEnd
  | wordStartHalf
  | wordEndHalf
deriving DecidableEq

/-- The classes with one-letter escapes. -/
inductive ShorthandKind where
  | digit
  | space
  | word
deriving DecidableEq

/-- The named classes of ASCII characters. -/
inductive AsciiKind where
  | alnum | alpha | ascii | blank | cntrl | digit | graph | lower | print | punct | space
  | upper | word | xdigit
deriving DecidableEq

/-- A class that is asked for by the name of a property. -/
inductive PropertyQuery where
  | single (name : List Char)
  | valued (property value : List Char) (unequal : Bool)

/-- The operators between classes. -/
inductive ClassOperator where
  | intersection
  | difference
  | symmetricDifference
deriving DecidableEq

/-- What stands inside brackets. -/
inductive ClassItem where
  | literal (literal : Literal)
  | range (low high : Literal)
  | ascii (span : Span) (kind : AsciiKind) (negated : Bool)
  | shorthand (span : Span) (kind : ShorthandKind) (negated : Bool)
  | property (span : Span) (query : PropertyQuery) (negated : Bool)
  | bracketed (span : Span) (negated : Bool) (content : ClassItem)
  | union (span : Span) (items : List ClassItem)
  | operation (span : Span) (operator : ClassOperator) (left right : ClassItem)

/-- The place of a class item in the pattern. -/
def ClassItem.span : ClassItem → Span
  | .literal char => char.span
  | .range low high => ⟨low.span.start, high.span.stop⟩
  | .ascii span _ _ => span
  | .shorthand span _ _ => span
  | .property span _ _ => span
  | .bracketed span _ _ => span
  | .union span _ => span
  | .operation span _ _ _ => span

/-- A pattern as written. -/
inductive Tree where
  | empty
  | flags (items : FlagItems)
  | literal (literal : Literal)
  | dot (span : Span)
  | assertion (span : Span) (kind : AssertionKind)
  | shorthand (span : Span) (kind : ShorthandKind) (negated : Bool)
  | property (span : Span) (query : PropertyQuery) (negated : Bool)
  | bracketed (span : Span) (negated : Bool) (content : ClassItem)
  | repetition (span : Span) (least : Nat) (most : Option Nat) (body : Tree)
  /-- A group, with the flags that it sets for its body. -/
  | group (span : Span) (items : FlagItems) (body : Tree)
  | alternation (span : Span) (branches : List Tree)
  | concat (span : Span) (parts : List Tree)

/-- Whether a tree gives a repetition nothing to repeat. -/
def Tree.isUnrepeatable : Tree → Bool
  | .empty => true
  | .flags _ => true
  | _ => false

end Intercept.Pattern
