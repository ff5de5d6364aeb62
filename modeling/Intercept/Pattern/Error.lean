/-
This file holds the reasons why a pattern is refused and the text that reports one. The
report shows the pattern with marks under the place of the fault, and under the earlier
place where the fault is a repetition of something. A pattern of several lines is shown
with line numbers between two rules; a place that spans lines is then named in words.
-/
import Intercept.Pattern.Syntax
import Intercept.Text.Digits

namespace Intercept.Pattern

/-! ### Causes -/

/-- Why a pattern is refused. A cause that repeats something carries its earlier place. -/
inductive Cause where
  | classEscapeInvalid
  | classRangeInvalid
  | classRangeLiteral
  | classUnclosed
  | decimalEmpty
  | decimalInvalid
  | hexEmpty
  | hexInvalid
  | hexInvalidDigit
  | escapeUnexpectedEnd
  | escapeUnrecognized
  | flagDanglingNegation
  | flagDuplicate (earlier : Span)
  | flagRepeatedNegation (earlier : Span)
  | flagUnexpectedEnd
  | flagUnrecognized
  | groupNameDuplicate (earlier : Span)
  | groupNameEmpty
  | groupNameInvalid
  | groupNameUnclosed
  | groupUnclosed
  | groupUnopened
  | nestTooDeep
  | countInvalid
  | countEmpty
  | countUnclosed
  | repetitionMissing
  | wordBoundaryUnclosed
  | wordBoundaryUnrecognized
  | wordBoundaryUnexpectedEnd
  | propertyNameInvalid
  | backreference
  | lookAround
  | unicodeNotAllowed
  | invalidUtf8
  | propertyNotFound
  | propertyValueNotFound
deriving DecidableEq

/-- The words of a cause. -/
def Cause.message : Cause → String
  | .classEscapeInvalid => "invalid escape sequence found in character class"
  | .classRangeInvalid => "invalid character class range, the start must be <= the end"
  | .classRangeLiteral => "invalid range boundary, must be a literal"
  | .classUnclosed => "unclosed character class"
  | .decimalEmpty => "decimal literal empty"
  | .decimalInvalid => "decimal literal invalid"
  | .hexEmpty => "hexadecimal literal empty"
  | .hexInvalid => "hexadecimal literal is not a Unicode scalar value"
  | .hexInvalidDigit => "invalid hexadecimal digit"
  | .escapeUnexpectedEnd => "incomplete escape sequence, reached end of pattern prematurely"
  | .escapeUnrecognized => "unrecognized escape sequence"
  | .flagDanglingNegation => "dangling flag negation operator"
  | .flagDuplicate _ => "duplicate flag"
  | .flagRepeatedNegation _ => "flag negation operator repeated"
  | .flagUnexpectedEnd => "expected flag but got end of regex"
  | .flagUnrecognized => "unrecognized flag"
  | .groupNameDuplicate _ => "duplicate capture group name"
  | .groupNameEmpty => "empty capture group name"
  | .groupNameInvalid => "invalid capture group character"
  | .groupNameUnclosed => "unclosed capture group name"
  | .groupUnclosed => "unclosed group"
  | .groupUnopened => "unopened group"
  | .nestTooDeep => "exceed the maximum number of nested parentheses/brackets (250)"
  | .countInvalid => "invalid repetition count range, the start must be <= the end"
  | .countEmpty => "repetition quantifier expects a valid decimal"
  | .countUnclosed => "unclosed counted repetition"
  | .repetitionMissing => "repetition operator missing expression"
  | .wordBoundaryUnclosed =>
    "special word boundary assertion is either unclosed or contains an invalid character"
  | .wordBoundaryUnrecognized =>
    "unrecognized special word boundary assertion, valid choices are: start, end, start-half " ++
      "or end-half"
  | .wordBoundaryUnexpectedEnd =>
    "found either the beginning of a special word boundary or a bounded repetition on a \\b " ++
      "with an opening brace, but no closing brace"
  | .propertyNameInvalid => "invalid Unicode character class"
  | .backreference => "backreferences are not supported"
  | .lookAround => "look-around, including look-ahead and look-behind, is not supported"
  | .unicodeNotAllowed => "Unicode not allowed here"
  | .invalidUtf8 => "pattern can match invalid UTF-8"
  | .propertyNotFound => "Unicode property not found"
  | .propertyValueNotFound => "Unicode property value not found"

/-- The earlier place that a cause also points at. -/
def Cause.earlier? : Cause → Option Span
  | .flagDuplicate span => some span
  | .flagRepeatedNegation span => some span
  | .groupNameDuplicate span => some span
  | _ => none

/-- A refusal: its cause and its place. -/
structure Refusal where
  cause : Cause
  span : Span

/-! ### Places by line and column -/

/-- A place by line and column, both counted from one. -/
structure Place where
  line : Nat
  column : Nat
deriving DecidableEq

/-- The place after a number of characters. -/
def placeAfter : Nat → Place → List Char → Place
  | 0, place, _ => place
  | _, place, [] => place
  | count + 1, place, char :: rest =>
    if char = '\n' then placeAfter count ⟨place.line + 1, 1⟩ rest
    else placeAfter count ⟨place.line, place.column + 1⟩ rest

/-- A span by the places of its two ends. -/
structure PlacedSpan where
  start : Place
  stop : Place

/-- Finds the places of a span. -/
def Span.place (pattern : List Char) (span : Span) : PlacedSpan :=
  ⟨placeAfter span.start ⟨1, 1⟩ pattern, placeAfter span.stop ⟨1, 1⟩ pattern⟩

/-- Whether a span lies on one line. -/
def PlacedSpan.isOneLine (span : PlacedSpan) : Bool :=
  span.start.line = span.stop.line

/-- The lines of a text, without a carriage return at their ends; text that ends with a line
break has no further line. -/
def splitLines : List Char → List Char → List (List Char)
  | [], current => if current.isEmpty then [] else [current.reverse]
  | '\n' :: rest, current =>
    (match current with
      | '\r' :: shorter => shorter.reverse
      | _ => current.reverse) :: splitLines rest []
  | char :: rest, current => splitLines rest (char :: current)

/-! ### The report -/

/-- The marks under one line, for spans sorted by their start. -/
def marksFrom : Nat → List PlacedSpan → List Char
  | _, [] => []
  | position, span :: rest =>
    let gap := span.start.column - 1 - position
    let width := max 1 (span.stop.column - span.start.column)
    List.replicate gap ' ' ++ List.replicate width '^' ++ marksFrom (position + gap + width) rest

/-- Whether a span comes before another or starts and ends with it. -/
def spanOrder (left right : Span) : Bool :=
  left.start < right.start || (left.start == right.start && left.stop ≤ right.stop)

/-- Lines with the marks under them; `width` is the width of line numbers, zero for none. -/
def notate (width : Nat) (spans : List PlacedSpan) : Nat → List (List Char) → List Char
  | _, [] => []
  | lineNumber, line :: rest =>
    let head :=
      if width = 0 then [' ', ' ', ' ', ' ']
      else
        let digits := Text.decimalDigits lineNumber
        List.replicate (width - digits.length) ' ' ++ digits ++ [':', ' ']
    let here := spans.filter fun span => span.start.line = lineNumber
    let marks :=
      if here.isEmpty then []
      else List.replicate (if width = 0 then 4 else width + 2) ' ' ++ marksFrom 0 here ++ ['\n']
    head ++ line ++ '\n' :: marks ++ notate width spans (lineNumber + 1) rest

/-- The words for a span over several lines. -/
def multiLineNote (span : PlacedSpan) : List Char :=
  ("on line " ++ Text.decimal span.start.line ++ " (column " ++ Text.decimal span.start.column ++
    ") through line " ++ Text.decimal span.stop.line ++ " (column " ++
    Text.decimal (span.stop.column - 1) ++ ")\n").toList

/-- The report of a refusal. -/
def Refusal.report (refusal : Refusal) (pattern : List Char) : String :=
  let spans := (refusal.span :: refusal.cause.earlier?.toList).mergeSort spanOrder
  let placed := spans.map (Span.place pattern)
  let oneLine := placed.filter PlacedSpan.isOneLine
  let lines := splitLines pattern []
  let lineCount := lines.length + (if pattern.getLast? = some '\n' then 1 else 0)
  let width := if lineCount ≤ 1 then 0 else (Text.decimalDigits lineCount).length
  let notated := notate width oneLine 1 lines
  let head := "regex parse error:\n".toList
  let tail := ("error: " ++ refusal.cause.message).toList
  if pattern.contains '\n' then
    let rule := List.replicate 79 '~' ++ ['\n']
    let notes := (placed.filter fun span => !span.isOneLine).flatMap multiLineNote
    String.ofList (head ++ rule ++ notated ++ rule ++ notes ++ tail)
  else String.ofList (head ++ notated ++ tail)

end Intercept.Pattern
