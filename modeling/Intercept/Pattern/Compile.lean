/-
This file gives a written pattern its meaning. Flags are in force from where they are
set to the end of their group. What cannot be given a meaning is refused: a property
that is not known, a Unicode class where Unicode is switched off, and anything that
could match bytes which are not UTF-8. A pattern that takes too much room is refused
last.
-/
import Intercept.Pattern.Parser
import Intercept.Pattern.Size

namespace Intercept.Pattern

/-- The options in force. -/
structure Options where
  caseInsensitive : Bool := false
  multiLine : Bool := false
  dotMatchesNewLine : Bool := false
  unicode : Bool := true
  crlf : Bool := false

/-- Sets the options that a list of flags mentions. -/
def Options.apply (options : Options) (items : FlagItems) : Options :=
  let state (flag : Flag) (now : Bool) := (flagState flag items true).getD now
  { caseInsensitive := state .caseInsensitive options.caseInsensitive
    multiLine := state .multiLine options.multiLine
    dotMatchesNewLine := state .dotMatchesNewLine options.dotMatchesNewLine
    unicode := state .unicode options.unicode
    crlf := state .crlf options.crlf }

/-! ### Classes -/

/-- Closes a set under change of case if case is ignored. -/
def Options.fold (options : Options) (set : CharClass) : CharClass :=
  if options.caseInsensitive then
    if options.unicode then .foldCase set else .foldAsciiCase set
  else set

/-- Complements a set if it is negated. -/
def negateIf (negated : Bool) (set : CharClass) : CharClass :=
  if negated then .complement set else set

/-- Refuses a set of bytes that reaches past ASCII. -/
def Options.checkBytes (options : Options) (span : Span) (set : CharClass) :
    Except Refusal CharClass :=
  if ¬ options.unicode ∧ ¬ set.isAscii then .error ⟨.invalidUtf8, span⟩ else .ok set

/-- The set of an escaped class. -/
def Options.shorthandClass (options : Options) (span : Span) (kind : ShorthandKind)
    (negated : Bool) : Except Refusal CharClass :=
  let ranges := CharClass.shorthandRanges options.unicode kind
  options.checkBytes span (negateIf negated (.ranges ranges))

/-- The set of a property class. -/
def Options.propertyClass (options : Options) (span : Span) (query : PropertyQuery)
    (negated : Bool) : Except Refusal CharClass :=
  if ¬ options.unicode then .error ⟨.unicodeNotAllowed, span⟩
  else
    let (found, unequal) := match query with
      | .single name => (Unicode.setOfName name, false)
      | .valued property value unequal => (Unicode.setOfValue property value, unequal)
    match found with
    | .ok ranges => .ok (negateIf (negated != unequal) (options.fold (.ranges ranges)))
    | .error .unknownProperty => .error ⟨.propertyNotFound, span⟩
    | .error .unknownValue => .error ⟨.propertyValueNotFound, span⟩

/-- The character of a literal inside a class; a set of bytes has room for ASCII and, before
it is checked, for escaped bytes. -/
def Options.classChar (options : Options) (literal : Literal) : Except Refusal Char :=
  if options.unicode ∨ literal.char.toNat < 128 then .ok literal.char
  else if literal.byteEscape then .error ⟨.invalidUtf8, literal.span⟩
  else .error ⟨.unicodeNotAllowed, literal.span⟩

mutual

/-- The set of a class item. -/
def Options.classItem (options : Options) : ClassItem → Except Refusal CharClass
  | .literal char => do return .single (← options.classChar char)
  | .range low high => do
    let low ← options.classChar low
    let high ← options.classChar high
    return .ranges [(low.toNat, high.toNat)]
  | .ascii span kind negated =>
    options.checkBytes span
      (negateIf negated (options.fold (.ranges (CharClass.asciiRanges kind))))
  | .shorthand span kind negated => options.shorthandClass span kind negated
  | .property span query negated => options.propertyClass span query negated
  | .bracketed span negated content => do
    let set ← options.classItem content
    options.checkBytes span (negateIf negated (options.fold set))
  | .union _ items => options.classItems items
  | .operation _ operator left right => do
    let left := options.fold (← options.classItem left)
    let right := options.fold (← options.classItem right)
    match operator with
    | .intersection => return .intersection left right
    | .difference => return .difference left right
    | .symmetricDifference => return .symmetricDifference left right

/-- The union of the sets of class items. -/
def Options.classItems (options : Options) : List ClassItem → Except Refusal CharClass
  | [] => return .nothing
  | item :: rest => do
    let first ← options.classItem item
    return .union first (← options.classItems rest)

end

/-! ### Patterns -/

/-- The matcher of a literal. -/
def Options.literal (options : Options) (literal : Literal) : Except Refusal Matcher :=
  if ¬ options.unicode ∧ literal.byteEscape ∧ 128 ≤ literal.char.toNat then
    .error ⟨.invalidUtf8, literal.span⟩
  else .ok (.set (options.fold (.single literal.char)))

/-- The matcher of the dot. -/
def Options.dot (options : Options) (span : Span) : Except Refusal Matcher :=
  if ¬ options.unicode then .error ⟨.invalidUtf8, span⟩
  else
    let excluded : Unicode.Ranges :=
      if options.dotMatchesNewLine then []
      else if options.crlf then [(10, 10), (13, 13)]
      else [(10, 10)]
    .ok (.set (.complement (.ranges excluded)))

/-- The assertion that is meant by a written one. -/
def Options.look (options : Options) : AssertionKind → Look
  | .startLine =>
    if options.multiLine then (if options.crlf then .startLineCrlf else .startLine) else .start
  | .endLine =>
    if options.multiLine then (if options.crlf then .endLineCrlf else .endLine) else .stop
  | .startText => .start
  | .endText => .stop
  | .wordBoundary => .wordBoundary options.unicode
  | .notWordBoundary => .notWordBoundary options.unicode
  | .wordStart => .wordStart options.unicode
  | .wordEnd => .wordEnd options.unicode
  | .wordStartHalf => .wordStartHalf options.unicode
  | .wordEndHalf => .wordEndHalf options.unicode

mutual

/-- The matcher of a tree, and the options in force after it. -/
def Tree.compile (options : Options) : Tree → Except Refusal (Matcher × Options)
  | .empty => return (.empty, options)
  | .flags items => return (.empty, options.apply items)
  | .literal char => do return (← options.literal char, options)
  | .dot span => do return (← options.dot span, options)
  | .assertion _ kind => return (.look (options.look kind), options)
  | .shorthand span kind negated => do
    return (.set (← options.shorthandClass span kind negated), options)
  | .property span query negated => do
    return (.set (← options.propertyClass span query negated), options)
  | .bracketed span negated content => do
    let set ← options.classItem content
    return (.set (← options.checkBytes span (negateIf negated (options.fold set))), options)
  | .repetition _ least most body => do
    let (matcher, after) ← body.compile options
    return (.repetition least most matcher, after)
  | .group _ items body => do
    let (matcher, _) ← body.compile (options.apply items)
    return (matcher, options)
  | .alternation _ branches => Tree.compileBranches options branches
  | .concat _ parts => Tree.compileParts options parts

/-- The matcher of parts in sequence. -/
def Tree.compileParts (options : Options) : List Tree → Except Refusal (Matcher × Options)
  | [] => return (.empty, options)
  | part :: rest => do
    let (first, options) ← part.compile options
    let (second, options) ← Tree.compileParts options rest
    return (.concat first second, options)

/-- The matcher of alternatives. Flags set in one are in force in those after it. -/
def Tree.compileBranches (options : Options) : List Tree → Except Refusal (Matcher × Options)
  | [] => return (.set .nothing, options)
  | branch :: rest => do
    let (first, options) ← branch.compile options
    let (second, options) ← Tree.compileBranches options rest
    return (.alternation first second, options)

end

end Intercept.Pattern

namespace Intercept

/-- A pattern that can be matched, with the text that it was written as. -/
structure Pattern where
  source : String
  matcher : Pattern.Matcher

namespace Pattern

/-- The report on a pattern that takes too much room. -/
def tooLarge : String :=
  "Compiled regex exceeds size limit of " ++ Text.decimal roomLimit ++ " bytes."

/-- Reads a pattern and gives it its meaning; a refusal comes as its report. -/
def compile (source : String) : Except String Pattern :=
  let chars := source.toList
  match Tree.parse chars with
  | .error refusal => .error (refusal.report chars)
  | .ok tree =>
    match tree.compile {} with
    | .error refusal => .error (refusal.report chars)
    | .ok (matcher, _) => if matcher.fits then .ok ⟨source, matcher⟩ else .error tooLarge

/-- Whether a pattern matches somewhere in a text. -/
def isMatch (pattern : Pattern) (text : String) : Bool :=
  pattern.matcher.matchesText text

end Pattern

end Intercept
