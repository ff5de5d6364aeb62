/-
This file reads a pattern into a tree or refuses it with the place of the first fault. The
reader walks the text once. Open groups wait on a stack, each with the parts read before
it, and open classes wait on another. With blanks ignored, white space and comments are
skipped between the parts and inside escapes and counts.
-/
import Intercept.Pattern.Error
import Intercept.Unicode.Property

namespace Intercept.Pattern

/-! ### The state of the reader -/

/-- What is left to read, where it starts, whether blanks are ignored, and the names of the
groups so far. -/
structure ReaderState where
  rest : List Char
  offset : Nat := 0
  ignoreBlanks : Bool := false
  names : List (List Char × Span) := []

/-- A step of the reader, which may refuse the pattern. -/
abbrev Reader := StateT ReaderState (Except Refusal)

namespace Reader

/-- Refuses the pattern. -/
def refuse {α : Type} (cause : Cause) (span : Span) : Reader α :=
  throw ⟨cause, span⟩

/-- The number of characters read. -/
def position : Reader Nat :=
  return (← get).offset

/-- The next character. -/
def peek : Reader (Option Char) :=
  return (← get).rest.head?

/-- The character after the next one. -/
def peekSecond : Reader (Option Char) :=
  return (← get).rest.tail.head?

/-- The empty span before the next character. -/
def spanHere : Reader Span := do
  let here ← position
  return ⟨here, here⟩

/-- The span of the next character. -/
def spanChar : Reader Span := do
  let here ← position
  return ⟨here, here + 1⟩

/-- The span from an earlier place to here. -/
def spanFrom (start : Nat) : Reader Span := do
  return ⟨start, ← position⟩

/-- Passes the next character; the answer says whether another one follows. -/
def bump : Reader Bool := do
  let state ← get
  match state.rest with
  | [] => return false
  | _ :: rest =>
    set { state with rest, offset := state.offset + 1 }
    return !rest.isEmpty

/-- What remains after white space and comments, and the place where it starts. -/
def skipBlanks : Bool → List Char → Nat → List Char × Nat
  | _, [], offset => ([], offset)
  | true, char :: rest, offset => skipBlanks (char ≠ '\n') rest (offset + 1)
  | false, char :: rest, offset =>
    if Unicode.isWhiteSpace char then skipBlanks false rest (offset + 1)
    else if char = '#' then skipBlanks true rest (offset + 1)
    else (char :: rest, offset)

/-- Passes white space and comments, if blanks are ignored. -/
def bumpSpace : Reader Unit := do
  let state ← get
  if state.ignoreBlanks then
    let (rest, offset) := skipBlanks false state.rest state.offset
    set { state with rest, offset }

/-- Passes the next character and the blanks after it; the answer says whether another
character follows. -/
def bumpAndSpace : Reader Bool := do
  if ← bump then
    bumpSpace
    return (← peek).isSome
  else return false

/-- Passes a text if it is next. -/
def bumpIf (text : List Char) : Reader Bool := do
  let state ← get
  if text.isPrefixOf state.rest then
    set { state with rest := state.rest.drop text.length, offset := state.offset + text.length }
    return true
  else return false

/-- The first character that the search past blanks stops at. Inside a comment the search
stops at the first character that is not white space. -/
def afterBlanks : Bool → List Char → Option Char
  | _, [] => none
  | inComment, char :: rest =>
    if Unicode.isWhiteSpace char then afterBlanks inComment rest
    else if ¬ inComment ∧ char = '#' then afterBlanks true rest
    else some char

/-- The character after the next one, blanks apart if they are ignored. -/
def peekSpace : Reader (Option Char) := do
  let state ← get
  if state.ignoreBlanks then return afterBlanks false state.rest.tail
  else return state.rest.tail.head?

/-- An upper bound for the number of steps that the rest of the text allows. -/
def budget : Reader Nat :=
  return (← get).rest.length + 1

/-! ### Decimal counts -/

/-- Passes white space, with or without the blanks after it. -/
def skipWhite (withBlanks : Bool) : Nat → Reader Unit
  | 0 => return
  | fuel + 1 => do
    match ← peek with
    | some char =>
      if Unicode.isWhiteSpace char then
        if withBlanks then discard bumpAndSpace else discard bump
        skipWhite withBlanks fuel
    | none => return

/-- Reads ASCII digits and the blanks after each. -/
def readDigits : Nat → Reader (List Char)
  | 0 => return []
  | fuel + 1 => do
    match ← peek with
    | some char =>
      if Text.isDigitIn 10 char then
        discard bumpAndSpace
        return char :: (← readDigits fuel)
      else return []
    | none => return []

/-- Reads a decimal of 32 bits; the answer is the fault instead, so that the caller can let
another fault come first. -/
def readDecimal : Reader (Except Refusal Nat) := do
  skipWhite false (← budget)
  let start ← position
  let digits ← readDigits (← budget)
  let span ← spanFrom start
  skipWhite true (← budget)
  if digits.isEmpty then return .error ⟨.countEmpty, span⟩
  let value := Text.number 10 digits
  if value < UInt32.size then return .ok value else return .error ⟨.decimalInvalid, span⟩

/-! ### Escapes -/

/-- Characters that mean something on their own. -/
def metaCharacters : List Char :=
  ['\\', '.', '+', '*', '?', '(', ')', '|', '[', ']', '{', '}', '^', '$', '#', '&', '-', '~']

/-- Whether a character may be escaped without need: any ASCII character that is no letter,
no digit and no angle bracket. -/
def isEscapable (char : Char) : Bool :=
  metaCharacters.contains char ||
    (char.toNat < 128 && !char.isAlphanum && char ≠ '<' && char ≠ '>')

/-- Whether a code is a scalar value. -/
def isScalar (code : Nat) : Bool :=
  code < 0xD800 || (0xDFFF < code && code < 0x110000)

/-- Reads a fixed number of hexadecimal digits, the first of which is next. -/
def readHexDigits : Nat → Bool → Reader (List Char)
  | 0, _ => return []
  | count + 1, first => do
    if !first then
      if !(← bumpAndSpace) then refuse .escapeUnexpectedEnd (← spanHere)
    match ← peek with
    | none => refuse .escapeUnexpectedEnd (← spanHere)
    | some char =>
      if Text.isDigitIn 16 char then return char :: (← readHexDigits count false)
      else refuse .hexInvalidDigit (← spanChar)

/-- Reads hexadecimal digits up to a closing brace. -/
def readHexBrace : Nat → Reader (List Char)
  | 0 => return []
  | fuel + 1 => do
    if ← bumpAndSpace then
      match ← peek with
      | none => return []
      | some '}' => return []
      | some char =>
        if Text.isDigitIn 16 char then return char :: (← readHexBrace fuel)
        else refuse .hexInvalidDigit (← spanChar)
    else return []

/-- Reads a hexadecimal escape from its letter on. -/
def readHex (start digits : Nat) : Reader Literal := do
  if !(← bumpAndSpace) then refuse .escapeUnexpectedEnd (← spanHere)
  if (← peek) = some '{' then
    let brace ← position
    let inside := brace + 1
    let text ← readHexBrace (← budget)
    if (← peek).isNone then refuse .escapeUnexpectedEnd (← spanFrom brace)
    let stop ← position
    discard bumpAndSpace
    if text.isEmpty then refuse .hexEmpty (← spanFrom brace)
    let code := Text.number 16 text
    if isScalar code then return ⟨← spanFrom start, Char.ofNat code, false⟩
    else refuse .hexInvalid ⟨inside, stop⟩
  else
    let inside ← position
    let text ← readHexDigits digits true
    discard bumpAndSpace
    let code := Text.number 16 text
    if isScalar code then return ⟨← spanFrom start, Char.ofNat code, digits = 2⟩
    else refuse .hexInvalid (← spanFrom inside)

/-- Reads the characters before a closing brace. -/
def readBraced : Nat → Reader (List Char)
  | 0 => return []
  | fuel + 1 => do
    if ← bumpAndSpace then
      match ← peek with
      | none => return []
      | some '}' => return []
      | some char => return char :: (← readBraced fuel)
    else return []

/-- Splits a property name at the first occurrence of a text. -/
def splitAt? (separator : List Char) : List Char → Option (List Char × List Char)
  | [] => none
  | char :: rest =>
    if separator.isPrefixOf (char :: rest) then some ([], (char :: rest).drop separator.length)
    else (splitAt? separator rest).map fun parts => (char :: parts.1, parts.2)

/-- The question that the text in the braces of a property class asks. -/
def propertyQuery (name : List Char) : PropertyQuery :=
  match splitAt? ['!', '='] name with
  | some (property, value) => .valued property value true
  | none =>
    match splitAt? [':'] name with
    | some (property, value) => .valued property value false
    | none =>
      match splitAt? ['='] name with
      | some (property, value) => .valued property value false
      | none => .single name

/-- Reads a property class from its letter on. -/
def readProperty (start : Nat) : Reader (Span × PropertyQuery) := do
  if !(← bumpAndSpace) then refuse .escapeUnexpectedEnd (← spanHere)
  if (← peek) = some '{' then
    let name ← readBraced (← budget)
    if (← peek).isNone then refuse .escapeUnexpectedEnd (← spanHere)
    discard bump
    return (← spanFrom start, propertyQuery name)
  else
    match ← peek with
    | some '\\' => refuse .propertyNameInvalid (← spanChar)
    | some char =>
      discard bumpAndSpace
      return (← spanFrom start, .single [char])
    | none => refuse .escapeUnexpectedEnd (← spanHere)

/-- Whether a character can stand in the name of a special word boundary. -/
def isBoundaryNameChar (char : Char) : Bool :=
  char.isAlpha || char = '-'

/-- Reads the name of a special word boundary, with the blanks after each character. -/
def readBoundaryName : Nat → Reader (List Char)
  | 0 => return []
  | fuel + 1 => do
    match ← peek with
    | some char =>
      if isBoundaryNameChar char then
        discard bumpAndSpace
        return char :: (← readBoundaryName fuel)
      else return []
    | none => return []

/-- Reads a special word boundary whose opening brace is next. Braces that do not start with
a letter or a dash are left alone: they are a count. -/
def readBoundary? (start : Nat) : Reader (Option AssertionKind) := do
  let saved ← get
  let brace ← position
  if !(← bumpAndSpace) then refuse .wordBoundaryUnexpectedEnd (← spanFrom start)
  let inside ← position
  if !((← peek).any isBoundaryNameChar) then
    set saved
    return none
  let name ← readBoundaryName (← budget)
  if (← peek) ≠ some '}' then refuse .wordBoundaryUnclosed (← spanFrom brace)
  let stop ← position
  discard bump
  match String.ofList name with
  | "start" => return some .wordStart
  | "end" => return some .wordEnd
  | "start-half" => return some .wordStartHalf
  | "end-half" => return some .wordEndHalf
  | _ => refuse .wordBoundaryUnrecognized ⟨inside, stop⟩

/-- A single element of a pattern or of a class. -/
inductive Primitive where
  | literal (literal : Literal)
  | assertion (span : Span) (kind : AssertionKind)
  | dot (span : Span)
  | shorthand (span : Span) (kind : ShorthandKind) (negated : Bool)
  | property (span : Span) (query : PropertyQuery) (negated : Bool)

/-- The place of an element. -/
def Primitive.span : Primitive → Span
  | .literal char => char.span
  | .assertion span _ => span
  | .dot span => span
  | .shorthand span _ _ => span
  | .property span _ _ => span

/-- The tree of an element. -/
def Primitive.tree : Primitive → Tree
  | .literal char => .literal char
  | .assertion span kind => .assertion span kind
  | .dot span => .dot span
  | .shorthand span kind negated => .shorthand span kind negated
  | .property span query negated => .property span query negated

/-- The control characters with one-letter escapes. -/
def controlEscape? : Char → Option Char
  | 'a' => some '\x07'
  | 'f' => some '\x0c'
  | 't' => some '\t'
  | 'n' => some '\n'
  | 'r' => some '\r'
  | 'v' => some '\x0b'
  | _ => none

/-- The assertions with one-letter escapes. -/
def assertionEscape? : Char → Option AssertionKind
  | 'A' => some .startText
  | 'z' => some .endText
  | 'B' => some .notWordBoundary
  | '<' => some .wordStart
  | '>' => some .wordEnd
  | _ => none

/-- The class escapes and whether they are negated. -/
def shorthand? : Char → Option (ShorthandKind × Bool)
  | 'd' => some (.digit, false)
  | 'D' => some (.digit, true)
  | 's' => some (.space, false)
  | 'S' => some (.space, true)
  | 'w' => some (.word, false)
  | 'W' => some (.word, true)
  | _ => none

/-- Reads an escape whose backslash is next. -/
def readEscape : Reader Primitive := do
  let start ← position
  if !(← bump) then refuse .escapeUnexpectedEnd (← spanFrom start)
  match ← peek with
  | none => refuse .escapeUnexpectedEnd (← spanFrom start)
  | some char =>
    if Text.isDigitIn 10 char then refuse .backreference ⟨start, (← position) + 1⟩
    else if char = 'x' then return .literal (← readHex start 2)
    else if char = 'u' then return .literal (← readHex start 4)
    else if char = 'U' then return .literal (← readHex start 8)
    else if char = 'p' ∨ char = 'P' then
      let (span, query) ← readProperty start
      return .property span query (char = 'P')
    else
      discard bump
      let span ← spanFrom start
      match shorthand? char with
      | some (kind, negated) => return .shorthand span kind negated
      | none =>
        if isEscapable char then return .literal ⟨span, char, false⟩
        else
          match controlEscape? char with
          | some control => return .literal ⟨span, control, false⟩
          | none =>
            match assertionEscape? char with
            | some kind => return .assertion span kind
            | none =>
              if char = 'b' then
                if (← peek) = some '{' then
                  match ← readBoundary? start with
                  | some kind => return .assertion (← spanFrom start) kind
                  | none => return .assertion span .wordBoundary
                else return .assertion span .wordBoundary
              else refuse .escapeUnrecognized span

/-- Reads an element outside of classes. -/
def readPrimitive (char : Char) : Reader Primitive := do
  if char = '\\' then readEscape
  else
    let span ← spanChar
    discard bump
    if char = '.' then return .dot span
    else if char = '^' then return .assertion span .startLine
    else if char = '$' then return .assertion span .endLine
    else return .literal ⟨span, char, false⟩

/-! ### Classes -/

/-- The items of a class so far, latest first, and the place they cover. -/
structure Union where
  span : Span
  items : List ClassItem

/-- Adds an item. -/
def Union.push (union : Union) (item : ClassItem) : Union :=
  { span := ⟨if union.items.isEmpty then item.span.start else union.span.start, item.span.stop⟩
    items := item :: union.items }

/-- The items as one; a single item stands for itself. -/
def Union.item (union : Union) : ClassItem :=
  match union.items with
  | [only] => only
  | items => .union union.span items.reverse

/-- What waits while something inside a class is read: an open class with the items around
it, or an operator with its left side. -/
inductive ClassFrame where
  | opened (around : Union) (span : Span) (negated : Bool)
  | operator (operator : ClassOperator) (left : ClassItem)

/-- The fault of a class without its closing bracket: the innermost open one is shown. -/
def refuseUnclosedClass {α : Type} : List ClassFrame → Reader α
  | [] => do refuse .classUnclosed (← spanHere)
  | .opened _ span _ :: _ => refuse .classUnclosed span
  | .operator _ _ :: rest => refuseUnclosedClass rest

/-- Completes an operator that waits for its right side. -/
def completeOperator (right : ClassItem) : List ClassFrame → ClassItem × List ClassFrame
  | .operator operator left :: rest =>
    (.operation ⟨left.span.start, right.span.stop⟩ operator left right, rest)
  | stack => (right, stack)

/-- The names of the ASCII classes. -/
def asciiKind? : String → Option AsciiKind
  | "alnum" => some .alnum
  | "alpha" => some .alpha
  | "ascii" => some .ascii
  | "blank" => some .blank
  | "cntrl" => some .cntrl
  | "digit" => some .digit
  | "graph" => some .graph
  | "lower" => some .lower
  | "print" => some .print
  | "punct" => some .punct
  | "space" => some .space
  | "upper" => some .upper
  | "word" => some .word
  | "xdigit" => some .xdigit
  | _ => none

/-- Reads a named ASCII class whose bracket is next; what is none is left alone. -/
def readAsciiClass? : Reader (Option ClassItem) := do
  let state ← get
  match state.rest with
  | '[' :: ':' :: rest =>
    let (negated, rest) := match rest with
      | '^' :: more => (true, more)
      | _ => (false, rest)
    let name := rest.takeWhile (· ≠ ':')
    match rest.drop name.length with
    | ':' :: ']' :: after =>
      match asciiKind? (String.ofList name) with
      | some kind =>
        let stop := state.offset + (state.rest.length - after.length)
        set { state with rest := after, offset := stop }
        return some (.ascii ⟨state.offset, stop⟩ kind negated)
      | none => return none
    | _ => return none
  | _ => return none

/-- Reads dashes at the start of a class as literals. -/
def readLeadingDashes (start : Nat) : Nat → Union → Reader Union
  | 0, union => return union
  | fuel + 1, union => do
    if (← peek) = some '-' then
      let union := union.push (.literal ⟨← spanChar, '-', false⟩)
      if !(← bumpAndSpace) then refuse .classUnclosed ⟨start, start⟩
      readLeadingDashes start fuel union
    else return union

/-- Reads the opening of a class: the bracket, a negation, and the dashes or the bracket that
count as literals there. -/
def readClassOpening : Reader (Span × Bool × Union) := do
  let start ← position
  if !(← bumpAndSpace) then refuse .classUnclosed (← spanFrom start)
  let negated := (← peek) = some '^'
  if negated then
    if !(← bumpAndSpace) then refuse .classUnclosed (← spanFrom start)
  let union ← readLeadingDashes start (← budget) ⟨← spanHere, []⟩
  if union.items.isEmpty ∧ (← peek) = some ']' then
    let union := union.push (.literal ⟨← spanChar, ']', false⟩)
    if !(← bumpAndSpace) then refuse .classUnclosed (← spanFrom start)
    return (← spanFrom start, negated, union)
  else return (← spanFrom start, negated, union)

/-- Reads one end of a range, or an item on its own. -/
def readClassPrimitive : Reader Primitive := do
  match ← peek with
  | some '\\' => readEscape
  | some char =>
    let span ← spanChar
    discard bump
    return .literal ⟨span, char, false⟩
  | none => refuse .classUnclosed (← spanHere)

/-- An element as an item of a class; assertions have no place there. -/
def Primitive.classItem : Primitive → Reader ClassItem
  | .literal char => return .literal char
  | .shorthand span kind negated => return .shorthand span kind negated
  | .property span query negated => return .property span query negated
  | .assertion span _ => refuse .classEscapeInvalid span
  | .dot span => refuse .classEscapeInvalid span

/-- An element as an end of a range, which only a literal can be. -/
def Primitive.rangeEnd : Primitive → Reader Literal
  | .literal char => return char
  | other => refuse .classRangeLiteral other.span

/-- Reads an item of a class, which may be a range. -/
def readClassRange (stack : List ClassFrame) : Reader ClassItem := do
  let first ← readClassPrimitive
  bumpSpace
  match ← peek with
  | none => refuseUnclosedClass stack
  | some char =>
    let second ← peekSpace
    if char ≠ '-' ∨ second = some ']' ∨ second = some '-' then first.classItem
    else
      if !(← bumpAndSpace) then refuseUnclosedClass stack
      let last ← readClassPrimitive
      let low ← first.rangeEnd
      let high ← last.rangeEnd
      if high.char < low.char then
        refuse .classRangeInvalid ⟨low.span.start, high.span.stop⟩
      return .range low high

/-- The operator that two characters write. -/
def classOperator? : Char → Option Char → Option ClassOperator
  | '&', some '&' => some .intersection
  | '-', some '-' => some .difference
  | '~', some '~' => some .symmetricDifference
  | _, _ => none

/-- Reads a class up to its last closing bracket. -/
def readClassLoop : Nat → List ClassFrame → Union → Reader Tree
  | 0, stack, _ => refuseUnclosedClass stack
  | fuel + 1, stack, union => do
    bumpSpace
    match ← peek with
    | none => refuseUnclosedClass stack
    | some '[' =>
      let ascii ← if stack.isEmpty then pure none else readAsciiClass?
      match ascii with
      | some item => readClassLoop fuel stack (union.push item)
      | none =>
        let (span, negated, nested) ← readClassOpening
        readClassLoop fuel (.opened union span negated :: stack) nested
    | some ']' =>
      let (content, stack) := completeOperator union.item stack
      match stack with
      | .opened around span negated :: rest =>
        discard bump
        let span : Span := ⟨span.start, ← position⟩
        if rest.isEmpty then return .bracketed span negated content
        else readClassLoop fuel rest (around.push (.bracketed span negated content))
      | stack => refuseUnclosedClass stack
    | some char =>
      match classOperator? char (← peekSecond) with
      | some operator =>
        discard bump
        discard bump
        let (left, stack) := completeOperator union.item stack
        readClassLoop fuel (.operator operator left :: stack) ⟨← spanHere, []⟩
      | none => readClassLoop fuel stack (union.push (← readClassRange stack))

/-- Reads a class whose bracket is next. -/
def readClass : Reader Tree := do
  readClassLoop (2 * (← budget)) [] ⟨← spanHere, []⟩

/-! ### Groups -/

/-- The letters of the flags. -/
def flag? : Char → Option Flag
  | 'i' => some .caseInsensitive
  | 'm' => some .multiLine
  | 's' => some .dotMatchesNewLine
  | 'U' => some .swapGreed
  | 'u' => some .unicode
  | 'R' => some .crlf
  | 'x' => some .ignoreWhitespace
  | _ => none

/-- Reads flags up to a colon or a closing parenthesis. The flags so far come with their
places, latest first. -/
def readFlags : Nat → List (Option Flag × Span) → Reader (List (Option Flag × Span))
  | 0, items => return items
  | fuel + 1, items => do
    match ← peek with
    | none => refuse .flagUnexpectedEnd (← spanHere)
    | some char =>
      if char = ':' ∨ char = ')' then return items
      let span ← spanChar
      let item ←
        if char = '-' then pure none
        else
          match flag? char with
          | some flag => pure (some flag)
          | none => refuse .flagUnrecognized span
      match items.reverse.find? fun earlier => earlier.1 = item with
      | some earlier =>
        refuse (if item.isNone then .flagRepeatedNegation earlier.2 else .flagDuplicate earlier.2)
          span
      | none =>
        if !(← bump) then refuse .flagUnexpectedEnd (← spanHere)
        readFlags fuel ((item, span) :: items)

/-- Whether a character can stand in the name of a group. -/
def isNameChar (first : Bool) (char : Char) : Bool :=
  if first then char = '_' || Unicode.isAlphabetic char
  else char = '_' || char = '.' || char = '[' || char = ']' || Unicode.isAlphanumeric char

/-- Reads the name of a group up to its closing bracket. -/
def readNameChars : Nat → Bool → Reader (List Char)
  | 0, _ => return []
  | fuel + 1, first => do
    match ← peek with
    | none => return []
    | some '>' => return []
    | some char =>
      if !isNameChar first char then refuse .groupNameInvalid (← spanChar)
      discard bump
      return char :: (← readNameChars fuel false)

/-- Reads the name of a group and notes it; a name can be used once. -/
def readGroupName : Reader Unit := do
  if (← peek).isNone then refuse .groupNameUnclosed (← spanHere)
  let start ← position
  let name ← readNameChars (← budget) true
  if (← peek).isNone then refuse .groupNameUnclosed (← spanHere)
  let span ← spanFrom start
  discard bump
  if name.isEmpty then refuse .groupNameEmpty ⟨start, start⟩
  match (← get).names.find? fun earlier => earlier.1 = name with
  | some earlier => refuse (.groupNameDuplicate earlier.2) span
  | none => modify fun state => { state with names := (name, span) :: state.names }

/-- What an opening parenthesis begins: flags for the rest of the group around it, or a group
with flags for its own body. -/
inductive Opening where
  | flags (items : FlagItems)
  | group (span : Span) (items : FlagItems)

/-- Reads from an opening parenthesis up to the body of its group. -/
def readOpening : Reader Opening := do
  let span ← spanChar
  discard bump
  bumpSpace
  if ← (do
      if ← bumpIf ['?', '='] then return true
      if ← bumpIf ['?', '!'] then return true
      if ← bumpIf ['?', '<', '='] then return true
      bumpIf ['?', '<', '!']) then
    refuse .lookAround (← spanFrom span.start)
  let inside ← spanHere
  if ← (do
      if ← bumpIf ['?', 'P', '<'] then return true
      bumpIf ['?', '<']) then
    readGroupName
    return .group span []
  else if ← bumpIf ['?'] then
    if (← peek).isNone then refuse .groupUnclosed span
    let items ← readFlags (← budget) []
    match items with
    | (none, dangling) :: _ => refuse .flagDanglingNegation dangling
    | _ =>
      let closing := (← peek) = some ')'
      discard bump
      let flags := items.reverse.map Prod.fst
      if closing then
        if flags.isEmpty then refuse .repetitionMissing inside
        return .flags flags
      else return .group span flags
  else return .group span []

/-! ### The pattern as a whole -/

/-- The place of a tree; trees without a place of their own are never asked for it. -/
def treeSpan : Tree → Span
  | .empty => ⟨0, 0⟩
  | .flags _ => ⟨0, 0⟩
  | .literal char => char.span
  | .dot span => span
  | .assertion span _ => span
  | .shorthand span _ _ => span
  | .property span _ _ => span
  | .bracketed span _ _ => span
  | .repetition span _ _ _ => span
  | .group span _ _ => span
  | .alternation span _ => span
  | .concat span _ => span

/-- The parts of a sequence so far, latest first, and where it starts. -/
structure Sequence where
  start : Nat
  parts : List Tree

/-- The tree of a sequence that ends at a place. -/
def Sequence.tree (sequence : Sequence) (stop : Nat) : Tree :=
  match sequence.parts with
  | [] => .empty
  | [only] => only
  | parts => .concat ⟨sequence.start, stop⟩ parts.reverse

/-- What waits while something inside a group is read: an open group with the sequence before
it, or the alternatives read so far, latest first. -/
inductive GroupFrame where
  | opened (before : Sequence) (span : Span) (items : FlagItems) (ignoreBlanks : Bool)
  | alternatives (start : Nat) (branches : List Tree)

/-- Takes the last part off a sequence as the body of a repetition. -/
def takeRepeated (sequence : Sequence) : Reader (Tree × Sequence) := do
  match sequence.parts with
  | [] => refuse .repetitionMissing (← spanHere)
  | part :: parts =>
    if part.isUnrepeatable then refuse .repetitionMissing (← spanHere)
    return (part, { sequence with parts })

/-- Puts a repetition at the end of a sequence. -/
def pushRepetition (sequence : Sequence) (body : Tree) (least : Nat) (most : Option Nat) :
    Reader Sequence := do
  let span : Span := ⟨(treeSpan body).start, ← position⟩
  return { sequence with parts := .repetition span least most body :: sequence.parts }

/-- Reads a question mark, a star or a plus. -/
def readUncounted (sequence : Sequence) (least : Nat) (most : Option Nat) : Reader Sequence := do
  let (body, sequence) ← takeRepeated sequence
  if ← bump then
    if (← peek) = some '?' then discard bump
  pushRepetition sequence body least most

/-- Reads a count in braces. -/
def readCounted (sequence : Sequence) : Reader Sequence := do
  let start ← position
  let (body, sequence) ← takeRepeated sequence
  if !(← bumpAndSpace) then refuse .countUnclosed (← spanFrom start)
  let first ← readDecimal
  if (← peek).isNone then refuse .countUnclosed (← spanFrom start)
  let (least, most) ← do
    if (← peek) = some ',' then
      if !(← bumpAndSpace) then refuse .countUnclosed (← spanFrom start)
      if (← peek) ≠ some '}' then
        let least ← MonadExcept.ofExcept first
        let most ← MonadExcept.ofExcept (← readDecimal)
        pure (least, some most)
      else
        let least ← MonadExcept.ofExcept first
        pure (least, none)
    else
      let least ← MonadExcept.ofExcept first
      pure (least, some least)
  if (← peek) ≠ some '}' then refuse .countUnclosed (← spanFrom start)
  if ← bumpAndSpace then
    if (← peek) = some '?' then discard bump
  if most.any (· < least) then refuse .countInvalid (← spanFrom start)
  pushRepetition sequence body least most

/-- Closes the innermost group. -/
def closeGroup (sequence : Sequence) (stack : List GroupFrame) :
    Reader (Sequence × List GroupFrame) := do
  let stop ← position
  let close (body : Tree) (before : Sequence) (span : Span) (items : FlagItems)
      (ignoreBlanks : Bool) (rest : List GroupFrame) : Reader (Sequence × List GroupFrame) := do
    discard bump
    modify fun state => { state with ignoreBlanks }
    let group := Tree.group ⟨span.start, ← position⟩ items body
    return ({ before with parts := group :: before.parts }, rest)
  match stack with
  | .opened before span items ignoreBlanks :: rest =>
    close (sequence.tree stop) before span items ignoreBlanks rest
  | .alternatives start branches :: .opened before span items ignoreBlanks :: rest =>
    let body := Tree.alternation ⟨start, stop⟩ (sequence.tree stop :: branches).reverse
    close body before span items ignoreBlanks rest
  | _ => refuse .groupUnopened (← spanChar)

/-- Closes the pattern; a group that is still open is a fault. -/
def closePattern (sequence : Sequence) (stack : List GroupFrame) : Reader Tree := do
  let stop ← position
  match stack with
  | [] => return sequence.tree stop
  | [.alternatives start branches] =>
    return .alternation ⟨start, stop⟩ (sequence.tree stop :: branches).reverse
  | .opened _ span _ _ :: _ => refuse .groupUnclosed span
  | .alternatives _ _ :: .opened _ span _ _ :: _ => refuse .groupUnclosed span
  | .alternatives _ _ :: .alternatives _ _ :: _ => refuse .groupUnclosed (← spanHere)

/-- Adds a branch to the alternatives of the innermost group. -/
def pushBranch (sequence : Sequence) (stop : Nat) : List GroupFrame → List GroupFrame
  | .alternatives start branches :: rest =>
    .alternatives start (sequence.tree stop :: branches) :: rest
  | stack => .alternatives sequence.start [sequence.tree stop] :: stack

/-- Reads the pattern to its end. -/
def readLoop : Nat → List GroupFrame → Sequence → Reader Tree
  | 0, stack, sequence => closePattern sequence stack
  | fuel + 1, stack, sequence => do
    bumpSpace
    match ← peek with
    | none => closePattern sequence stack
    | some '(' =>
      match ← readOpening with
      | .flags items =>
        match flagState .ignoreWhitespace items true with
        | some ignoreBlanks => modify fun state => { state with ignoreBlanks }
        | none => pure ()
        readLoop fuel stack { sequence with parts := .flags items :: sequence.parts }
      | .group span items =>
        let before := (← get).ignoreBlanks
        let inside := (flagState .ignoreWhitespace items true).getD before
        modify fun state => { state with ignoreBlanks := inside }
        readLoop fuel (.opened sequence span items before :: stack) ⟨← position, []⟩
    | some ')' =>
      let (sequence, stack) ← closeGroup sequence stack
      readLoop fuel stack sequence
    | some '|' =>
      let stack := pushBranch sequence (← position) stack
      discard bump
      readLoop fuel stack ⟨← position, []⟩
    | some '[' =>
      let tree ← readClass
      readLoop fuel stack { sequence with parts := tree :: sequence.parts }
    | some '?' => readLoop fuel stack (← readUncounted sequence 0 (some 1))
    | some '*' => readLoop fuel stack (← readUncounted sequence 0 none)
    | some '+' => readLoop fuel stack (← readUncounted sequence 1 none)
    | some '{' => readLoop fuel stack (← readCounted sequence)
    | some char =>
      let element ← readPrimitive char
      readLoop fuel stack { sequence with parts := element.tree :: sequence.parts }

end Reader

/-! ### The limit of nesting -/

/-- How deep groups, classes, repetitions, sequences and alternatives may nest. -/
def nestLimit : Nat := 250

mutual

/-- The first class, in reading order, that nests too deep. -/
def ClassItem.tooDeep? (depth : Nat) : ClassItem → Option Span
  | .bracketed span _ content =>
    if nestLimit ≤ depth then some span else content.tooDeep? (depth + 1)
  | .union span items =>
    if nestLimit ≤ depth then some span else ClassItem.anyTooDeep? (depth + 1) items
  | .operation span _ left right =>
    if nestLimit ≤ depth then some span
    else (left.tooDeep? (depth + 1)).or (right.tooDeep? (depth + 1))
  | _ => none

/-- The first of several classes that nests too deep. -/
def ClassItem.anyTooDeep? (depth : Nat) : List ClassItem → Option Span
  | [] => none
  | item :: rest => (item.tooDeep? depth).or (ClassItem.anyTooDeep? depth rest)

end

mutual

/-- The first tree, in reading order, that nests too deep. -/
def Tree.tooDeep? (depth : Nat) : Tree → Option Span
  | .bracketed span _ content =>
    if nestLimit ≤ depth then some span else content.tooDeep? (depth + 1)
  | .repetition span _ _ body =>
    if nestLimit ≤ depth then some span else body.tooDeep? (depth + 1)
  | .group span _ body =>
    if nestLimit ≤ depth then some span else body.tooDeep? (depth + 1)
  | .alternation span branches =>
    if nestLimit ≤ depth then some span else Tree.anyTooDeep? (depth + 1) branches
  | .concat span parts =>
    if nestLimit ≤ depth then some span else Tree.anyTooDeep? (depth + 1) parts
  | _ => none

/-- The first of several trees that nests too deep. -/
def Tree.anyTooDeep? (depth : Nat) : List Tree → Option Span
  | [] => none
  | tree :: rest => (tree.tooDeep? depth).or (Tree.anyTooDeep? depth rest)

end

/-- Reads a pattern. -/
def Tree.parse (pattern : List Char) : Except Refusal Tree := do
  let initial : ReaderState := { rest := pattern }
  let (tree, _) ← (Reader.readLoop (pattern.length + 1) [] ⟨0, []⟩).run initial
  match tree.tooDeep? 0 with
  | some span => .error ⟨.nestTooDeep, span⟩
  | none => .ok tree

end Intercept.Pattern
