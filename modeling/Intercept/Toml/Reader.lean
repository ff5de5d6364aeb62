/-
This file holds the steps from which a document is read: the next character, a given
text, a run of characters, blanks, comments and line ends. A step takes what is left of
the text and either fails or gives an answer and what is left after it. Choices are
tried in order, each from the same place.
-/
import Intercept.Text.Digits

namespace Intercept.Toml

/-- A step that reads the beginning of a text. -/
abbrev Reader := StateT (List Char) Option

namespace Reader

/-! ### Characters -/

/-- The next character, which stays. -/
def peek : Reader (Option Char) :=
  return (← get).head?

/-- Takes the next character. -/
def next : Reader Char := do
  match ← get with
  | [] => failure
  | char :: rest =>
    set rest
    return char

/-- Takes the next character if it passes a test. -/
def satisfying (test : Char → Bool) : Reader Char := do
  let char ← next
  if test char then return char else failure

/-- Takes the characters up to the first one that fails a test. -/
def takeWhile (test : Char → Bool) : Reader (List Char) := do
  let rest ← get
  set (rest.dropWhile test)
  return rest.takeWhile test

/-- Takes a given text. -/
def expect (text : List Char) : Reader Unit := do
  let rest ← get
  if text.isPrefixOf rest then set (rest.drop text.length) else failure

/-- Takes a given text if it is next, and says whether it was. -/
def accept (text : List Char) : Reader Bool := do
  let rest ← get
  if text.isPrefixOf rest then
    set (rest.drop text.length)
    return true
  else return false

/-- Tries a step, which is undone if it fails. -/
def optional {α : Type} (step : Reader α) : Reader (Option α) :=
  (do return some (← step)) <|> return none

/-- Whether nothing is left. -/
def atEnd : Reader Bool :=
  return (← get).isEmpty

/-- A number of steps that reading what is left cannot exceed. -/
def budget : Reader Nat :=
  return (← get).length + 1

/-! ### Digits -/

/-- The digits of a base, one after another or with single underscores between them. -/
def groupedDigits (base : Nat) : Nat → Reader (List Char)
  | 0 => failure
  | fuel + 1 => do
    let digit ← satisfying (Text.isDigitIn base)
    match ← peek with
    | some '_' =>
      discard next
      return digit :: (← groupedDigits base fuel)
    | some char =>
      if Text.isDigitIn base char then return digit :: (← groupedDigits base fuel)
      else return [digit]
    | none => return [digit]

/-- A given number of digits of a base, as a number. -/
def fixedDigits (base : Nat) : Nat → Reader (List Char)
  | 0 => return []
  | count + 1 => do
    let digit ← satisfying (Text.isDigitIn base)
    return digit :: (← fixedDigits base count)

/-! ### Blanks and line ends -/

/-- Whether a character is a blank inside a line. -/
def isBlank (char : Char) : Bool :=
  char = ' ' ∨ char = '\t'

/-- Takes blanks. -/
def blanks : Reader Unit :=
  discard (takeWhile isBlank)

/-- Takes the end of a line. -/
def newline : Reader Unit :=
  expect ['\n'] <|> expect ['\r', '\n']

/-- Whether a character can stand in a comment or a string: a tab, or no control
character. -/
def isPlain (char : Char) : Bool :=
  char = '\t' ∨ (' ' ≤ char ∧ char ≠ '\x7f')

/-- Takes a comment up to the end of its line. -/
def comment : Reader Unit := do
  expect ['#']
  discard (takeWhile isPlain)

/-- Takes blanks, comments and line ends. A comment must end with its line. -/
def space : Nat → Reader Unit
  | 0 => return
  | fuel + 1 => do
    blanks
    match ← peek with
    | some '#' =>
      comment
      newline
      space fuel
    | some '\n' =>
      newline
      space fuel
    | some '\r' =>
      newline
      space fuel
    | _ => return

/-- Takes what may follow on a line, and its end. -/
def lineEnd : Reader Unit := do
  blanks
  if (← peek) = some '#' then comment
  if ← atEnd then return else newline

end Reader

end Intercept.Toml
