/-
This file writes values as text on one line, tables with their keys in ascending order.
Numbers that are no integers always show a fraction. A string is written in the first
form that needs no escapes, and a form in three quotes opens with a line end exactly if
the text has one. A text that needs escapes is written in double quotes, where every
third quote of a run is escaped if line ends stand for themselves and every quote if
they do not.
-/
import Intercept.Toml.Value

namespace Intercept.Toml

/-! ### Strings -/

/-- Whether a character has to be escaped wherever it stands, tabs and line ends apart. -/
def isControl (char : Char) : Bool :=
  (char < ' ' ∧ char ≠ '\t' ∧ char ≠ '\n') ∨ char = '\x7f'

/-- The length of the longest run of a character, after a run of a given length. -/
def longestRun (char : Char) : Nat → List Char → Nat
  | current, [] => current
  | current, head :: rest =>
    if head = char then longestRun char (current + 1) rest
    else max current (longestRun char 0 rest)

/-- The escape of a character, if it has one of its own. -/
def namedEscape? : Char → Option Char
  | '\x08' => some 'b'
  | '\t' => some 't'
  | '\x0c' => some 'f'
  | '\r' => some 'r'
  | '\\' => some '\\'
  | _ => none

/-- The text between double quotes. `quotes` is the number of quotes right before that are not
escaped, and `allowed` how many of them may stand in a row. -/
def escapedText (multiLine : Bool) (allowed : Nat) : Nat → List Char → List Char
  | _, [] => []
  | quotes, char :: rest =>
    if char = '"' then
      if quotes < allowed then '"' :: escapedText multiLine allowed (quotes + 1) rest
      else '\\' :: '"' :: escapedText multiLine allowed 0 rest
    else
      let written :=
        match namedEscape? char with
        | some letter => ['\\', letter]
        | none =>
          if char = '\n' then (if multiLine then ['\n'] else ['\\', 'n'])
          else if isControl char then
            '\\' :: 'u' :: Text.padZeros 4 (Text.upperHexDigits char.toNat)
          else [char]
      written ++ escapedText multiLine allowed 0 rest

/-- A text in double quotes. -/
def basicQuoted (text : List Char) : List Char :=
  '"' :: escapedText false 0 0 text ++ ['"']

/-- A text in single quotes. -/
def literalQuoted (text : List Char) : List Char :=
  '\'' :: text ++ ['\'']

/-- What stands between three opening quotes and a text. -/
def openingLine (text : List Char) : List Char :=
  if text.contains '\n' then ['\n'] else []

/-- A text in three double quotes. -/
def basicTripleQuoted (text : List Char) : List Char :=
  ['"', '"', '"'] ++ openingLine text ++ escapedText true 2 0 text ++ ['"', '"', '"']

/-- A text in three single quotes. -/
def literalTripleQuoted (text : List Char) : List Char :=
  ['\'', '\'', '\''] ++ openingLine text ++ text ++ ['\'', '\'', '\'']

/-- A string. -/
def renderString (text : List Char) : List Char :=
  let control := text.any isControl
  let backslash := text.contains '\\'
  let lines := text.contains '\n'
  let double := longestRun '"' 0 text
  let single := longestRun '\'' 0 text
  if ¬ (control ∨ backslash ∨ 0 < double ∨ lines) then basicQuoted text
  else if ¬ (control ∨ 0 < single ∨ lines) then literalQuoted text
  else if ¬ (control ∨ backslash ∨ 2 < double) then basicTripleQuoted text
  else if ¬ (control ∨ 2 < single) then literalTripleQuoted text
  else if lines then basicTripleQuoted text
  else basicQuoted text

/-- Whether a character can stand in a key without quotes. -/
def isBareKeyChar (char : Char) : Bool :=
  char.isAlphanum ∨ char = '-' ∨ char = '_'

/-- A key. -/
def renderKey (text : List Char) : List Char :=
  let control := text.any fun char => isControl char ∨ char = '\n'
  if ¬ text.isEmpty ∧ text.all isBareKeyChar then text
  else if ¬ (control ∨ text.contains '\\' ∨ text.contains '"') then basicQuoted text
  else if ¬ (control ∨ text.contains '\'') then literalQuoted text
  else basicQuoted text

/-! ### Values -/

/-- A float. -/
def renderFloat (value : Binary64) : List Char :=
  if value.isNaN then ['n', 'a', 'n']
  else
    let text := value.render.toList
    if value.isInfinite ∨ text.contains '.' then text else text ++ ['.', '0']

/-- Parts with a comma and a blank between them. -/
def separated : List (List Char) → List Char
  | [] => []
  | [last] => last
  | part :: rest => part ++ ',' :: ' ' :: separated rest

/-- Entries with their keys in ascending order. -/
def inKeyOrder {Item : Type} (entries : List (String × Item)) : List (String × Item) :=
  entries.mergeSort fun left right => !decide (right.1 < left.1)

/-- The key under which a date and time stands in a table of its own. -/
def dateTimeKey : String := "$__toml_private_datetime"

/-- A table whose values are written out. -/
def renderTable (entries : List (String × List Char)) : List Char :=
  if entries.isEmpty then ['\x7b', '\x7d']
  else
    let parts := (inKeyOrder entries).map fun entry =>
      renderKey entry.1.toList ++ [' ', '=', ' '] ++ entry.2
    ['\x7b', ' '] ++ separated parts ++ [' ', '\x7d']

mutual

/-- A value inside a table. -/
def Value.renderInside : Value → List Char
  | .string text => renderString text.toList
  | .integer value => Text.signedDigits value.toInt
  | .float value => renderFloat value
  | .boolean value => if value then ['t', 'r', 'u', 'e'] else ['f', 'a', 'l', 's', 'e']
  | .dateTime value => value.render
  | .array items => '[' :: separated (renderItems items) ++ [']']
  | .table entries => renderTable (renderEntries entries)

/-- The texts of items. -/
def renderItems : List Value → List (List Char)
  | [] => []
  | item :: rest => item.renderInside :: renderItems rest

/-- Entries with the texts of their values. -/
def renderEntries : List (String × Value) → List (String × List Char)
  | [] => []
  | (key, value) :: rest => (key, value.renderInside) :: renderEntries rest

end

/-- A value that stands alone. A date and time is written as a table with one key. -/
def Value.render : Value → String
  | .dateTime value =>
    String.ofList (renderTable [(dateTimeKey, basicQuoted value.render)])
  | value => String.ofList value.renderInside

end Intercept.Toml
