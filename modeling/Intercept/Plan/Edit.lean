/-
This file holds the edits that a plan can make to arguments and results. They are written
with literals of the plan, which become values here: numbers, truth values, strings and
lists are taken over, and what has no counterpart becomes its own text. An edit of a
position that is not there changes nothing.
-/
import Intercept.Toml.Printer
import Intercept.Unicode.Casing
import Intercept.Value

namespace Intercept.Plan

/-! ### Literals -/

mutual

/-- The value that a literal stands for. -/
def literalValue : Toml.Value → Value
  | .string text => .str text
  | .integer value => .int value
  | .float value => .float value
  | .boolean value => .bool value
  | .array items => .list (literalValues items)
  | .dateTime value => .str (Toml.Value.dateTime value).render
  | .table entries => .str (Toml.Value.table entries).render

/-- The values that literals stand for. -/
def literalValues : List Toml.Value → List Value
  | [] => []
  | item :: rest => literalValue item :: literalValues rest

end

/-! ### Edits of arguments -/

/-- An edit of an argument list. -/
inductive ArgumentEdit where
  /-- Puts a literal at a position. -/
  | set (index : Nat) (value : Toml.Value)
  /-- Adds a literal at the end. -/
  | append (value : Toml.Value)
  /-- Takes a position out. -/
  | drop (index : Nat)

/-- The argument list after an edit. -/
def ArgumentEdit.apply : ArgumentEdit → List Value → List Value
  | .set index value, arguments => arguments.set index (literalValue value)
  | .append value, arguments => arguments ++ [literalValue value]
  | .drop index, arguments => arguments.eraseIdx index

/-- The argument list after edits in order. -/
def applyEdits (edits : List ArgumentEdit) (arguments : List Value) : List Value :=
  edits.foldl (fun arguments edit => edit.apply arguments) arguments

/-! ### Edits of results -/

/-- An edit of a result. -/
inductive ResultEdit where
  /-- Puts a string into upper case and leaves other values as they are. -/
  | uppercase
  /-- Puts a string into lower case and leaves other values as they are. -/
  | lowercase
  /-- Puts a literal in the place of any value. -/
  | constant (value : Toml.Value)

/-- The result after an edit. -/
def ResultEdit.apply : ResultEdit → Value → Value
  | .uppercase, .str text => .str (String.ofList (Unicode.toUpper text.toList))
  | .lowercase, .str text => .str (String.ofList (Unicode.toLower text.toList))
  | .constant value, _ => literalValue value
  | .uppercase, other => other
  | .lowercase, other => other

end Intercept.Plan
