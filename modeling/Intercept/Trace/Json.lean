/-
This file writes a trace event as one line of JSON: an object without blanks whose
fields come in a fixed order, the kind of the event first. Absent optional fields are
left out. Strings escape the quote, the backslash and the control characters, and
nothing else, so a line contains no character below the space.
-/
import Intercept.Trace.Event

namespace Intercept.Json

/-! ### Strings -/

/-- The escaped form of one character inside a string. -/
def escape (char : Char) : List Char :=
  if char = '"' then ['\\', '"']
  else if char = '\\' then ['\\', '\\']
  else if char = '\x08' then ['\\', 'b']
  else if char = '\x0c' then ['\\', 'f']
  else if char = '\n' then ['\\', 'n']
  else if char = '\r' then ['\\', 'r']
  else if char = '\t' then ['\\', 't']
  else if char < ' ' then '\\' :: 'u' :: Text.padZeros 4 (Text.hexDigits char.toNat)
  else [char]

/-- A string in quotes. -/
def quoted (text : List Char) : List Char :=
  '"' :: text.flatMap escape ++ ['"']

/-! ### Values -/

/-- The shapes that occur in a trace line. -/
inductive Item where
  | text (value : String)
  | texts (values : List String)
  | number (value : Int)

/-- Parts with commas between them. -/
def commaSeparated : List (List Char) → List Char
  | [] => []
  | [last] => last
  | head :: rest => head ++ ',' :: commaSeparated rest

/-- An item without blanks. -/
def Item.render : Item → List Char
  | .text value => quoted value.toList
  | .texts values => '[' :: commaSeparated (values.map fun value => quoted value.toList) ++ [']']
  | .number value => Text.signedDigits value

/-- A field of an object: its name and its item. -/
abbrev Field := String × Item

/-- A field without blanks. -/
def renderField (field : Field) : List Char :=
  quoted field.1.toList ++ ':' :: field.2.render

/-- An object without blanks, its fields in order. -/
def renderObject (fields : List Field) : List Char :=
  '{' :: commaSeparated (fields.map renderField) ++ ['}']

/-! ### Events -/

/-- An optional field, left out when it is absent. -/
def optionalField (name : String) : Option Item → List Field
  | none => []
  | some item => [(name, item)]

/-- The fields of an event, its kind first. -/
def fields : Event → List Field
  | .entered path arguments forwarded =>
    [("event", .text "enter"), ("path", .text path), ("args", .texts arguments)] ++
      optionalField "rewritten" (forwarded.map .texts)
  | .left path result delivered =>
    [("event", .text "exit"), ("path", .text path), ("result", .text result)] ++
      optionalField "rewritten" (delivered.map .text)
  | .faulted path raised =>
    [("event", .text "fault"), ("path", .text path), ("fault", .text raised)]
  | .frames path stack =>
    [("event", .text "backtrace"), ("path", .text path), ("stack", .text stack)]
  | .probeAttached module symbol address =>
    [("event", .text "native_attach"), ("module", .text module), ("symbol", .text symbol),
      ("address", .number address.toNat)]
  | .callEntered call value =>
    [("event", .text "native_enter"), ("call_id", .number call.toNat), ("value", .text value)]
  | .callReturned call value argument =>
    [("event", .text "native_retval"), ("call_id", .number call.toNat),
      ("value", .number value.toInt)] ++ optionalField "entry" (argument.map .text)
  | .callFrames call stack =>
    [("event", .text "native_backtrace"), ("call_id", .number call.toNat), ("stack", .text stack)]

/-- The line of JSON for an event. -/
def line (event : Event) : String :=
  String.ofList (renderObject (fields event))

end Intercept.Json
