/-
This file reads plans. A plan is a document with three lists; every field of an entry has
one type and unknown fields are refused. An entry may also be written as an array of its
fields in order, which may stop before fields with a default; what follows the last
field is passed over. An edit names its operation: in a table other fields are passed
over, in an array exactly its own fields follow.
-/
import Intercept.Plan.Entry
import Intercept.Toml.Document

namespace Intercept.Plan

/-! ### Scalars -/

/-- A string. -/
def readString : Toml.Value → Option String
  | .string text => some text
  | _ => none

/-- A truth value. -/
def readBool : Toml.Value → Option Bool
  | .boolean value => some value
  | _ => none

/-- A position: an integer that is not negative. -/
def readIndex : Toml.Value → Option Nat
  | .integer value => if value < 0 then none else some value.toInt.toNat
  | _ => none

/-- A list with items of one kind. -/
def readList {Item : Type} (read : Toml.Value → Option Item) : Toml.Value → Option (List Item)
  | .array items => items.mapM read
  | _ => none

/-! ### Records -/

/-- The fields of a record as they are written: by name or by position. -/
structure Fields where
  positional : Bool
  values : List (Option Toml.Value)

/-- The fields of a record in the order of their names. -/
def Fields.of (names : List String) : Toml.Value → Option Fields
  | .table entries =>
    if entries.all fun entry => names.contains entry.1 then
      some ⟨false, names.map fun name => entries.lookup name⟩
    else none
  | .array items => some ⟨true, (List.range names.length).map fun position => items[position]?⟩
  | _ => none

/-- The value at a position, if it is written. -/
def Fields.at? (fields : Fields) (position : Nat) : Option Toml.Value :=
  (fields.values[position]?).join

/-- A field that must be written. -/
def Fields.required {Item : Type} (fields : Fields) (position : Nat)
    (read : Toml.Value → Option Item) : Option Item :=
  (fields.at? position).bind read

/-- A field that has a default. -/
def Fields.defaulted {Item : Type} (fields : Fields) (position : Nat)
    (read : Toml.Value → Option Item) (default : Item) : Option Item :=
  match fields.at? position with
  | some value => read value
  | none => some default

/-- A field that may be absent from a table but not from an array. -/
def Fields.nullable {Item : Type} (fields : Fields) (position : Nat)
    (read : Toml.Value → Option Item) : Option (Option Item) :=
  match fields.at? position with
  | some value => (read value).map some
  | none => if fields.positional then none else some none

/-! ### Literals of edits -/

mutual

/-- A literal of an edit. A table that opens with the key of a date and time stands for that
date and time and must hold nothing else. -/
def readLiteral : Toml.Value → Option Toml.Value
  | .array items => (readLiterals items).map .array
  | .table entries => readTable entries
  | other => some other

/-- The literal of a table. -/
def readTable : List (String × Toml.Value) → Option Toml.Value
  | [] => some (.table [])
  | (key, value) :: rest =>
    if key = Toml.dateTimeKey then
      match value, rest with
      | .string text, [] => (Toml.DateTime.parse? text.toList).map .dateTime
      | _, _ => none
    else do
      let first ← readLiteral value
      let others ← readEntries rest
      return .table ((key, first) :: others)

/-- The literals of the entries of a table. -/
def readEntries : List (String × Toml.Value) → Option (List (String × Toml.Value))
  | [] => some []
  | (key, value) :: rest => do
    let first ← readLiteral value
    let others ← readEntries rest
    return (key, first) :: others

/-- The literals of the items of an array. -/
def readLiterals : List Toml.Value → Option (List Toml.Value)
  | [] => some []
  | item :: rest => do
    let first ← readLiteral item
    let others ← readLiterals rest
    return first :: others

end

/-! ### Edits -/

/-- The name of the operation of an edit, and its fields in order. -/
def editFields (names : String → List String) : Toml.Value → Option (String × List Toml.Value)
  | .table entries => do
    let operation ← (entries.lookup "op").bind readString
    let fields ← (names operation).mapM fun name => entries.lookup name
    return (operation, fields)
  | .array (.string operation :: fields) => some (operation, fields)
  | _ => none

/-- The field names of an edit of arguments. -/
def argumentEditFields (operation : String) : List String :=
  if operation = "set" then ["index", "value"]
  else if operation = "append" then ["value"]
  else if operation = "drop" then ["index"]
  else []

/-- An edit of arguments. -/
def readArgumentEdit (value : Toml.Value) : Option ArgumentEdit := do
  match ← editFields argumentEditFields value with
  | ("set", [index, value]) => return .set (← readIndex index) (← readLiteral value)
  | ("append", [value]) => return .append (← readLiteral value)
  | ("drop", [index]) => return .drop (← readIndex index)
  | _ => none

/-- The field names of an edit of a result. -/
def resultEditFields (operation : String) : List String :=
  if operation = "constant" then ["value"] else []

/-- An edit of a result. -/
def readResultEdit (value : Toml.Value) : Option ResultEdit := do
  match ← editFields resultEditFields value with
  | ("uppercase", []) => return .uppercase
  | ("lowercase", []) => return .lowercase
  | ("constant", [value]) => return .constant (← readLiteral value)
  | _ => none

/-! ### Entries -/

/-- A method to hook. -/
def readMethod (value : Toml.Value) : Option MethodRule := do
  let fields ← Fields.of ["target", "backtrace", "inject_args", "inject_ret"] value
  return {
    target := ← fields.required 0 readString
    backtrace := ← fields.defaulted 1 readBool false
    argumentEdits := ← fields.defaulted 2 (readList readArgumentEdit) []
    resultEdit := ← fields.nullable 3 readResultEdit }

/-- A class to sweep. -/
def readSweep (value : Toml.Value) : Option SweepRule := do
  let fields ← Fields.of ["name", "backtrace"] value
  return {
    name := ← fields.required 0 readString
    backtrace := ← fields.defaulted 1 readBool false }

/-- A native symbol to probe. -/
def readNative (value : Toml.Value) : Option SymbolRule := do
  let fields ← Fields.of ["module", "symbol", "arg_index", "report_when", "backtrace"] value
  return {
    modulePath := ← fields.required 0 readString
    symbol := ← fields.required 1 readString
    argumentIndex := ← fields.defaulted 2 readIndex 0
    condition := ← fields.nullable 3 readString
    backtrace := ← fields.defaulted 4 readBool false }

/-! ### Plans -/

/-- Why there is no plan. -/
inductive LoadError where
  /-- The file cannot be read as text. -/
  | unreadable (path : String)
  /-- The text is no document, or the document is no plan. -/
  | malformed
deriving DecidableEq

/-- The text of a load error. -/
def LoadError.message : LoadError → String
  | .unreadable path => "Failed to read " ++ path
  | .malformed => "Failed to parse TOML"

/-- The plan of a document. -/
def ofEntries (entries : List (String × Toml.Value)) : Option Plan := do
  let fields ← Fields.of ["method", "class", "native"] (.table entries)
  return {
    methods := ← fields.defaulted 0 (readList readMethod) []
    classes := ← fields.defaulted 1 (readList readSweep) []
    natives := ← fields.defaulted 2 (readList readNative) [] }

/-- Reads a plan. -/
def parse (text : String) : Except LoadError Plan :=
  match (Toml.parse? text).bind ofEntries with
  | some plan => .ok plan
  | none => .error .malformed

/-- Reads the plan in a file, given the bytes of the file if there is one. -/
def load (path : String) (content : Option (List UInt8)) : Except LoadError Plan :=
  match content.bind Text.Utf8.decode? with
  | some text => parse text
  | none => .error (.unreadable path)

end Intercept.Plan
