/-
This file reads a command line. Options may stand before the name of a command and after
it; the later level counts. A value is settled, that is checked and noted, only when the
next argument of a known kind arrives or the level ends, so of two mistakes the one that
is met first while reading counts, and an unknown argument counts before a value that
waits to be settled. The words after two dashes are never options.
-/
import Intercept.Trace.Sink

namespace Intercept.CommandLine

/-! ### Commands -/

/-- What the program is asked to do. -/
inductive Command where
  /-- Check the plan in a file. -/
  | check (plan : String)
  /-- List the exports of a module file, or those whose names match a pattern. -/
  | exports (modulePath : String) (filter : Option String)
  /-- Find an exported symbol in the running process. -/
  | resolve (modulePath symbol : String)

/-- A command line that has been read. -/
structure Request where
  debug : Bool
  format : LineFormat
  command : Command

/-- What keeps a command line from naming a command: a mistake, or a question about the
program itself. -/
inductive Interruption where
  /-- A command lacks an argument that it needs. -/
  | incomplete
  | unknownArgument
  /-- An option lacks its value, or a value is none that its place admits. -/
  | badValue
  | unknownCommand
  | noCommand
  /-- An argument is given twice at one level. -/
  | repeated
  /-- An option that takes no value is given one. -/
  | needlessValue
  | helpAsked
  | versionAsked
  /-- There are no arguments at all. -/
  | nothingAsked
deriving DecidableEq

/-- The text of an interruption. -/
def Interruption.message : Interruption → String
  | .incomplete => "a required argument is missing"
  | .unknownArgument => "unexpected argument"
  | .badValue => "invalid value for an argument"
  | .unknownCommand => "unrecognized command"
  | .noCommand => "a command is required"
  | .repeated => "an argument cannot be used more than once"
  | .needlessValue => "unexpected value for an option"
  | .helpAsked => "help was asked for"
  | .versionAsked => "the version was asked for"
  | .nothingAsked => "no arguments were given"

/-! ### Levels -/

/-- What an argument can give a value to. -/
inductive Slot where
  | debug
  | format
  | filter
  | help
  | version
  | planFile
  | moduleFile
  | moduleName
  | symbolName
deriving DecidableEq

/-- Whether an option is followed by a value. -/
def Slot.takesValue : Slot → Bool
  | .format => true
  | .filter => true
  | _ => false

/-- Whether a slot can hold a value. A file needs a path. -/
def Slot.admits (slot : Slot) (value : String) : Bool :=
  match slot with
  | .format => value = "text" ∨ value = "json"
  | .planFile => value ≠ ""
  | .moduleFile => value ≠ ""
  | _ => true

/-- The names of the commands. -/
inductive CommandName where
  | check
  | exports
  | resolve
deriving DecidableEq

/-- The command of a name. -/
def CommandName.of? (name : String) : Option CommandName :=
  if name = "check" then some .check
  else if name = "exports" then some .exports
  else if name = "resolve" then some .resolve
  else none

/-- The word that asks for help about a command. -/
def helpName : String := "help"

/-- An option: its slot, its long name and its letter. -/
structure Switch where
  slot : Slot
  long : String
  letter : Option Char := none

/-- What can stand at a level: before the command, or after one. -/
structure Level where
  switches : List Switch
  positionals : List Slot
  /-- Whether commands are named at this level. -/
  namesCommands : Bool

/-- The options of every level. -/
def commonSwitches : List Switch :=
  [⟨.debug, "debug", none⟩, ⟨.format, "format", none⟩, ⟨.help, "help", some 'h'⟩]

/-- The level before the command. -/
def Level.top : Level :=
  ⟨commonSwitches ++ [⟨.version, "version", some 'V'⟩], [], true⟩

/-- The level after a command. -/
def CommandName.level : CommandName → Level
  | .check => ⟨commonSwitches, [.planFile], false⟩
  | .exports => ⟨commonSwitches ++ [⟨.filter, "filter", some 'f'⟩], [.moduleFile], false⟩
  | .resolve => ⟨commonSwitches, [.moduleName, .symbolName], false⟩

/-! ### Settling values -/

/-- What has been read at a level: settled values, a slot that waits to be settled, whether the
next argument may be its value, and how the rest is read. -/
structure Reading where
  settled : List (Slot × String) := []
  pending : Option (Slot × Option String) := none
  awaitsValue : Bool := false
  /-- Whether two dashes have been passed. -/
  trailing : Bool := false
  positionals : List Slot

namespace Reading

/-- Notes a value, which must be the first one of its slot and one that the slot admits. -/
def note (reading : Reading) (slot : Slot) (value : String) : Except Interruption Reading :=
  if reading.settled.any fun entry => entry.1 = slot then .error .repeated
  else if ¬ slot.admits value then .error .badValue
  else .ok { reading with settled := reading.settled ++ [(slot, value)] }

/-- Settles the slot that waits, if there is one. An option without its value is refused. -/
def settle (reading : Reading) : Except Interruption Reading :=
  let settled := { reading with pending := none, awaitsValue := false }
  match reading.pending with
  | none => .ok settled
  | some (_, none) => .error .badValue
  | some (slot, some value) => settled.note slot value

/-- Settles what waits and then a given value. -/
def settleWith (reading : Reading) (slot : Slot) (value : String) :
    Except Interruption Reading := do
  (← reading.settle).note slot value

/-- Settles what waits and then lets an option wait for its value. -/
def awaitValue (reading : Reading) (slot : Slot) : Except Interruption Reading := do
  let reading ← reading.settle
  return { reading with pending := some (slot, none), awaitsValue := true }

/-- Sets an option that takes no value. -/
def raise (reading : Reading) (slot : Slot) : Except Interruption Reading := do
  let reading ← reading.settle
  match slot with
  | .help => throw .helpAsked
  | .version => throw .versionAsked
  | slot => reading.note slot "true"

/-! ### Single arguments -/

/-- Reads an option by its long name, with the value attached to it. -/
def readLong (reading : Reading) (level : Level) (name : String) (attached : Option String) :
    Except Interruption Reading :=
  match level.switches.find? fun switch => switch.long = name with
  | none => .error .unknownArgument
  | some switch =>
    match switch.slot.takesValue, attached with
    | true, some value => reading.settleWith switch.slot value
    | true, none => reading.awaitValue switch.slot
    | false, some _ => .error .needlessValue
    | false, none => reading.raise switch.slot

/-- Reads options by their letters. What follows the letter of an option with a value is the
value, with or without an equals sign before it. -/
def readLetters (level : Level) : List Char → Reading → Except Interruption Reading
  | [], reading => .ok reading
  | letter :: rest, reading =>
    match level.switches.find? fun switch => switch.letter = some letter with
    | none => .error .unknownArgument
    | some switch =>
      if switch.slot.takesValue then
        match rest with
        | [] => reading.awaitValue switch.slot
        | '=' :: value => reading.settleWith switch.slot (String.ofList value)
        | value => reading.settleWith switch.slot (String.ofList value)
      else do
        readLetters level rest (← reading.raise switch.slot)

/-- Reads a word that is no option. -/
def readWord (reading : Reading) (level : Level) (word : String) : Except Interruption Reading :=
  match reading.positionals with
  | slot :: rest => do
    let reading ← reading.settle
    return { reading with pending := some (slot, some word), positionals := rest }
  | [] =>
    if level.namesCommands ∧
        ¬ (reading.trailing ∧ ((CommandName.of? word).isSome ∨ word = helpName)) then
      .error .unknownCommand
    else .error .unknownArgument

end Reading

/-- The kinds of arguments by their form. -/
inductive Form where
  | dashes
  | long (name : String) (attached : Option String)
  | letters (letters : List Char)
  | word

/-- The form of an argument. A single dash is a word. -/
def Form.of (argument : String) : Form :=
  match argument.toList with
  | ['-', '-'] => .dashes
  | '-' :: '-' :: rest =>
    let name := rest.takeWhile (· ≠ '=')
    let attached := match rest.drop name.length with
      | '=' :: value => some (String.ofList value)
      | _ => none
    .long (String.ofList name) attached
  | '-' :: letter :: rest => .letters (letter :: rest)
  | _ => .word

/-- Reads one argument before two dashes. -/
def Reading.readArgument (reading : Reading) (level : Level) (argument : String) :
    Except Interruption Reading :=
  match Form.of argument with
  | .dashes => .ok { reading with trailing := true }
  | .long name attached => reading.readLong level name attached
  | .letters letters => Reading.readLetters level letters reading
  | .word =>
    if reading.awaitsValue then
      .ok { reading with
        pending := reading.pending.map fun entry => (entry.1, some argument), awaitsValue := false }
    else reading.readWord level argument

/-! ### Whole levels -/

/-- The answer to a question for help about the named commands. -/
def helpAbout : List String → Interruption
  | [] => .helpAsked
  | [name] =>
    if (CommandName.of? name).isSome ∨ name = helpName then .helpAsked else .unknownCommand
  | _ => .unknownCommand

/-- Reads the arguments of a level, up to the name of a command if the level has commands. -/
def readLevel (level : Level) :
    List String → Reading → Except Interruption (Reading × Option (CommandName × List String))
  | [], reading => .ok (reading, none)
  | argument :: rest, reading =>
    if reading.trailing then do
      readLevel level rest (← reading.readWord level argument)
    else if level.namesCommands ∧ ¬ reading.awaitsValue ∧ argument = helpName then
      .error (helpAbout rest)
    else
      match (if level.namesCommands ∧ ¬ reading.awaitsValue then CommandName.of? argument
        else none) with
      | some name => .ok (reading, some (name, rest))
      | none => do readLevel level rest (← reading.readArgument level argument)

/-- The values of a level after its last argument. -/
def readSettled (level : Level) (arguments : List String) :
    Except Interruption (List (Slot × String)) := do
  let (reading, _) ← readLevel level arguments { positionals := level.positionals }
  return (← reading.settle).settled

/-! ### Requests -/

/-- The command that the values of its level make up. -/
def CommandName.command? (values : List (Slot × String)) : CommandName → Option Command
  | .check => do return .check (← values.lookup .planFile)
  | .exports => do return .exports (← values.lookup .moduleFile) (values.lookup .filter)
  | .resolve => do
    let modulePath ← values.lookup .moduleName
    let symbol ← values.lookup .symbolName
    return .resolve modulePath symbol

/-- The format that values ask for. -/
def formatOf (values : List (Slot × String)) : LineFormat :=
  if values.lookup .format = some "json" then .json else .text

/-- Reads the arguments that follow the name of the program. -/
def parse (arguments : List String) : Except Interruption Request := do
  match ← readLevel .top arguments { positionals := [] } with
  | (reading, none) =>
    if (← reading.settle).settled.isEmpty then
      throw .nothingAsked
    else throw .noCommand
  | (reading, some (name, rest)) =>
    let inner ← readSettled name.level rest
    match name.command? inner with
    | none => throw .incomplete
    | some command =>
      let values := inner ++ (← reading.settle).settled
      return ⟨(values.lookup .debug).isSome, formatOf values, command⟩

end Intercept.CommandLine
