/-
This file carries commands out. A command reads at most one file and ends with an exit
code and two texts, one for answers and one for complaints. A plan with problems is
summarised all the same, and a filter that cannot be read is refused before the module
is looked at.
-/
import Intercept.CommandLine.Arguments
import Intercept.Plan.Reading
import Intercept.Dispatch.Hooking
import Intercept.Exports.Loading

namespace Intercept.CommandLine

/-- How a command ends. -/
structure Report where
  code : Nat
  output : String := ""
  complaints : String := ""

/-- Lines as text. -/
def linesText (lines : List String) : String :=
  String.join (lines.map fun line => line ++ "\n")

/-- The report of a command that fails for a reason. -/
def failure (output : List String) (complaints : List String) (reason : String) : Report :=
  ⟨1, linesText output, linesText (complaints ++ ["Error: " ++ reason])⟩

/-! ### Checking a plan -/

/-- The summary of a plan. -/
def planLines (plan : Plan) : List String :=
  ("plan: " ++ Text.decimal plan.methods.length ++ " method(s), " ++
      Text.decimal plan.classes.length ++ " class(es), " ++
      Text.decimal plan.natives.length ++ " native probe(s)") ::
    (plan.methods.map fun entry => "  method " ++ entry.target) ++
    (plan.classes.map fun entry => "  class  " ++ entry.name) ++
    (plan.natives.map fun entry => "  native " ++ entry.modulePath ++ "!" ++ entry.symbol)

/-- Checks the plan that a path leads to. -/
def check (path : String) (content : FileContent) : Report :=
  match Plan.load path content.bytes? with
  | .error error => failure [] [] error.message
  | .ok plan =>
    let problems := plan.problems
    if problems.isEmpty then ⟨0, linesText (planLines plan), ""⟩
    else
      failure (planLines plan) (problems.map HookFailure.diagnostic)
        (Text.decimal problems.length ++ " invalid entr(y/ies) in " ++ path)

/-! ### Listing exports -/

/-- The line of an export: its address in sixteen places, and its name. -/
def exportLine (entry : Exports.Export) : String :=
  "0x" ++ String.ofList (Text.padZeros 16 (Text.hexDigits entry.address.toNat)) ++ " " ++ entry.name

/-- Whether a name passes a filter. -/
def passes (filter : Option Pattern) (name : String) : Bool :=
  match filter with
  | some pattern => pattern.isMatch name
  | none => true

/-- The lines of the exports that pass a filter. -/
def exportLines (filter : Option Pattern) (table : Exports.ExportTable) : List String :=
  (table.exports.filter fun entry => passes filter entry.name).map exportLine

/-- Reads a filter. -/
def readFilter : Option String → Except String (Option Pattern)
  | none => .ok none
  | some source => (Pattern.compile source).map some

/-- Lists the exports of the module that a path leads to. -/
def exportsReport (path : String) (filter : Option String) (content : FileContent) : Report :=
  match readFilter filter with
  | .error reason => failure [] [] reason
  | .ok filter =>
    match Exports.ExportTable.load path content with
    | .error error => failure [] [] error.message
    | .ok table => ⟨0, linesText (exportLines filter table), ""⟩

/-! ### Resolving a symbol -/

/-- Attaches a probe to a symbol of the running process, for its attach line. -/
def resolve (modulePath symbol : String) (format : LineFormat) : Report :=
  let world : World := { host := { symbols := some (.loaded .process) } }
  let (attached, world) := world.probeSymbol 0 modulePath symbol {}
  { code := if attached.isSome then 0 else 1
    output := linesText (world.sink.lines format)
    complaints := linesText world.sink.diagnosticLines }

/-! ### Requests -/

/-- The file that a command reads. -/
def Command.file? : Command → Option String
  | .check path => some path
  | .exports path _ => some path
  | .resolve _ _ => none

/-- Carries a request out, given what the path of its file leads to. -/
def Request.run (request : Request) (content : FileContent) : Report :=
  match request.command with
  | .check path => check path content
  | .exports path filter => exportsReport path filter content
  | .resolve modulePath symbol => resolve modulePath symbol request.format

/-- The name and version of the program. -/
def versionLine : String := "hookline 0.1.0"

/-- The lines that tell how the program is used. -/
def usage : List String :=
  ["Call interception and tracing for managed methods and native exports",
    "",
    "Usage: hookline [--debug] [--format <text|json>] <COMMAND>",
    "",
    "Commands:",
    "  check <PLAN>                        Parse and validate a hook plan",
    "  exports <MODULE> [--filter <REGEX>] List the exported symbols of a module file",
    "  resolve <MODULE> <SYMBOL>           Print the attach line of an exported symbol",
    "  help                                Print this text"]

/-- The report for a command line that names no command. Questions are answered and mistakes
are complained about. -/
def Interruption.report : Interruption → Report
  | .helpAsked => ⟨0, linesText usage, ""⟩
  | .versionAsked => ⟨0, linesText [versionLine], ""⟩
  | interruption =>
    ⟨2, "", linesText (("error: " ++ interruption.message) :: "" :: usage)⟩

/-- Runs a command line, given what paths lead to. -/
def run (arguments : List String) (find : String → FileContent) : Report :=
  match parse arguments with
  | .error interruption => interruption.report
  | .ok request => request.run ((request.command.file?.map find).getD .missing)

end Intercept.CommandLine
