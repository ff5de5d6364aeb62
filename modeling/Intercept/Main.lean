/-
This file is the program: it hands its arguments over, looks up the one file that a
command reads, and writes the answers and the complaints out.
-/
import Intercept.CommandLine.Commands

namespace Intercept

/-- What a path leads to in the file system. -/
def findFile (path : String) : IO FileContent := do
  try
    return .file (← IO.FS.readBinFile path).toList
  catch
    | .inappropriateType .. => return .directory
    | _ => return .missing

/-- Runs the program. -/
def runProgram (arguments : List String) : IO UInt32 := do
  let report ← match CommandLine.parse arguments with
    | .error interruption => pure interruption.report
    | .ok request => do
      let content ← match request.command.file? with
        | some path => findFile path
        | none => pure .missing
      pure (request.run content)
  (← IO.getStdout).putStr report.output
  (← IO.getStderr).putStr report.complaints
  return UInt32.ofNat report.code

end Intercept

/-- Runs the program. -/
def main (arguments : List String) : IO UInt32 :=
  Intercept.runProgram arguments
