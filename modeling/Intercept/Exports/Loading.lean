/-
This file loads the export table of a module file, or says which step failed: opening the
file, mapping it, or reading it as a module.
-/
import Intercept.Elf.Module
import Intercept.Files

namespace Intercept.Exports

/-- Why a module file has no export table. -/
inductive LoadError where
  | notOpened (path : String)
  | notMapped
  | notParsed (path : String)
deriving DecidableEq

/-- The text of a load error. -/
def LoadError.message : LoadError → String
  | .notOpened path => "Failed to open module: " ++ path
  | .notMapped => "Failed to memory-map module"
  | .notParsed path => "Failed to parse module: " ++ path

/-- The export table of the module file that a path leads to. Of the formats of module files only
ELF is read here. Any other file is one that cannot be parsed; how a table is made of the symbols
that a file lists does not depend on its format. -/
def ExportTable.load (path : String) : FileContent → Except LoadError ExportTable
  | .missing => .error (.notOpened path)
  | .directory => .error .notMapped
  | .file bytes =>
    match Elf.ModuleSymbols.parse? bytes.toArray with
    | some symbols => .ok (.ofSymbols path symbols.dynamic symbols.regular)
    | none => .error (.notParsed path)

end Intercept.Exports
