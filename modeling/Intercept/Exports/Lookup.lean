/-
This file holds the tables in which exported symbols are looked up. A fixed table lists
modules by path and symbols by name. An export table holds the definitions of one module,
sorted by name, and answers for every path with the same file name. The modules loaded in
the running process are known by name, and an empty path searches all of them.
-/
import Intercept.Exports.Label
import Intercept.Failure

namespace Intercept.Exports

/-! ### Fixed tables -/

/-- A fixed table: each row gives a module, a symbol and an address. -/
structure AddressTable where
  rows : List (String × String × UInt64) := []

namespace AddressTable

/-- Adds a row, in the place of the one before for the same symbol. -/
def insert (table : AddressTable) (modulePath symbol : String) (address : UInt64) : AddressTable :=
  ⟨(modulePath, symbol, address) :: table.rows⟩

/-- Looks a symbol up. -/
def find (table : AddressTable) (modulePath symbol : String) : Except HookFailure UInt64 :=
  match table.rows.filter fun row => row.1 = modulePath with
  | [] => .error (.unknownModule modulePath)
  | rows =>
    match rows.find? fun row => row.2.1 = symbol with
    | some row => .ok row.2.2
    | none => .error (.unknownSymbol modulePath symbol)

end AddressTable

/-! ### Export tables -/

/-- A symbol as a module file lists it. -/
structure ListedSymbol where
  /-- None if the name cannot be read. -/
  name : Option String
  address : UInt64
  isDefinition : Bool
  isGlobal : Bool

/-- A symbol that a module exports. -/
structure Export where
  name : String
  address : UInt64
deriving DecidableEq

/-- The exports among listed symbols: global definitions whose name can be read and is not
empty. -/
def exportsAmong (symbols : List ListedSymbol) : List Export :=
  symbols.filterMap fun symbol =>
    match symbol.name with
    | some name =>
      if symbol.isDefinition ∧ symbol.isGlobal ∧ name ≠ "" then some ⟨name, symbol.address⟩
      else none
    | none => none

/-- Leaves out every export with the name of the one before it. -/
def keepFirst (previous : Option String) : List Export → List Export
  | [] => []
  | entry :: rest =>
    if previous = some entry.name then keepFirst previous rest
    else entry :: keepFirst (some entry.name) rest

/-- The definitions of one module, by ascending name. -/
structure ExportTable where
  modulePath : String
  exports : List Export

namespace ExportTable

/-- The table of a module that lists dynamic and regular symbols. Regular symbols count only
if there is no dynamic export. -/
def ofSymbols (modulePath : String) (dynamic regular : List ListedSymbol) : ExportTable :=
  let listed := exportsAmong dynamic
  let listed := if listed.isEmpty then exportsAmong regular else listed
  let sorted := listed.mergeSort fun left right => !decide (right.name < left.name)
  ⟨modulePath, keepFirst none sorted⟩

/-- Searches exports by ascending name from one place up to another one, by halving what lies
between them. -/
def search (exports : Array Export) (name : String) (low high : Nat) : Option Export :=
  if low < high then
    let middle := (low + high) / 2
    match exports[middle]? with
    | none => none
    | some entry =>
      if entry.name = name then some entry
      else if entry.name < name then search exports name (middle + 1) high
      else search exports name low middle
  else none
termination_by high - low

/-- The export of a name. -/
def find? (table : ExportTable) (name : String) : Option Export :=
  search table.exports.toArray name 0 table.exports.length

/-- Whether a path means this module: the same path, or the same file name. Paths without a
file name are not told apart. -/
def answersFor (table : ExportTable) (modulePath : String) : Bool :=
  modulePath = table.modulePath ∨
    fileName? table.modulePath.toList = fileName? modulePath.toList

/-- Looks a symbol up. -/
def find (table : ExportTable) (modulePath symbol : String) : Except HookFailure UInt64 :=
  if ¬ table.answersFor modulePath then .error (.unknownModule modulePath)
  else
    match table.find? symbol with
    | some entry => .ok entry.address
    | none => .error (.unknownSymbol modulePath symbol)

end ExportTable

/-! ### Loaded modules -/

/-- The modules loaded in the running process, each with the symbols it exports. -/
structure LoadedModules where
  modules : List (String × List Export)

namespace LoadedModules

/-- Looks a symbol up; an empty path searches every loaded module. A name with a zero
character is no symbol of any module. -/
def find (loaded : LoadedModules) (modulePath symbol : String) : Except HookFailure UInt64 :=
  let searched := loaded.modules.filter fun entry => modulePath = "" ∨ entry.1 = modulePath
  if symbol.toList.contains '\x00' then .error (.unknownSymbol modulePath symbol)
  else if searched.isEmpty ∧ modulePath ≠ "" then .error (.unknownModule modulePath)
  else
    match (searched.flatMap Prod.snd).find? fun entry => entry.name = symbol with
    | some entry => .ok entry.address
    | none => .error (.unknownSymbol modulePath symbol)

/-- The process that the program runs in: the system library is loaded and exports `open`.
Its address differs from run to run and stands for any. -/
def process : LoadedModules :=
  ⟨[("libc.so.6", [⟨"open", 4096⟩])]⟩

end LoadedModules

/-- Where a session looks symbols up. -/
inductive SymbolSource where
  | table (table : AddressTable)
  | exports (table : ExportTable)
  | loaded (modules : LoadedModules)

/-- Looks a symbol up. -/
def SymbolSource.find : SymbolSource → String → String → Except HookFailure UInt64
  | .table rows => rows.find
  | .exports listing => listing.find
  | .loaded modules => modules.find

end Intercept.Exports
