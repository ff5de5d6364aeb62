/-
This file builds the table of a document from its sections. A section is a header with
the key-value pairs below it. Which tables may be written to more than once depends on
how they came about: one that a header names is complete with its section, one that a
longer header implies may still get a header of its own, and one that dotted keys make
is open to further dotted keys only. Nothing is ever overwritten.
-/
import Intercept.Toml.Value

namespace Intercept.Toml

/-- A dotted key: the keys on the way, and the last one. -/
structure KeyPath where
  way : List String
  last : String

/-- A key with its value. -/
structure Pair where
  key : KeyPath
  value : Value

/-- What a header opens. -/
inductive Header where
  | table (key : KeyPath)
  /-- The next element of an array of tables. -/
  | element (key : KeyPath)

/-- A header and the pairs below it. -/
structure Section where
  header : Header
  pairs : List Pair

/-- How a table came about. -/
inductive Origin where
  | header
  | implied
  | dotted
deriving DecidableEq

/-- A part of a document that may still grow. -/
inductive Node where
  | leaf (value : Value)
  | table (origin : Origin) (entries : List (String × Node))
  /-- An array of tables, of which only the last one may grow. -/
  | tables (elements : List (List (String × Node)))

/-- The entries of a table under construction. -/
abbrev Entries := List (String × Node)

namespace Entries

/-- Changes the node of a key, or adds one at the end. -/
def alter (change : Option Node → Option Node) (key : String) : Entries → Option Entries
  | [] => do
    let node ← change none
    return [(key, node)]
  | entry :: rest =>
    if entry.1 = key then do
      let node ← change (some entry.2)
      return (key, node) :: rest
    else do
      let others ← alter change key rest
      return entry :: others

/-- Adds a key that is not there yet. -/
def add (key : String) (node : Node) (entries : Entries) : Option Entries :=
  entries.alter (fun present => if present.isSome then none else some node) key

/-- Changes the last element of a list. -/
def alterLast (change : Entries → Option Entries) : List Entries → Option (List Entries)
  | [] => none
  | [element] => do
    let element ← change element
    return [element]
  | element :: rest => do
    let others ← alterLast change rest
    return element :: others

/-- Adds a pair. The way passes through tables that dotted keys made, and through implied
ones; the table that gets the key must be one that dotted keys made, unless there is no
way. -/
def addPair (key : String) (value : Value) : List String → Entries → Option Entries
  | [], entries => entries.add key (.leaf value)
  | part :: way, entries =>
    let change : Option Node → Option Node
      | none => (addPair key value way []).map (.table .dotted)
      | some (.leaf _) => none
      | some (.table origin inner) =>
        if origin = .header ∨ (way = [] ∧ origin ≠ .dotted) then none
        else (addPair key value way inner).map (.table origin)
      | some (.tables elements) =>
        if way = [] then none else (alterLast (addPair key value way) elements).map .tables
    entries.alter change part

/-- Adds pairs in order. -/
def addPairs (pairs : List Pair) (entries : Entries) : Option Entries :=
  pairs.foldlM (fun entries pair => entries.addPair pair.key.last pair.value pair.key.way) entries

/-- Changes the node that a header names. The way passes through tables of every origin and
through the last elements of arrays of tables. -/
def alterAt (change : Option Node → Option Node) (key : String) :
    List String → Entries → Option Entries
  | [], entries => entries.alter change key
  | part :: way, entries =>
    let descend : Option Node → Option Node
      | none => (alterAt change key way []).map (.table .implied)
      | some (.leaf _) => none
      | some (.table origin inner) => (alterAt change key way inner).map (.table origin)
      | some (.tables elements) => (alterLast (alterAt change key way) elements).map .tables
    entries.alter descend part

/-- Adds a section. -/
def addSection (entries : Entries) (part : Section) : Option Entries :=
  match part.header with
  | .table key =>
    let opened : Option Node → Option Node
      | none => (addPairs part.pairs []).map (.table .header)
      | some (.table .implied inner) => (addPairs part.pairs inner).map (.table .header)
      | some _ => none
    entries.alterAt opened key.last key.way
  | .element key =>
    let opened : Option Node → Option Node
      | none => (addPairs part.pairs []).map fun element => .tables [element]
      | some (.tables elements) =>
        (addPairs part.pairs []).map fun element => .tables (elements ++ [element])
      | some _ => none
    entries.alterAt opened key.last key.way

end Entries

/-! ### Finished tables -/

mutual

/-- The value of a node. -/
def Node.value : Node → Value
  | .leaf value => value
  | .table _ entries => .table (entryValues entries)
  | .tables elements => .array (elementValues elements)

/-- The values of entries. -/
def entryValues : List (String × Node) → List (String × Value)
  | [] => []
  | (key, node) :: rest => (key, node.value) :: entryValues rest

/-- The values of the elements of an array of tables. -/
def elementValues : List (List (String × Node)) → List Value
  | [] => []
  | element :: rest => .table (entryValues element) :: elementValues rest

end

/-- The value of a table written on one line. -/
def tableOfPairs (pairs : List Pair) : Option Value :=
  (Entries.addPairs pairs []).map fun entries => .table (entryValues entries)

/-- The entries of a document: the pairs before its first header, and its sections. -/
def entriesOfSections (pairs : List Pair) (sections : List Section) :
    Option (List (String × Value)) := do
  let top ← Entries.addPairs pairs []
  let entries ← sections.foldlM Entries.addSection top
  return entryValues entries

end Intercept.Toml
