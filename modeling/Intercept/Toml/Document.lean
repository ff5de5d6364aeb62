/-
This file reads whole documents. A document is a list of lines, each of them blank, a
header or a key-value pair; a value may go on over several lines inside brackets or
triple quotes. Values nest less than eighty deep and dotted keys have less than eighty
parts. What does not read as a document to its end is refused altogether.
-/
import Intercept.Toml.Literal
import Intercept.Toml.Tree

namespace Intercept.Toml

/-- The depth that values and dotted keys stay below. -/
def nestingLimit : Nat := 80

namespace Reader

/-! ### Keys -/

/-- Whether a character can stand in a key without quotes. -/
def isBareKey (char : Char) : Bool :=
  char.isAlphanum ∨ char = '-' ∨ char = '_'

/-- One part of a dotted key. -/
def keyPart : Reader String := do
  match ← peek with
  | some '"' => String.ofList <$> basicString
  | some '\'' => String.ofList <$> literalString
  | _ =>
    let name ← takeWhile isBareKey
    if name.isEmpty then failure else return String.ofList name

/-- The parts of a dotted key from here on, with the blanks around them. -/
def keyParts : Nat → Reader (List String)
  | 0 => failure
  | fuel + 1 => do
    blanks
    let part ← keyPart
    blanks
    if ← accept ['.'] then return part :: (← keyParts fuel) else return [part]

/-- The way and the last part of a list of parts. -/
def splitParts : String → List String → KeyPath
  | part, [] => ⟨[], part⟩
  | part, following :: rest =>
    let path := splitParts following rest
    ⟨part :: path.way, path.last⟩

/-- A dotted key. -/
def keyPath : Reader KeyPath := do
  match ← keyParts (nestingLimit - 1) with
  | [] => failure
  | part :: rest => return splitParts part rest

/-! ### Values -/

/-- The items of an array after its opening bracket, up to the closing one. -/
def arrayItems (item : Reader Value) : Nat → Reader (List Value)
  | 0 => failure
  | fuel + 1 => do
    space (← budget)
    if ← accept [']'] then return []
    else
      let value ← item
      space (← budget)
      if ← accept [','] then return value :: (← arrayItems item fuel)
      else
        expect [']']
        return [value]

/-- A key and its value. -/
def pair (item : Reader Value) : Reader Pair := do
  let key ← keyPath
  expect ['=']
  blanks
  return ⟨key, ← item⟩

/-- The pairs of a table on one line, up to its closing brace. -/
def inlinePairs (item : Reader Value) : Nat → Reader (List Pair)
  | 0 => failure
  | fuel + 1 => do
    let first ← pair item
    blanks
    if ← accept [','] then return first :: (← inlinePairs item fuel)
    else
      expect ['\x7d']
      return [first]

/-- A table on one line. -/
def inlineTable (item : Reader Value) : Reader Value := do
  expect ['\x7b']
  blanks
  let pairs ← if ← accept ['\x7d'] then pure [] else inlinePairs item (← budget)
  match tableOfPairs pairs with
  | some table => return table
  | none => failure

/-- A value without parts. -/
def scalar : Reader Value := do
  match ← peek with
  | some '"' => (fun text => .string (String.ofList text)) <$> string
  | some '\'' => (fun text => .string (String.ofList text)) <$> string
  | some 't' =>
    expect ['t', 'r', 'u', 'e']
    return .boolean true
  | some 'f' =>
    expect ['f', 'a', 'l', 's', 'e']
    return .boolean false
  | _ => number

/-- A value in which arrays and tables nest at most so deep. -/
def value : Nat → Reader Value
  | 0 => scalar
  | depth + 1 => do
    match ← peek with
    | some '[' =>
      expect ['[']
      return .array (← arrayItems (value depth) (← budget))
    | some '\x7b' => inlineTable (value depth)
    | _ => scalar

/-! ### Lines -/

/-- A header and the end of its line. -/
def header : Reader Header := do
  expect ['[']
  let opened ← if ← accept ['['] then (do
      let key ← keyPath
      expect [']', ']']
      return Header.element key)
    else (do
      let key ← keyPath
      expect [']']
      return Header.table key)
  lineEnd
  return opened

/-- The pairs of the lines up to the next header or the end. -/
def pairLines : Nat → Reader (List Pair)
  | 0 => failure
  | fuel + 1 => do
    blanks
    match ← peek with
    | none => return []
    | some '[' => return []
    | some char =>
      if char = '#' ∨ char = '\n' ∨ char = '\r' then
        lineEnd
        pairLines fuel
      else
        let first ← pair (value (nestingLimit - 1))
        lineEnd
        return first :: (← pairLines fuel)

/-- The sections up to the end. -/
def sections : Nat → Reader (List Section)
  | 0 => failure
  | fuel + 1 => do
    if ← atEnd then return []
    else
      let header ← header
      let pairs ← pairLines (← budget)
      return ⟨header, pairs⟩ :: (← sections fuel)

/-- A document. -/
def document : Reader (List Pair × List Section) := do
  discard (accept ['\uFEFF'])
  let pairs ← pairLines (← budget)
  return (pairs, ← sections (← budget))

end Reader

/-- Reads a document; the answer is the entries of its table. -/
def parse? (text : String) : Option (List (String × Value)) := do
  let ((pairs, sections), _) ← Reader.document.run text.toList
  entriesOfSections pairs sections

end Intercept.Toml
