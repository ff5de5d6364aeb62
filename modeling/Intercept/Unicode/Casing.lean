/-
This file changes the case of text by the full mappings of Unicode, which may turn one
character into several, and finds the characters that differ from a given one in case
alone. Lower-casing writes a capital sigma in its final form where it ends a word: a
cased character stands before it and none after it, case-ignorable characters apart.
-/
import Intercept.Unicode.Runs
import Intercept.Unicode.CaseMappingTable
import Intercept.Unicode.CaseOrbitTable
import Intercept.Unicode.PropertyTable

namespace Intercept.Unicode

/-! ### Full mappings -/

/-- The upper-case forms by character. -/
def upperEntries : List (List Nat) := entriesOf upperTable

/-- The lower-case forms by character. -/
def lowerEntries : List (List Nat) := entriesOf lowerTable

/-- The form of a character in a table; one without an entry stays as it is. -/
def mapped (entries : List (List Nat)) (char : Char) : List Char :=
  match entries.find? fun entry => entry.head? == some char.toNat with
  | some entry => entry.tail.map Char.ofNat
  | none => [char]

/-- The text in upper case. -/
def toUpper (text : List Char) : List Char :=
  text.flatMap (mapped upperEntries)

/-! ### The final sigma -/

/-- Cased characters. -/
def casedRanges : Ranges :=
  ((propertyTable.find? fun row => row.1.contains "cased").map fun row => rangesOf row.2).getD []

/-- Characters that are skipped in the search for a cased one. -/
def caseIgnorableRanges : Ranges :=
  ((propertyTable.find? fun row => row.1.contains "caseignorable").map fun row =>
    rangesOf row.2).getD []

/-- Whether the first character that is not case-ignorable is cased. -/
def meetsCased (text : List Char) : Bool :=
  match text.dropWhile fun char => inRanges caseIgnorableRanges char.toNat with
  | [] => false
  | char :: _ => inRanges casedRanges char.toNat

/-- The text in lower case, after characters that stand before it in reverse order. -/
def lowerAfter (before : List Char) : List Char → List Char
  | [] => []
  | char :: rest =>
    let form :=
      if char = 'Σ' then [if meetsCased before ∧ ¬ meetsCased rest then 'ς' else 'σ']
      else mapped lowerEntries char
    form ++ lowerAfter (char :: before) rest

/-- The text in lower case. -/
def toLower (text : List Char) : List Char :=
  lowerAfter [] text

/-! ### Case orbits -/

/-- The classes of characters that simple case folding identifies. -/
def caseOrbits : List (List Nat) := entriesOf caseOrbitTable

/-- The characters that differ from a character in case alone, itself included. -/
def caseOrbit (char : Char) : List Char :=
  match caseOrbits.find? fun orbit => orbit.contains char.toNat with
  | some orbit => orbit.map Char.ofNat
  | none => [char]

end Intercept.Unicode
