/-
This file finds sets of characters by the names that the Unicode character database
gives them. Names are compared without regard to case, blanks, underscores, dashes and
a leading "is". A name on its own is a binary property, a general category or a script,
in this order; a name with a value picks the category, the script, the characters used
with a script, or the characters known to a version.
-/
import Intercept.Unicode.Runs
import Intercept.Unicode.CategoryTable
import Intercept.Unicode.ScriptTable
import Intercept.Unicode.PropertyTable
import Intercept.Unicode.AgeTable

namespace Intercept.Unicode

/-! ### Names -/

/-- The form in which names are compared. The name of the comment property keeps its first
letters, which would otherwise count as a leading "is". -/
def normalize (name : List Char) : String :=
  let starts := (name.take 2).map Char.toLower == ['i', 's']
  let kept := ((if starts then name.drop 2 else name).filter fun char =>
    char ≠ ' ' ∧ char ≠ '_' ∧ char ≠ '-' ∧ char.toNat < 128).map Char.toLower
  if starts ∧ kept = ['c'] then "isc" else String.ofList kept

/-- Names of properties that are no binary properties and are known as such. -/
def valuedProperties : List String :=
  ["gc", "generalcategory", "sc", "script", "scx", "scriptextensions", "age",
    "gcb", "graphemeclusterbreak", "wb", "wordbreak", "sb", "sentencebreak",
    "bc", "bidiclass", "blk", "block", "ccc", "canonicalcombiningclass",
    "dt", "decompositiontype", "ea", "eastasianwidth", "hst", "hangulsyllabletype",
    "jg", "joininggroup", "jt", "joiningtype", "lb", "linebreak", "nt", "numerictype",
    "nv", "numericvalue", "na", "name", "isc", "isocomment"]

/-- Why a set could not be found. -/
inductive PropertyError where
  | unknownProperty
  | unknownValue
deriving DecidableEq

/-! ### Sets -/

/-- The characters outside of ascending ranges, from a code point on. -/
def complementFrom : Nat → Ranges → Ranges
  | next, [] => if next ≤ 0x10FFFF then [(next, 0x10FFFF)] else []
  | next, (low, high) :: rest =>
    if next < low then (next, low - 1) :: complementFrom (high + 1) rest
    else complementFrom (high + 1) rest

/-- The runs of the first table row that has a name. -/
def rowOf? (table : List (List String × String)) (name : String) : Option Ranges :=
  (table.find? fun row => row.1.contains name).map fun row => rangesOf row.2

/-- A binary property. -/
def binary? (name : String) : Option Ranges :=
  rowOf? propertyTable name

/-- A single general category. -/
def singleCategory? (name : String) : Option Ranges :=
  rowOf? categoryTable name

/-- A general category, a group of categories, or one of the sets that count as one. -/
def category? (name : String) : Option Ranges :=
  if name = "any" then some [(0, 0x10FFFF)]
  else if name = "ascii" then some [(0, 0x7F)]
  else if name = "assigned" then (singleCategory? "cn").map (complementFrom 0)
  else
    match categoryGroups.find? fun row => row.1.contains name with
    | some row => some (row.2.flatMap fun member => (singleCategory? member).getD [])
    | none => singleCategory? name

/-- The row of a script. -/
def scriptRow? (name : String) : Option (List String × String × String) :=
  scriptTable.find? fun row => row.1.contains name

/-- The characters that belong to a script alone. -/
def script? (name : String) : Option Ranges :=
  (scriptRow? name).map fun row => rangesOf row.2.1

/-- The characters that are used with a script. -/
def scriptExtensions? (name : String) : Option Ranges :=
  (scriptRow? name).map fun row =>
    rangesOf (if row.2.2 = "=" then row.2.1 else row.2.2)

/-- The characters known to a version: those it added and those of all versions before. -/
def age? (name : String) : Option Ranges :=
  (ageTable.findIdx? fun row => row.1.contains name).map fun index =>
    (ageTable.take (index + 1)).flatMap fun row => rangesOf row.2

/-- Finds the set that a single name denotes. Three names that abbreviate a property mean
the general category of the same abbreviation. -/
def setOfName (name : List Char) : Except PropertyError Ranges :=
  let name := normalize name
  let categoryFirst := ["cf", "sc", "lc"].contains name
  if ¬ categoryFirst ∧ valuedProperties.contains name then .error .unknownProperty
  else
    match (if categoryFirst then none else binary? name) with
    | some ranges => .ok ranges
    | none =>
      match category? name with
      | some ranges => .ok ranges
      | none =>
        match script? name with
        | some ranges => .ok ranges
        | none => .error .unknownProperty

/-- Finds the set that a property and a value denote. -/
def setOfValue (property value : List Char) : Except PropertyError Ranges :=
  let property := normalize property
  let value := normalize value
  let found : Option Ranges :=
    if property = "gc" ∨ property = "generalcategory" then category? value
    else if property = "sc" ∨ property = "script" then script? value
    else if property = "scx" ∨ property = "scriptextensions" then scriptExtensions? value
    else if property = "age" then age? value
    else none
  match found with
  | some ranges => .ok ranges
  | none =>
    if valuedProperties.contains property ∨ (binary? property).isSome then .error .unknownValue
    else .error .unknownProperty

/-! ### The classes that patterns and readers ask for by rule -/

/-- White space. -/
def whiteSpace : Ranges := (binary? "whitespace").getD []

/-- Alphabetic characters. -/
def alphabetic : Ranges := (binary? "alphabetic").getD []

/-- Decimal digits of all scripts. -/
def decimalNumber : Ranges := (category? "nd").getD []

/-- Numbers of all kinds. -/
def numeric : Ranges := (category? "n").getD []

/-- Word characters: letters, marks, digits, connectors and joiners. -/
def wordCharacters : Ranges :=
  alphabetic ++ (category? "m").getD [] ++ decimalNumber ++ (category? "pc").getD [] ++
    (binary? "joincontrol").getD []

/-- Whether a character is white space. -/
def isWhiteSpace (char : Char) : Bool :=
  inRanges whiteSpace char.toNat

/-- Whether a character is alphabetic. -/
def isAlphabetic (char : Char) : Bool :=
  inRanges alphabetic char.toNat

/-- Whether a character is alphabetic or a number. -/
def isAlphanumeric (char : Char) : Bool :=
  isAlphabetic char || inRanges numeric char.toNat

/-- Whether a character is a word character. -/
def isWordCharacter (char : Char) : Bool :=
  inRanges wordCharacters char.toNat

end Intercept.Unicode
