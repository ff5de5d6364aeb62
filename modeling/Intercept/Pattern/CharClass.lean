/-
This file holds sets of characters as they are built by classes: from ranges by unions,
intersections, differences and complements, and by closing a set under change of case.
A set is a tree, and membership follows the tree. Outside of Unicode mode a set holds
bytes, and a set that holds a byte past ASCII can match text that is not UTF-8.
-/
import Intercept.Pattern.Syntax
import Intercept.Unicode.Property
import Intercept.Unicode.Casing

namespace Intercept.Pattern

/-- A set of characters. -/
inductive CharClass where
  | ranges (ranges : Unicode.Ranges)
  | union (left right : CharClass)
  | intersection (left right : CharClass)
  | difference (left right : CharClass)
  | symmetricDifference (left right : CharClass)
  | complement (body : CharClass)
  /-- The characters that differ from a member in case alone. -/
  | foldCase (body : CharClass)
  /-- The same for ASCII letters only. -/
  | foldAsciiCase (body : CharClass)

namespace CharClass

/-- The other case of an ASCII letter. -/
def asciiOtherCase (char : Char) : Char :=
  if char.isUpper then char.toLower else if char.isLower then char.toUpper else char

/-- Membership. -/
def contains : CharClass → Char → Bool
  | .ranges allowed, char => Unicode.inRanges allowed char.toNat
  | .union left right, char => left.contains char || right.contains char
  | .intersection left right, char => left.contains char && right.contains char
  | .difference left right, char => left.contains char && !right.contains char
  | .symmetricDifference left right, char => left.contains char != right.contains char
  | .complement body, char => !body.contains char
  | .foldCase body, char => (Unicode.caseOrbit char).any body.contains
  | .foldAsciiCase body, char => body.contains char || body.contains (asciiOtherCase char)

/-- Whether a set of bytes stays within ASCII. -/
def isAscii (set : CharClass) : Bool :=
  !(List.range 128).any fun offset => set.contains (Char.ofNat (offset + 128))

/-- The empty set. -/
def nothing : CharClass := .ranges []

/-- The set of one character. -/
def single (char : Char) : CharClass := .ranges [(char.toNat, char.toNat)]

/-- The ranges of the named ASCII classes. -/
def asciiRanges : AsciiKind → Unicode.Ranges
  | .alnum => [(48, 57), (65, 90), (97, 122)]
  | .alpha => [(65, 90), (97, 122)]
  | .ascii => [(0, 127)]
  | .blank => [(9, 9), (32, 32)]
  | .cntrl => [(0, 31), (127, 127)]
  | .digit => [(48, 57)]
  | .graph => [(33, 126)]
  | .lower => [(97, 122)]
  | .print => [(32, 126)]
  | .punct => [(33, 47), (58, 64), (91, 96), (123, 126)]
  | .space => [(9, 13), (32, 32)]
  | .upper => [(65, 90)]
  | .word => [(48, 57), (65, 90), (95, 95), (97, 122)]
  | .xdigit => [(48, 57), (65, 70), (97, 102)]

/-- The ranges of the escaped classes, in Unicode mode or for ASCII alone. -/
def shorthandRanges (unicode : Bool) : ShorthandKind → Unicode.Ranges
  | .digit => if unicode then Unicode.decimalNumber else asciiRanges .digit
  | .space => if unicode then Unicode.whiteSpace else asciiRanges .space
  | .word => if unicode then Unicode.wordCharacters else asciiRanges .word

end CharClass

end Intercept.Pattern
