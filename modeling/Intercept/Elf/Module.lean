/-
This file lists the symbols of a module file: those of its first symbol table and those
of its first table for dynamic linking. Both tables must be in order even if only one is
asked for. The names of a table stand in the section that it links to; a name that does
not end in its section, or is no text, is no name.
-/
import Intercept.Elf.Header
import Intercept.Exports.Lookup
import Intercept.Text.Utf8

namespace Intercept.Elf

/-! ### Names -/

/-- Where the names of a table stand: from a place up to another one. -/
structure NameRange where
  start : Nat
  stop : Nat

/-- The name at an offset of a range. -/
def Image.name? (image : Image) (names : NameRange) (offset : Nat) : Option String :=
  let start := names.start + offset
  if start < names.stop ∧ names.stop ≤ image.content.size then
    let bytes := (image.content.extract start names.stop).toList
    if bytes.contains 0 then Text.Utf8.decode? (bytes.takeWhile (· ≠ 0)) else none
  else none

/-- The names that a table links to. A link to nothing leaves its symbols without names; any
other link must lead to a table of strings. -/
def nameRange? (sections : List SectionHeader) (link : Nat) : Option (Option NameRange) :=
  if link = 0 then some none
  else do
    let names ← sections[link]?
    if names.kind = SectionHeader.stringTable ∧ hasEnd names.offset names.size then
      some (some ⟨names.offset, names.offset + names.size⟩)
    else none

/-! ### Symbols -/

/-- The kinds of symbols that definitions can have. -/
def noKind : Nat := 0
def dataObject : Nat := 1
def function : Nat := 2

/-- Whether a section index means that a symbol is defined somewhere. Indexes from 0xff00 on
are reserved; the last one says that the index stands elsewhere. -/
def isDefinedIn (index : Nat) : Bool :=
  index ≠ 0 ∧ (index < 0xff00 ∨ index = overflowMark)

/-- The symbol in a record. -/
def Image.symbol (image : Image) (names : Option NameRange) (record : Record) :
    Exports.ListedSymbol :=
  let layout := image.layout
  let information := layout.pick record ⟨12, 1⟩ ⟨4, 1⟩
  let kind := information % 16
  let size := layout.pick record ⟨8, 4⟩ ⟨16, 8⟩
  { name := names.bind fun names => image.name? names (layout.read record ⟨0, 4⟩)
    address := UInt64.ofNat (layout.pick record ⟨4, 4⟩ ⟨8, 8⟩)
    isDefinition := isDefinedIn (layout.pick record ⟨14, 2⟩ ⟨6, 2⟩) ∧
      (kind = function ∨ kind = dataObject ∨ (kind = noKind ∧ size ≠ 0))
    isGlobal := information / 16 ≠ 0 }

/-- Sections with their indexes, the first one apart, which stands for no section. -/
def indexed (sections : List SectionHeader) : List (SectionHeader × Nat) :=
  sections.zipIdx.tail

/-- Whether the extended section indexes that belong to a table are whole and lie in the
file. -/
def Image.extendedIndexesFit (image : Image) (sections : List SectionHeader) (table : Nat) :
    Bool :=
  (indexed sections).all fun (part, _) =>
    !(part.kind = SectionHeader.extendedIndexes ∧ part.link = table) ||
      (part.size % 4 == 0 && (image.slice? part.offset part.size).isSome)

/-- A symbol table: its index, which is zero if there is none, and its symbols. -/
structure SymbolListing where
  index : Nat := 0
  symbols : List Exports.ListedSymbol := []

/-- The symbols of the first section of a kind. The first entry of a table is no symbol. -/
def Image.listing? (image : Image) (sections : List SectionHeader) (kind : Nat) :
    Option SymbolListing :=
  match (indexed sections).find? fun entry => entry.1.kind = kind with
  | none => some {}
  | some (table, index) => do
    let bytes ← image.slice? table.offset table.size
    let records ← wholeRecords? (image.layout.size 16 24) bytes
    let names ← nameRange? sections table.link
    if image.extendedIndexesFit sections index then
      some ⟨index, records.tail.map (image.symbol names)⟩
    else none

/-! ### Modules -/

/-- Whether relocations that use a symbol table apply to sections that are no relocations
themselves. -/
def relocationsFit (sections : List SectionHeader) (table : Nat) : Bool :=
  (indexed sections).all fun (part, _) =>
    !(part.holdsRelocations && part.link == table && part.info != 0) ||
      match sections[part.info]? with
      | none => false
      | some target => !target.holdsRelocations

/-- The symbols that a module file lists. -/
structure ModuleSymbols where
  dynamic : List Exports.ListedSymbol
  regular : List Exports.ListedSymbol

/-- Reads the symbols of a module file. -/
def ModuleSymbols.parse? (content : Array UInt8) : Option ModuleSymbols := do
  let image ← Image.open? content
  let header ← image.header?
  let sections ← image.sections? header
  if image.programHeadersFit header ∧ image.sectionNamesFit header sections then
    let regular ← image.listing? sections SectionHeader.symbolTable
    let dynamic ← image.listing? sections SectionHeader.dynamicSymbols
    if relocationsFit sections regular.index then some ⟨dynamic.symbols, regular.symbols⟩
    else none
  else none

end Intercept.Elf
