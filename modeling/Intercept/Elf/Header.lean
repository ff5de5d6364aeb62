/-
This file reads the header of a module file and its section headers. Counts that do not
fit into the header stand in the first section header instead. Whatever the header
announces must lie in the file and have the size that the layout gives it.
-/
import Intercept.Elf.Layout

namespace Intercept.Elf

/-- What a file header says about the tables of the file. -/
structure FileHeader where
  programOffset : Nat
  programEntrySize : Nat
  programCount : Nat
  sectionOffset : Nat
  sectionEntrySize : Nat
  sectionCount : Nat
  sectionNames : Nat

/-- What a section header says about its section. -/
structure SectionHeader where
  kind : Nat
  offset : Nat
  size : Nat
  link : Nat
  info : Nat

/-! ### Section kinds -/

/-- A table of all symbols. -/
def SectionHeader.symbolTable : Nat := 2

/-- A table of strings. -/
def SectionHeader.stringTable : Nat := 3

/-- Relocations with addends. -/
def SectionHeader.relocationsWithAddend : Nat := 4

/-- A section without bytes in the file. -/
def SectionHeader.noBits : Nat := 8

/-- Relocations. -/
def SectionHeader.relocations : Nat := 9

/-- A table of the symbols for dynamic linking. -/
def SectionHeader.dynamicSymbols : Nat := 11

/-- Section indexes that do not fit into a symbol table. -/
def SectionHeader.extendedIndexes : Nat := 18

/-- Relocations in compact form. -/
def SectionHeader.compactRelocations : Nat := 0x40000014

/-- Whether a section holds relocations in any form. -/
def SectionHeader.holdsRelocations (part : SectionHeader) : Bool :=
  [relocationsWithAddend, relocations, compactRelocations].contains part.kind

/-! ### The file header -/

/-- Opens a file: the layout that its first bytes announce, if the whole header is there. -/
def Image.open? (content : Array UInt8) : Option Image := do
  let identity ← sliceAt? content 0 16
  match identity with
  | 0x7f :: 0x45 :: 0x4c :: 0x46 :: wordSize :: byteOrder :: version :: _ =>
    if (wordSize = 1 ∨ wordSize = 2) ∧ (byteOrder = 1 ∨ byteOrder = 2) ∧ version = 1 then
      let image : Image := ⟨⟨wordSize = 2, byteOrder = 2⟩, content⟩
      if image.layout.size 52 64 ≤ content.size then some image else none
    else none
  | _ => none

/-- The header of a file. -/
def Image.header? (image : Image) : Option FileHeader := do
  let layout := image.layout
  let record ← image.slice? 0 (layout.size 52 64)
  return {
    programOffset := layout.pick record ⟨28, 4⟩ ⟨32, 8⟩
    sectionOffset := layout.pick record ⟨32, 4⟩ ⟨40, 8⟩
    programEntrySize := layout.pick record ⟨42, 2⟩ ⟨54, 2⟩
    programCount := layout.pick record ⟨44, 2⟩ ⟨56, 2⟩
    sectionEntrySize := layout.pick record ⟨46, 2⟩ ⟨58, 2⟩
    sectionCount := layout.pick record ⟨48, 2⟩ ⟨60, 2⟩
    sectionNames := layout.pick record ⟨50, 2⟩ ⟨62, 2⟩ }

/-! ### Section headers -/

/-- The size of a section header. -/
def Layout.sectionHeaderSize (layout : Layout) : Nat :=
  layout.size 40 64

/-- The section header in a record. -/
def Layout.sectionHeader (layout : Layout) (record : Record) : SectionHeader :=
  { kind := layout.read record ⟨4, 4⟩
    offset := layout.pick record ⟨16, 4⟩ ⟨24, 8⟩
    size := layout.pick record ⟨20, 4⟩ ⟨32, 8⟩
    link := layout.pick record ⟨24, 4⟩ ⟨40, 4⟩
    info := layout.pick record ⟨28, 4⟩ ⟨44, 4⟩ }

/-- The section headers from the start of their table on; none in a file without sections. -/
def Image.sectionHeaders? (image : Image) (header : FileHeader) (count : Nat) :
    Option (List SectionHeader) :=
  let size := image.layout.sectionHeaderSize
  if header.sectionOffset = 0 ∨ count = 0 then some []
  else if header.sectionEntrySize ≠ size then none
  else do
    let bytes ← image.slice? header.sectionOffset (count * size)
    return (splitRecords size count bytes).map image.layout.sectionHeader

/-- The first section header; none inside in a file without sections. -/
def Image.firstSection? (image : Image) (header : FileHeader) : Option (Option SectionHeader) := do
  let headers ← image.sectionHeaders? header 1
  return headers.head?

/-- The section headers of a file. A count of zero stands for the size of the first
section. -/
def Image.sections? (image : Image) (header : FileHeader) : Option (List SectionHeader) :=
  if header.sectionOffset = 0 then some []
  else if header.sectionCount ≠ 0 then image.sectionHeaders? header header.sectionCount
  else do
    let first ← image.firstSection? header
    image.sectionHeaders? header ((first.map SectionHeader.size).getD 0)

/-! ### What has to be in order -/

/-- A count or index that says that its value stands in the first section header. -/
def overflowMark : Nat := 0xffff

/-- A value of the header, or the one in the first section header that stands in for it. -/
def Image.overflowing? (image : Image) (header : FileHeader) (value : Nat)
    (elsewhere : SectionHeader → Nat) : Option Nat :=
  if value ≠ overflowMark then some value
  else do
    let first ← (← image.firstSection? header)
    return elsewhere first

/-- Whether the program headers lie in the file. -/
def Image.programHeadersFit (image : Image) (header : FileHeader) : Bool :=
  if header.programOffset = 0 then true
  else
    match image.overflowing? header header.programCount SectionHeader.info with
    | none => false
    | some count =>
      let size := image.layout.size 32 56
      count = 0 ∨ (header.programEntrySize = size ∧
        (image.slice? header.programOffset (count * size)).isSome)

/-- Whether a stretch has an end that a 64-bit number can express. -/
def hasEnd (offset size : Nat) : Bool :=
  offset + size < UInt64.size

/-- Whether there is a section for the names of the sections, if there are sections at all. -/
def Image.sectionNamesFit (image : Image) (header : FileHeader) (sections : List SectionHeader) :
    Bool :=
  if sections.isEmpty then true
  else
    match image.overflowing? header header.sectionNames SectionHeader.link with
    | none => false
    | some index =>
      match sections[index]? with
      | none => false
      | some names =>
        index ≠ 0 ∧ (names.kind = SectionHeader.noBits ∨ hasEnd names.offset names.size)

end Intercept.Elf
