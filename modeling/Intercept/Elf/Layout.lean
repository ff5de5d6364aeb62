/-
This file reads numbers and records out of a module file. The file says in its first
bytes whether its words have 32 or 64 bits and which byte of a number comes first; the
two kinds of file hold the same fields at different places. A stretch of the file can be
read if it lies in the file; a stretch of no bytes can be read anywhere.
-/

namespace Intercept.Elf

/-- How a file lays its numbers out. -/
structure Layout where
  wide : Bool
  bigEndian : Bool

/-- A file with its layout. -/
structure Image where
  layout : Layout
  content : Array UInt8

/-- The bytes of a record. -/
abbrev Record := List UInt8

/-- The place of a number in a record. -/
structure Field where
  offset : Nat
  size : Nat

/-- The number that bytes spell, the most significant byte first. -/
def numberOf (bytes : List UInt8) : Nat :=
  bytes.foldl (fun number byte => number * 256 + byte.toNat) 0

/-- The number in a field. -/
def Layout.read (layout : Layout) (record : Record) (field : Field) : Nat :=
  let bytes := (record.drop field.offset).take field.size
  numberOf (if layout.bigEndian then bytes else bytes.reverse)

/-- The number in a field that has one place in narrow files and another in wide ones. -/
def Layout.pick (layout : Layout) (record : Record) (narrow wide : Field) : Nat :=
  layout.read record (if layout.wide then wide else narrow)

/-- A size that narrow and wide files do not share. -/
def Layout.size (layout : Layout) (narrow wide : Nat) : Nat :=
  if layout.wide then wide else narrow

/-- A stretch of a file. -/
def sliceAt? (content : Array UInt8) (offset size : Nat) : Option Record :=
  if size = 0 then some []
  else if offset + size ≤ content.size then some (content.extract offset (offset + size)).toList
  else none

/-- A stretch of a file. -/
def Image.slice? (image : Image) (offset size : Nat) : Option Record :=
  sliceAt? image.content offset size

/-- Consecutive records of one size. -/
def splitRecords (size count : Nat) (bytes : List UInt8) : List Record :=
  (List.range count).map fun index => (bytes.drop (index * size)).take size

/-- Bytes cut into records of one size, if they are a whole number of them. -/
def wholeRecords? (size : Nat) (bytes : List UInt8) : Option (List Record) :=
  if bytes.length % size = 0 then some (splitRecords size (bytes.length / size) bytes) else none

end Intercept.Elf
