/-
This file says that listing the exports of a module and looking them up agree. A listing goes
through the table in order and prints a line for every export that passes the filter; a lookup
searches the same table by halving. Since the table ascends, a name is printed once, and with the
address that is found for it. A line shows the address in sixteen hexadecimal places, however large
it is, and the name behind them. So a listing can be read back, if no name goes over a line, and
answers for every name as the lookup does behind the filter.
-/
import Intercept.Proofs.ExportSearch
import Intercept.Proofs.Lossless

namespace Intercept

namespace Exports

/-! ### Tables -/

theorem ExportTable.find?_eq {table : ExportTable} (ascending : Ascending table.exports)
    (name : String) : table.find? name = firstNamed name table.exports :=
  search_eq ascending (Nat.le_refl _) fun index present _ => ⟨Nat.zero_le index, present⟩

/-- A table that is loaded ascends. -/
theorem ExportTable.ascending_of_load {path : String} {content : FileContent} {table : ExportTable}
    (loads : ExportTable.load path content = .ok table) : Ascending table.exports := by
  unfold ExportTable.load at loads
  split at loads
  · cases loads
  · cases loads
  · split at loads <;> cases loads
    exact (exports_ofSymbols path _ _).1

theorem name_of_firstNamed {name : String} {exports : List Export} {entry : Export}
    (found : firstNamed name exports = some entry) : entry ∈ exports ∧ entry.name = name := by
  have named := List.find?_some found
  exact ⟨List.mem_of_find?_eq_some found, of_decide_eq_true named⟩

/-- Of the exports that pass a test of their names, the first one of a name is the one among all
exports, if the name passes. -/
theorem firstNamed_filter (keeps : String → Bool) (name : String) (exports : List Export) :
    firstNamed name (exports.filter fun entry => keeps entry.name) =
      if keeps name then firstNamed name exports else none := by
  have sameTest : (fun entry : Export => decide (keeps entry.name ∧ decide (entry.name = name))) =
      fun entry => keeps name && decide (entry.name = name) := by
    funext entry
    by_cases named : entry.name = name
    · simp [named]
    · simp [named]
  rw [firstNamed, List.find?_filter, sameTest]
  cases keeps name with
  | true => rfl
  | false => exact List.find?_eq_none.mpr fun _ _ => Bool.false_ne_true

/-- That exports are those that a lookup finds in a table under the names that pass a test: by the
ascending bytes of their names, each name once. -/
structure ExportTable.Selects (table : ExportTable) (keeps : String → Bool)
    (entries : List Export) : Prop where
  ascending : (entries.map fun entry => nameBytes entry.name).Pairwise (· < ·)
  found : ∀ entry ∈ entries, table.find? entry.name = some entry
  named : ∀ name, keeps name ∧ (table.find? name).isSome ↔
    ∃! entry, entry ∈ entries ∧ entry.name = name

theorem ExportTable.selects_filter {table : ExportTable} (ascending : Ascending table.exports)
    (keeps : String → Bool) :
    table.Selects keeps (table.exports.filter fun entry => keeps entry.name) where
  ascending := List.pairwise_map.mpr ((ascending.filter _).imp nameBytes_lt)
  found entry isEntry := by
    rw [find?_eq ascending, ascending.firstNamed (List.mem_filter.mp isEntry).1]
  named name := by
    rw [find?_eq ascending]
    constructor
    · rintro ⟨kept, isFound⟩
      obtain ⟨entry, found⟩ := Option.isSome_iff_exists.mp isFound
      obtain ⟨isExport, rfl⟩ := name_of_firstNamed found
      refine ⟨entry, ⟨List.mem_filter.mpr ⟨isExport, kept⟩, rfl⟩, fun other ⟨isOther, same⟩ => ?_⟩
      have foundOther := ascending.firstNamed (List.mem_filter.mp isOther).1
      rw [same, found] at foundOther
      exact (Option.some.inj foundOther).symm
    · rintro ⟨entry, ⟨isEntry, rfl⟩, -⟩
      obtain ⟨isExport, kept⟩ := List.mem_filter.mp isEntry
      rw [ascending.firstNamed isExport]
      exact ⟨kept, rfl⟩

end Exports

namespace CommandLine

open Exports

/-! ### Lines -/

/-- The places in which an address is shown. -/
def addressColumn (address : UInt64) : List Char :=
  Text.padZeros 16 (Text.hexDigits address.toNat)

/-- That a column shows an address: by sixteen lower-case hexadecimal digits that denote it. -/
structure ShowsAddress (column : List Char) (address : UInt64) : Prop where
  width : column.length = 16
  digits : ∀ char ∈ column, ('0' ≤ char ∧ char ≤ '9') ∨ ('a' ≤ char ∧ char ≤ 'f')
  value : Text.number 16 column = address.toNat

theorem showsAddress_addressColumn (address : UInt64) :
    ShowsAddress (addressColumn address) address where
  width := Text.length_padZeros
    ((Nat.length_toDigits_le_iff (by decide) (by decide)).mpr address.toNat_lt)
  digits char isDigit := by
    rcases List.mem_append.mp isDigit with isZero | isDigit
    · rw [List.eq_of_mem_replicate isZero]
      decide
    · obtain ⟨digit, within, rfl⟩ := Text.exists_digit_of_mem_toDigits (by decide) isDigit
      interval_cases digit <;> decide
  value := (Text.number_padZeros (by decide) (by decide) 16 _).trans (Text.number_hexDigits _)

theorem toList_exportLine (entry : Export) :
    (exportLine entry).toList =
      ['0', 'x'] ++ addressColumn entry.address ++ [' '] ++ entry.name.toList := by
  simp [exportLine, addressColumn]

/-- Reads the line of an export. -/
def readLine (line : List Char) : Export :=
  ⟨String.ofList (line.drop 19), UInt64.ofNat (Text.number 16 ((line.drop 2).take 16))⟩

/-- Reads a listing line by line. -/
def readListing (text : String) : List Export :=
  (Text.cut '\n' text.toList).dropLast.map readLine

/-- A line is read back. -/
theorem readLine_exportLine (entry : Export) : readLine (exportLine entry).toList = entry := by
  have shows := showsAddress_addressColumn entry.address
  have width : (['0', 'x'] ++ addressColumn entry.address ++ [' ']).length = 19 := by
    simp [shows.width]
  have behind : (exportLine entry).toList.drop 19 = entry.name.toList := by
    rw [toList_exportLine, List.drop_left' width]
  have column : ((exportLine entry).toList.drop 2).take 16 = addressColumn entry.address := by
    rw [toList_exportLine, List.append_assoc, List.append_assoc]
    exact List.take_left' shows.width
  rw [readLine, behind, column, shows.value, String.ofList_toList, UInt64.ofNat_toNat]

/-- A listing is read back, if no name goes over a line. -/
theorem readListing_linesText {entries : List Export}
    (whole : ∀ entry ∈ entries, '\n' ∉ entry.name.toList) :
    readListing (linesText (entries.map exportLine)) = entries := by
  have lines : ∀ line ∈ (entries.map exportLine).map String.toList, '\n' ∉ line := by
    simp only [List.map_map, List.forall_mem_map]
    intro entry isEntry isBreak
    rw [Function.comp_apply, toList_exportLine] at isBreak
    simp only [List.mem_append] at isBreak
    rcases isBreak with ((isMark | isDigit) | isBlank) | isName
    · exact absurd isMark (by decide)
    · have digits := (showsAddress_addressColumn entry.address).digits _ isDigit
      exact absurd digits (by decide)
    · exact absurd isBlank (by decide)
    · exact whole entry isEntry isName
  rw [readListing, toList_linesText, Text.cut_lines lines, List.dropLast_concat, List.map_map,
    List.map_map]
  exact List.map_id'' readLine_exportLine entries

/-! ### Listings and lookups -/

/-- The listing of a table that ascends agrees with the lookup in it, wherever the table comes
from. -/
theorem listing_of_ascending {table : ExportTable} (ascending : Ascending table.exports)
    (pattern : Option Pattern) :
    (∃ entries : List Export, table.Selects (passes pattern) entries ∧
      exportLines pattern table = entries.map exportLine) ∧
    ((∀ name, passes pattern name → (table.find? name).isSome → '\n' ∉ name.toList) →
      ∀ name, firstNamed name (readListing (linesText (exportLines pattern table))) =
        if passes pattern name then table.find? name else none) := by
  have selects := ExportTable.selects_filter ascending (passes pattern)
  refine ⟨⟨_, selects, rfl⟩, fun whole name => ?_⟩
  rw [exportLines, readListing_linesText, firstNamed_filter, ExportTable.find?_eq ascending]
  intro entry isEntry
  have found := selects.found entry isEntry
  exact whole entry.name (List.mem_filter.mp isEntry).2 (Option.isSome_iff_exists.mpr ⟨_, found⟩)

/-- Whatever symbols a module lists, in a file of whatever format, its listing agrees with the
lookup. -/
theorem listing_of_symbols (path : String) (dynamic regular : List ListedSymbol)
    (pattern : Option Pattern) :
    let table := ExportTable.ofSymbols path dynamic regular
    (∃ entries : List Export, table.Selects (passes pattern) entries ∧
      exportLines pattern table = entries.map exportLine) ∧
    ((∀ name, passes pattern name → (table.find? name).isSome → '\n' ∉ name.toList) →
      ∀ name, firstNamed name (readListing (linesText (exportLines pattern table))) =
        if passes pattern name then table.find? name else none) :=
  listing_of_ascending (exports_ofSymbols path dynamic regular).1 pattern

/-- The listing of a module and the lookup in it agree. What is printed are the exports that the
lookup finds under the names that pass the filter, by the bytes of their names, one line for each:
the address in sixteen lower-case hexadecimal places, and the name. If no name goes over a line, the
listing alone tells what the lookup finds behind the filter. -/
theorem listing_agrees_with_lookup {path : String} {filter : Option String} {content : FileContent}
    {pattern : Option Pattern} {table : ExportTable} (reads : readFilter filter = .ok pattern)
    (loads : ExportTable.load path content = .ok table) :
    (∃ entries : List Export, table.Selects (passes pattern) entries ∧
      exportsReport path filter content = ⟨0, linesText (entries.map exportLine), ""⟩) ∧
    (∀ name address, ∃ column, ShowsAddress column address ∧
      exportLine ⟨name, address⟩ = "0x" ++ String.ofList column ++ " " ++ name) ∧
    ((∀ name, passes pattern name → (table.find? name).isSome → '\n' ∉ name.toList) →
      ∀ name, firstNamed name (readListing (exportsReport path filter content).output) =
        if passes pattern name then table.find? name else none) := by
  obtain ⟨⟨entries, selects, lines⟩, answers⟩ :=
    listing_of_ascending (ExportTable.ascending_of_load loads) pattern
  have report : exportsReport path filter content =
      ⟨0, linesText (exportLines pattern table), ""⟩ := by
    rw [exportsReport, reads]
    dsimp only
    rw [loads]
  refine ⟨⟨entries, selects, lines ▸ report⟩, fun name address => ?_, fun whole name => ?_⟩
  · exact ⟨addressColumn address, showsAddress_addressColumn address, rfl⟩
  · rw [report]
    exact answers whole name

/-- Numbers in four bytes each, the least significant byte first. -/
def littleWords (numbers : List Nat) : List UInt8 :=
  numbers.flatMap fun number => (List.range 4).map fun place => UInt8.ofNat (number >>> (8 * place))

/-- A module file that defines two functions: a header, the headers of three sections, the first of
which stands for none, the symbols behind an empty one, and their names. -/
def bellModule : List UInt8 :=
  ([0x7f, 0x45, 0x4c, 0x46, 1, 1, 1, 0, 0, 0, 0, 0, 0, 0, 0, 0] : List UInt8) ++
    littleWords [0, 1, 0, 0, 52, 0, 0, 40 <<< 16, 3 + 2 <<< 16] ++
    littleWords [0, 0, 0, 0, 0, 0, 0, 0, 0, 0] ++
    littleWords [0, 11, 0, 0, 172, 48, 2, 0, 0, 16] ++
    littleWords [0, 3, 0, 0, 220, 11, 0, 0, 0, 0] ++
    littleWords [0, 0, 0, 0] ++ littleWords [1, 0x2000, 0, 0x10012] ++
    littleWords [6, 0x1000, 0, 0x10012] ++
    ("\x00ring\x00call\x00".toList.map fun char => UInt8.ofNat char.toNat)

deriving instance DecidableEq for ListedSymbol
deriving instance DecidableEq for Elf.ModuleSymbols

/-- The symbols of the module. -/
def bellSymbols : List ListedSymbol :=
  [⟨some "ring", 0x2000, true, true⟩, ⟨some "call", 0x1000, true, true⟩]

theorem load_bellModule : ExportTable.load "bell.so" (.file bellModule) =
    .ok (.ofSymbols "bell.so" bellSymbols []) := by
  have parses : Elf.ModuleSymbols.parse? bellModule.toArray = some ⟨bellSymbols, []⟩ := by
    decide +kernel
  rw [ExportTable.load, parses]

/-- A listing of the names that begin with an r, read back. -/
theorem listing_agrees_with_lookup_bell :
    ∃ pattern, readFilter (some "^r") = .ok pattern ∧
      (∃ entries,
        (ExportTable.ofSymbols "bell.so" bellSymbols []).Selects (passes pattern) entries ∧
        exportsReport "bell.so" (some "^r") (.file bellModule) =
          ⟨0, linesText (entries.map exportLine), ""⟩) ∧
      firstNamed "ring" (readListing
        (exportsReport "bell.so" (some "^r") (.file bellModule)).output) =
          some ⟨"ring", 0x2000⟩ ∧
      firstNamed "call" (readListing
        (exportsReport "bell.so" (some "^r") (.file bellModule)).output) = none := by
  obtain ⟨pattern, reads, passesRing, passesCall⟩ : ∃ pattern,
      readFilter (some "^r") = .ok pattern ∧ passes pattern "ring" = true ∧
        passes pattern "call" = false := ⟨_, rfl, rfl, rfl⟩
  obtain ⟨ascending, first⟩ := exports_ofSymbols "bell.so" bellSymbols []
  obtain ⟨listed, -, answers⟩ := listing_agrees_with_lookup reads load_bellModule
  have found (name : String) : (ExportTable.ofSymbols "bell.so" bellSymbols []).find? name =
      (firstSymbol name bellSymbols).map fun symbol => ⟨name, symbol.address⟩ :=
    (ExportTable.find?_eq ascending name).trans (first name)
  have whole : ∀ name, passes pattern name →
      ((ExportTable.ofSymbols "bell.so" bellSymbols []).find? name).isSome →
        '\n' ∉ name.toList := by
    intro name _ isFound
    rw [found, Option.isSome_map] at isFound
    obtain ⟨symbol, isFirst⟩ := Option.isSome_iff_exists.mp isFound
    have isNamed := List.find?_some isFirst
    have named : symbol.name = some name := of_decide_eq_true isNamed
    have isSymbol := List.mem_of_find?_eq_some isFirst
    simp only [bellSymbols, List.mem_cons, List.not_mem_nil, or_false] at isSymbol
    rcases isSymbol with rfl | rfl <;> cases named <;> decide
  refine ⟨pattern, reads, listed, ?_, ?_⟩
  · rw [answers whole, if_pos passesRing, found]
    rfl
  · rw [answers whole, if_neg (by simp [passesCall])]

end CommandLine

end Intercept
