/-
This file proves that an export table answers as the symbols it was made from. A table is made in
four steps. The exports are picked, sorted by name, and thinned out so that a name occurs once, and
a name is then searched by halving. Sorting moves no export past one of the same name and thinning
out keeps the first one of a name. So each step leaves the first export of every name as it is, and
what the search finds is the first symbol of that name, in the order in which the module lists them.
-/
import Intercept.Exports.Lookup
import Mathlib.Data.List.Basic

namespace Intercept.Exports

/-! ### The order of names -/

/-- Characters are ordered as their bytes are, whatever follows them. -/
theorem utf8EncodeChar_lt {first second : Char} (before : first < second)
    (rest other : List UInt8) :
    String.utf8EncodeChar first ++ rest < String.utf8EncodeChar second ++ other := by
  have below : first.val.toNat < second.val.toNat := before
  have scalar : second.val.toNat < 0x110000 := by
    rcases second.valid with low | high
    · exact Nat.lt_trans low (by decide)
    · exact high.2
  simp only [String.utf8EncodeChar]
  generalize first.val.toNat = low at below
  generalize second.val.toNat = high at below scalar
  -- Of two forms the longer one begins with the greater byte. Bytes of two forms of one length are
  -- digits of the two values, so the first of them that differ decide.
  split_ifs <;>
    simp only [List.cons_append, List.nil_append, List.cons_lt_cons_iff, UInt8.lt_iff_toNat_lt,
      ← UInt8.toNat_inj, UInt8.toNat_ofNat'] <;>
    simp (disch := omega) only [Nat.mod_eq_of_lt] <;>
    omega

theorem flatMap_utf8EncodeChar_lt {first second : List Char} (before : first < second) :
    first.flatMap String.utf8EncodeChar < second.flatMap String.utf8EncodeChar := by
  induction first generalizing second with
  | nil =>
    cases second with
    | nil => cases before
    | cons char second =>
      rw [List.flatMap_cons, List.flatMap_nil]
      cases written : String.utf8EncodeChar char with
      | nil => exact absurd written String.utf8EncodeChar_ne_nil
      | cons byte bytes => exact List.nil_lt_cons _ _
  | cons char first inductionHypothesis =>
    cases second with
    | nil => cases before
    | cons other second =>
      rw [List.flatMap_cons, List.flatMap_cons]
      rcases List.cons_lt_cons_iff.mp before with smaller | ⟨rfl, restBefore⟩
      · exact utf8EncodeChar_lt smaller _ _
      · exact List.append_left_lt (inductionHypothesis restBefore)

/-- The bytes of a name. -/
def nameBytes (name : String) : List UInt8 :=
  name.toUTF8.data.toList

theorem nameBytes_eq (name : String) :
    nameBytes name = name.toList.flatMap String.utf8EncodeChar := by
  rw [nameBytes, String.toUTF8_eq_toByteArray, ← String.utf8Encode_toList]
  exact List.toList_data_toByteArray

/-- Names are ordered as their bytes are. -/
theorem nameBytes_lt {first second : String} (before : first < second) :
    nameBytes first < nameBytes second := by
  rw [nameBytes_eq, nameBytes_eq]
  exact flatMap_utf8EncodeChar_lt (String.lt_iff.mp before)

/-! ### The first export of a name -/

/-- The first export of a name. -/
def firstNamed (name : String) (exports : List Export) : Option Export :=
  exports.find? fun entry => entry.name = name

theorem firstNamed_cons_self {name : String} {entry : Export} (named : entry.name = name)
    (rest : List Export) : firstNamed name (entry :: rest) = some entry :=
  List.find?_cons_of_pos (decide_eq_true named)

theorem firstNamed_cons_other {name : String} {entry : Export} (named : entry.name ≠ name)
    (rest : List Export) : firstNamed name (entry :: rest) = firstNamed name rest :=
  List.find?_cons_of_neg (by simpa using named)

theorem firstNamed_append (name : String) (before after : List Export) :
    firstNamed name (before ++ after) = (firstNamed name before).or (firstNamed name after) :=
  List.find?_append

theorem firstNamed_eq_none_iff {name : String} {exports : List Export} :
    firstNamed name exports = none ↔ ∀ entry ∈ exports, entry.name ≠ name := by
  simp [firstNamed]

/-! ### Sorting -/

/-- The order in which exports are sorted. -/
def inOrder (left right : Export) : Bool :=
  !decide (right.name < left.name)

theorem inOrder_iff {left right : Export} : inOrder left right ↔ left.name ≤ right.name := by
  rw [inOrder, Bool.not_eq_true', decide_eq_false_iff_not, String.not_lt]

theorem inOrder_trans (first second third : Export) (before : inOrder first second)
    (after : inOrder second third) : inOrder first third :=
  inOrder_iff.mpr (String.le_trans (inOrder_iff.mp before) (inOrder_iff.mp after))

theorem inOrder_total (left right : Export) : inOrder left right || inOrder right left := by
  rw [Bool.or_eq_true, inOrder_iff, inOrder_iff]
  exact String.le_total _ _

/-- Sorting leaves the first export of a name in front of the others. -/
theorem firstNamed_mergeSort (name : String) (exports : List Export) :
    firstNamed name (exports.mergeSort inOrder) = firstNamed name exports := by
  induction exports with
  | nil => rw [List.mergeSort_nil]
  | cons entry rest inductionHypothesis =>
    -- The entry is put behind lesser ones only, and these have other names.
    obtain ⟨before, after, sorted, sortedRest, lesser⟩ :=
      List.mergeSort_cons inOrder_trans inOrder_total entry rest
    rw [sortedRest, firstNamed_append] at inductionHypothesis
    rw [sorted, firstNamed_append]
    by_cases named : entry.name = name
    · have absent : firstNamed name before = none := by
        refine firstNamed_eq_none_iff.mpr fun other isOther same => ?_
        have ordered : inOrder entry other :=
          inOrder_iff.mpr (Std.le_of_eq (named.trans same.symm))
        have unordered := lesser other isOther
        rw [ordered] at unordered
        cases unordered
      rw [absent, Option.none_or, firstNamed_cons_self named, firstNamed_cons_self named]
    · rw [firstNamed_cons_other named, firstNamed_cons_other named, inductionHypothesis]

/-- That every export has a greater name than those before it. -/
def Ascending (exports : List Export) : Prop :=
  exports.Pairwise fun first second => first.name < second.name

/-! ### Thinning out -/

/-- Thinning out keeps the first export of a name, unless one of that name went before. -/
theorem firstNamed_keepFirst {name : String} {previous : Option String} (exports : List Export)
    (fresh : previous ≠ some name) :
    firstNamed name (keepFirst previous exports) = firstNamed name exports := by
  induction exports generalizing previous with
  | nil => rfl
  | cons entry rest inductionHypothesis =>
    rw [keepFirst]
    split_ifs with repeated
    · have different : entry.name ≠ name := fun same => fresh (same ▸ repeated)
      rw [firstNamed_cons_other different, inductionHypothesis fresh]
    · by_cases named : entry.name = name
      · rw [firstNamed_cons_self named, firstNamed_cons_self named]
      · rw [firstNamed_cons_other named, firstNamed_cons_other named,
          inductionHypothesis fun same => named (Option.some.inj same)]

/-- What is thinned out in order ascends, past the name that went before. -/
theorem ascending_keepFirst (previous : Option String) {exports : List Export}
    (sorted : exports.Pairwise fun first second => first.name ≤ second.name)
    (bounded : ∀ name, previous = some name → ∀ entry ∈ exports, name ≤ entry.name) :
    Ascending (keepFirst previous exports) ∧
      ∀ name, previous = some name → ∀ entry ∈ keepFirst previous exports, name < entry.name := by
  induction exports generalizing previous with
  | nil => exact ⟨List.Pairwise.nil, fun _ _ => List.forall_mem_nil _⟩
  | cons entry rest inductionHypothesis =>
    obtain ⟨least, sortedRest⟩ := List.pairwise_cons.mp sorted
    rw [keepFirst]
    split_ifs with repeated
    · exact inductionHypothesis previous sortedRest fun name same other isOther =>
        bounded name same other (List.mem_cons_of_mem _ isOther)
    · obtain ⟨ascending, greater⟩ := inductionHypothesis (some entry.name) sortedRest
        fun name same => Option.some.inj same ▸ least
      replace greater := greater entry.name rfl
      refine ⟨List.pairwise_cons.mpr ⟨greater, ascending⟩, fun name same => ?_⟩
      have past : name < entry.name :=
        Std.lt_of_le_of_ne (bounded name same entry List.mem_cons_self)
          fun equal => repeated (same.trans (congrArg some equal))
      exact List.forall_mem_cons.mpr
        ⟨past, fun other isOther => String.lt_trans past (greater other isOther)⟩

/-! ### Searching -/

/-- Ascending exports have one of each name. -/
theorem Ascending.firstNamed {exports : List Export} (ascending : Ascending exports)
    {entry : Export} (isExport : entry ∈ exports) : firstNamed entry.name exports = some entry := by
  induction exports with
  | nil => cases isExport
  | cons head rest inductionHypothesis =>
    obtain ⟨least, ascendingRest⟩ := List.pairwise_cons.mp ascending
    rcases List.mem_cons.mp isExport with rfl | isLater
    · exact firstNamed_cons_self rfl rest
    · rw [firstNamed_cons_other (String.ne_of_lt (least entry isLater)),
        inductionHypothesis ascendingRest isLater]

/-- Of two exports the one with the lesser name stands first. -/
theorem Ascending.lt_of_name_lt {exports : Array Export} (ascending : Ascending exports.toList)
    {first second : Nat} {presentFirst : first < exports.size}
    {presentSecond : second < exports.size}
    (lesser : exports[first].name < exports[second].name) : first < second := by
  rcases Nat.lt_trichotomy first second with before | rfl | after
  · exact before
  · exact absurd lesser (String.lt_irrefl _)
  · have greater : exports[second].name < exports[first].name :=
      List.pairwise_iff_getElem.mp ascending second first presentSecond presentFirst after
    exact absurd lesser (String.lt_asymm greater)

/-- Halving finds the first export of a name, if none of this name lies outside of what it
searches. -/
theorem search_eq {exports : Array Export} (ascending : Ascending exports.toList) {name : String}
    {low high : Nat} (within : high ≤ exports.size)
    (inside : ∀ index (present : index < exports.size), exports[index].name = name →
      low ≤ index ∧ index < high) :
    ExportTable.search exports name low high = firstNamed name exports.toList := by
  fun_induction ExportTable.search exports name low high with
  | case1 low high proper middle missing =>
    have present : middle < exports.size := by omega
    exact absurd (Array.getElem?_eq_none_iff.mp missing) (Nat.not_le.mpr present)
  | case2 low high proper middle entry found named =>
    rw [← named, ascending.firstNamed (Array.mem_toList_iff.mpr (Array.mem_of_getElem? found))]
  | case3 low high proper middle entry found named lesser inductionHypothesis =>
    obtain ⟨present, rfl⟩ := Array.getElem?_eq_some_iff.mp found
    refine inductionHypothesis within fun index isPresent same => ?_
    exact ⟨ascending.lt_of_name_lt (same ▸ lesser), (inside index isPresent same).2⟩
  | case4 low high proper middle entry found named notLesser inductionHypothesis =>
    obtain ⟨present, rfl⟩ := Array.getElem?_eq_some_iff.mp found
    have greater : name < exports[middle].name :=
      Std.lt_of_le_of_ne (String.not_lt.mp notLesser) (Ne.symm named)
    refine inductionHypothesis (Nat.le_of_lt present) fun index isPresent same => ?_
    exact ⟨(inside index isPresent same).1, ascending.lt_of_name_lt (same ▸ greater)⟩
  | case5 low high empty =>
    refine (firstNamed_eq_none_iff.mpr fun entry isExport same => ?_).symm
    obtain ⟨index, present, rfl⟩ := Array.mem_iff_getElem.mp (Array.mem_toList_iff.mp isExport)
    have := inside index present same
    omega

/-! ### Listed symbols -/

/-- Whether a symbol is exported: a global definition with a name that can be read and is not
empty. -/
def ListedSymbol.isExported (symbol : ListedSymbol) : Bool :=
  symbol.isDefinition && symbol.isGlobal && symbol.name.any (· ≠ "")

/-- The symbols that a module exports, in the order in which it lists them: dynamic ones, or regular
ones if none of the dynamic ones is exported. -/
def exportedSymbols (dynamic regular : List ListedSymbol) : List ListedSymbol :=
  if dynamic.any ListedSymbol.isExported then dynamic.filter ListedSymbol.isExported
  else regular.filter ListedSymbol.isExported

/-- The first symbol of a name. -/
def firstSymbol (name : String) (symbols : List ListedSymbol) : Option ListedSymbol :=
  symbols.find? fun symbol => symbol.name = some name

theorem ListedSymbol.exists_name {symbol : ListedSymbol} (exported : symbol.isExported) :
    ∃ name, symbol.name = some name := by
  have named : symbol.name.any (· ≠ "") := by simp_all [isExported]
  exact Option.isSome_iff_exists.mp (Option.isSome_of_any named)

theorem exportsAmong_cons_exported {symbol : ListedSymbol} {name : String}
    (exported : symbol.isExported) (named : symbol.name = some name) (rest : List ListedSymbol) :
    exportsAmong (symbol :: rest) = ⟨name, symbol.address⟩ :: exportsAmong rest := by
  have picked : symbol.isDefinition ∧ symbol.isGlobal ∧ name ≠ "" := by
    simpa [ListedSymbol.isExported, named, and_assoc] using exported
  rw [exportsAmong, List.filterMap_cons, named]
  simp only [if_pos picked]
  rfl

theorem exportsAmong_cons_other {symbol : ListedSymbol} (other : ¬ symbol.isExported)
    (rest : List ListedSymbol) : exportsAmong (symbol :: rest) = exportsAmong rest := by
  rw [exportsAmong, List.filterMap_cons_none]
  · rfl
  · cases named : symbol.name with
    | none => rfl
    | some name =>
      refine if_neg fun picked => other ?_
      simpa [ListedSymbol.isExported, named, and_assoc] using picked

/-- The first export of a name is made from the first exported symbol of this name. -/
theorem firstNamed_exportsAmong (name : String) (symbols : List ListedSymbol) :
    firstNamed name (exportsAmong symbols) =
      (firstSymbol name (symbols.filter ListedSymbol.isExported)).map fun symbol =>
        ⟨name, symbol.address⟩ := by
  induction symbols with
  | nil => rfl
  | cons symbol rest inductionHypothesis =>
    by_cases exported : symbol.isExported
    · obtain ⟨own, named⟩ := symbol.exists_name exported
      rw [exportsAmong_cons_exported exported named, List.filter_cons_of_pos exported, firstSymbol,
        List.find?_cons]
      by_cases same : own = name
      · rw [firstNamed_cons_self same]
        simp [named, same]
      · rw [firstNamed_cons_other same, inductionHypothesis]
        simp [named, same, firstSymbol]
    · rw [exportsAmong_cons_other exported, List.filter_cons_of_neg exported, inductionHypothesis]

theorem exportsAmong_isEmpty (symbols : List ListedSymbol) :
    (exportsAmong symbols).isEmpty = !symbols.any ListedSymbol.isExported := by
  induction symbols with
  | nil => rfl
  | cons symbol rest inductionHypothesis =>
    by_cases exported : symbol.isExported
    · obtain ⟨name, named⟩ := symbol.exists_name exported
      rw [exportsAmong_cons_exported exported named, List.any_cons, exported]
      rfl
    · rw [exportsAmong_cons_other exported, inductionHypothesis, List.any_cons,
        (Bool.not_eq_true _).mp exported, Bool.false_or]

/-! ### Export tables -/

theorem firstNamed_listed (name : String) (dynamic regular : List ListedSymbol) :
    firstNamed name
        (if (exportsAmong dynamic).isEmpty then exportsAmong regular else exportsAmong dynamic) =
      (firstSymbol name (exportedSymbols dynamic regular)).map fun symbol =>
        ⟨name, symbol.address⟩ := by
  rw [exportedSymbols, exportsAmong_isEmpty]
  cases dynamic.any ListedSymbol.isExported with
  | true => exact firstNamed_exportsAmong name dynamic
  | false => exact firstNamed_exportsAmong name regular

/-- A table has the first export of each name, and ascends. -/
theorem exports_ofSymbols (path : String) (dynamic regular : List ListedSymbol) :
    Ascending (ExportTable.ofSymbols path dynamic regular).exports ∧
    ∀ name, firstNamed name (ExportTable.ofSymbols path dynamic regular).exports =
      (firstSymbol name (exportedSymbols dynamic regular)).map fun symbol =>
        ⟨name, symbol.address⟩ := by
  have made : (ExportTable.ofSymbols path dynamic regular).exports = keepFirst none
      ((if (exportsAmong dynamic).isEmpty then exportsAmong regular
        else exportsAmong dynamic).mergeSort inOrder) := rfl
  rw [made]
  refine ⟨(ascending_keepFirst none ?_ nofun).1, fun name => ?_⟩
  · exact (List.pairwise_mergeSort inOrder_trans inOrder_total _).imp inOrder_iff.mp
  · have fresh : none ≠ some name := nofun
    rw [firstNamed_keepFirst _ fresh, firstNamed_mergeSort, firstNamed_listed]

theorem firstSymbol_eq_none_iff {name : String} {symbols : List ListedSymbol} :
    firstSymbol name symbols = none ↔ ∀ symbol ∈ symbols, symbol.name ≠ some name := by
  simp [firstSymbol]

/-- An export table answers as the symbols of the module do. Its exports ascend by the bytes of
their names, and these are the names of the exported symbols. A search for a name finds the address
of the first symbol of this name, and fails if and only if there is none. Under the path of another
module, with another file name, nothing is searched at all. -/
theorem export_lookup_is_first_match (path : String) (dynamic regular : List ListedSymbol) :
    let table := ExportTable.ofSymbols path dynamic regular
    let symbols := exportedSymbols dynamic regular
    (table.exports.map fun entry => nameBytes entry.name).Pairwise (· < ·) ∧
    (∀ name, (∃ entry ∈ table.exports, entry.name = name) ↔
      ∃ symbol ∈ symbols, symbol.name = some name) ∧
    (∀ name, table.find? name =
      (firstSymbol name symbols).map fun symbol => ⟨name, symbol.address⟩) ∧
    (∀ name, table.find? name = none ↔ ∀ symbol ∈ symbols, symbol.name ≠ some name) ∧
    ∀ modulePath name, table.find modulePath name =
      if modulePath ≠ path ∧ fileName? path.toList ≠ fileName? modulePath.toList then
        .error (.unknownModule modulePath)
      else
        match firstSymbol name symbols with
        | some symbol => .ok symbol.address
        | none => .error (.unknownSymbol modulePath name) := by
  intro table symbols
  obtain ⟨ascending, first⟩ := exports_ofSymbols path dynamic regular
  have found (name : String) : table.find? name =
      (firstSymbol name symbols).map fun symbol => ⟨name, symbol.address⟩ :=
    (search_eq ascending (Nat.le_refl _) fun index present _ =>
      ⟨Nat.zero_le index, present⟩).trans (first name)
  have absent (name : String) : firstNamed name table.exports = none ↔
      firstSymbol name symbols = none := by
    rw [first, Option.map_eq_none_iff]
  refine ⟨List.pairwise_map.mpr (ascending.imp nameBytes_lt), fun name => ?_, found,
    fun name => ?_, fun modulePath name => ?_⟩
  · rw [← not_iff_not]
    simpa only [firstNamed_eq_none_iff, firstSymbol_eq_none_iff, not_exists, not_and] using
      absent name
  · rw [found, Option.map_eq_none_iff, firstSymbol_eq_none_iff]
  · have elsewhere : ¬ table.answersFor modulePath ↔
        modulePath ≠ path ∧ fileName? path.toList ≠ fileName? modulePath.toList := by
      simp [ExportTable.answersFor, show table.modulePath = path from rfl]
    rw [ExportTable.find, found]
    refine ite_congr (propext elsewhere) (fun _ => rfl) fun _ => ?_
    cases firstSymbol name symbols <;> rfl

end Intercept.Exports
