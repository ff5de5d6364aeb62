/-
This file says which names have two parts. A name is read at its last dot, so the parts are those
that the name is joined from if the second one has no dot in it, and no name is joined from other
such parts as well. The bytes of a name tell the same: no character but the dot has the byte of the
dot in its encoding, so the last such byte is the last dot, and the name can be cut before and after
it without cutting a character.
-/
import Intercept.Proofs.ExportSearch
import Intercept.Proofs.Targeting

namespace Intercept

open Exports (nameBytes nameBytes_eq)

/-! ### Bytes of names -/

theorem nameBytes_append (first second : String) :
    nameBytes (first ++ second) = nameBytes first ++ nameBytes second := by
  simp only [nameBytes_eq, String.toList_append, List.flatMap_append]

theorem length_nameBytes (name : String) : (nameBytes name).length = name.utf8ByteSize := by
  rw [nameBytes, String.toUTF8_eq_toByteArray, Array.length_toList, ByteArray.size_data,
    String.size_toByteArray]

/-- The byte that encodes the dot. -/
def dotByte : UInt8 := 46

theorem nameBytes_dot : nameBytes "." = [dotByte] := by
  decide

/-- No other character has this byte in its encoding: the bytes of longer forms are greater. -/
theorem dotByte_mem_utf8EncodeChar {char : Char} :
    dotByte ∈ String.utf8EncodeChar char ↔ char = '.' := by
  constructor
  · intro member
    have value : char.val.toNat = 46 := by
      simp only [String.utf8EncodeChar] at member
      generalize char.val.toNat = value at member
      split_ifs at member <;>
        simp only [List.mem_cons, List.not_mem_nil, or_false, dotByte, ← UInt8.toNat_inj,
          UInt8.toNat_ofNat', UInt8.reduceToNat] at member <;>
        omega
    exact Char.ext (UInt32.toNat_inj.mp value)
  · rintro rfl
    decide

theorem dotByte_mem_nameBytes {name : String} : dotByte ∈ nameBytes name ↔ '.' ∈ name.toList := by
  simp only [nameBytes_eq, List.mem_flatMap, dotByte_mem_utf8EncodeChar, exists_eq_right]

/-- Where this byte stands in the encoding of characters, one of them is a dot. -/
theorem exists_dot_of_getElem? {chars : List Char} {offset : Nat}
    (stands : (chars.flatMap String.utf8EncodeChar)[offset]? = some dotByte) :
    ∃ before after : List Char, chars = before ++ '.' :: after ∧
      (before.flatMap String.utf8EncodeChar).length = offset := by
  induction chars generalizing offset with
  | nil => cases stands
  | cons char chars inductionHypothesis =>
    rw [List.flatMap_cons] at stands
    rcases Nat.lt_or_ge offset (String.utf8EncodeChar char).length with inside | outside
    · rw [List.getElem?_append_left inside] at stands
      obtain rfl := dotByte_mem_utf8EncodeChar.mp (List.mem_of_getElem? stands)
      have first : offset < 1 := inside
      exact ⟨[], chars, rfl, (Nat.lt_one_iff.mp first).symm⟩
    · rw [List.getElem?_append_right outside] at stands
      obtain ⟨before, after, rfl, size⟩ := inductionHypothesis stands
      refine ⟨char :: before, after, rfl, ?_⟩
      rw [List.flatMap_cons, List.length_append, size]
      omega

/-- A name can be cut around such a byte. -/
theorem exists_append_of_dotByte {name : String} {offset : Nat}
    (stands : (nameBytes name)[offset]? = some dotByte) :
    ∃ before after : String, name = before ++ "." ++ after ∧ before.utf8ByteSize = offset := by
  rw [nameBytes_eq] at stands
  obtain ⟨before, after, chars, size⟩ := exists_dot_of_getElem? stands
  refine ⟨String.ofList before, String.ofList after, ?_, ?_⟩
  · rw [← String.toList_inj, chars]
    simp
  · rw [← length_nameBytes, nameBytes_eq, String.toList_ofList, size]

namespace Target

variable {name container member : String}

/-! ### Cutting at an offset -/

/-- That the last byte of a dot in a name is at an offset, with bytes before and after it. -/
structure Cut (name : String) (offset : Nat) : Prop where
  dot : (nameBytes name)[offset]? = some dotByte
  last : ∀ later, offset < later → (nameBytes name)[later]? ≠ some dotByte
  start : offset ≠ 0
  stop : offset + 1 ≠ (nameBytes name).length

theorem nameBytes_join (container member : String) :
    nameBytes (container ++ "." ++ member) =
      nameBytes container ++ dotByte :: nameBytes member := by
  rw [nameBytes_append, nameBytes_append, nameBytes_dot, List.append_assoc, List.singleton_append]

theorem Cut.unique {offset other : Nat} (cut : Cut name offset) (cutOther : Cut name other) :
    offset = other := by
  rcases Nat.lt_trichotomy offset other with before | same | behind
  · exact absurd cutOther.dot (cut.last other before)
  · exact same
  · exact absurd cut.dot (cutOther.last offset behind)

theorem Splits.cut (splits : Splits name container member) :
    Cut name container.utf8ByteSize := by
  obtain ⟨rfl, named, nonempty, last⟩ := splits
  refine ⟨?_, ?_, String.utf8ByteSize_eq_zero_iff.not.mpr named, ?_⟩
  · rw [nameBytes_join, List.getElem?_append_right (length_nameBytes container).le,
      length_nameBytes, Nat.sub_self, List.getElem?_cons_zero]
  · intro later behind stands
    obtain ⟨distance, rfl⟩ := Nat.exists_eq_add_of_lt behind
    rw [nameBytes_join, List.getElem?_append_right (by rw [length_nameBytes]; omega),
      length_nameBytes, Nat.add_assoc, Nat.add_sub_cancel_left, List.getElem?_cons_succ] at stands
    exact last (dotByte_mem_nameBytes.mp (List.mem_of_getElem? stands))
  · rw [nameBytes_join, List.length_append, List.length_cons, length_nameBytes, length_nameBytes]
    have := String.utf8ByteSize_eq_zero_iff.not.mpr nonempty
    omega

theorem Cut.splits {offset : Nat} (cut : Cut name offset) :
    ∃ container member, Splits name container member ∧ container.utf8ByteSize = offset := by
  obtain ⟨container, member, rfl, size⟩ := exists_append_of_dotByte cut.dot
  refine ⟨container, member, ⟨rfl, ?_, ?_, ?_⟩, size⟩
  · rintro rfl
    exact cut.start size.symm
  · rintro rfl
    refine cut.stop ?_
    rw [nameBytes_join, List.length_append, length_nameBytes, size]
    rfl
  · intro dotted
    obtain ⟨distance, stands⟩ := List.getElem?_of_mem (dotByte_mem_nameBytes.mpr dotted)
    refine cut.last (offset + (distance + 1)) (by omega) ?_
    rw [nameBytes_join, List.getElem?_append_right (by rw [length_nameBytes]; omega),
      length_nameBytes, size, Nat.add_sub_cancel_left, List.getElem?_cons_succ, stands]

/-! ### Reading a name -/

/-- What a target is to the name that it is read from. -/
structure ReadFrom (target : Target) (name : String) : Prop where
  splits : Splits name target.container target.member
  /-- The name is not made of other such parts. -/
  only : ∀ container member, Splits name container member →
    container = target.container ∧ member = target.member
  /-- The parts are the bytes before and after the last dot. -/
  cut : ∃ offset, Cut name offset ∧ nameBytes target.container = (nameBytes name).take offset ∧
    nameBytes target.member = (nameBytes name).drop (offset + 1)
  /-- Wherever a name can be cut in this way, no character is cut. -/
  whole : ∀ offset, Cut name offset →
    (⟨offset⟩ : String.Pos.Raw).IsValid name ∧ (⟨offset + 1⟩ : String.Pos.Raw).IsValid name
  written : target.dottedName = name
  rebuilt : ofParts target.container target.member = .ok target

theorem Splits.isValid (splits : Splits name container member) :
    (⟨container.utf8ByteSize⟩ : String.Pos.Raw).IsValid name ∧
      (⟨container.utf8ByteSize + 1⟩ : String.Pos.Raw).IsValid name := by
  obtain ⟨rfl, -, -, -⟩ := splits
  constructor
  · exact String.Pos.Raw.isValid_iff_exists_append.mpr
      ⟨container, "." ++ member, String.append_assoc, rfl⟩
  · refine String.Pos.Raw.isValid_iff_exists_append.mpr ⟨container ++ ".", member, rfl, ?_⟩
    rw [String.Pos.Raw.ext_iff, String.byteIdx_rawEndPos, String.utf8ByteSize_append]
    rfl

theorem readFrom_of_parse {target : Target} (parses : parse name = .ok target) :
    target.ReadFrom name := by
  have splits := splits_of_parse parses
  have written := dottedName_of_parse parses
  have before : nameBytes target.container =
      (nameBytes name).take target.container.utf8ByteSize := by
    rw [← written, dottedName, nameBytes_join, ← length_nameBytes, List.take_left]
  have after : nameBytes target.member =
      (nameBytes name).drop (target.container.utf8ByteSize + 1) := by
    rw [← written, dottedName, nameBytes_join, ← length_nameBytes, ← List.drop_drop,
      List.drop_left, List.drop_one, List.tail_cons]
  exact ⟨splits, fun _ _ other => other.unique splits, ⟨_, splits.cut, before, after⟩,
    fun offset cut => cut.unique splits.cut ▸ splits.isValid, written,
    (congrArg parse written).trans parses⟩

/-- Exactly the names are read that consist of two parts, a container and a member without a dot in
it, neither of them empty. These are the names that have bytes before and after their last dot. The
target has these parts, which are unique; no character is cut, and joining the parts and reading
them again gives the same target. Other names are refused as malformed. -/
theorem names_in_two_parts_are_read (name : String) :
    ((∃ target, parse name = .ok target) ↔
      ∃ container member, Splits name container member) ∧
    ((∃ container member, Splits name container member) ↔ ∃ offset, Cut name offset) ∧
    (∀ target, parse name = .ok target → target.ReadFrom name) ∧
    ∀ failure, parse name = .error failure → failure = .malformedTarget name := by
  refine ⟨⟨?_, ?_⟩, ⟨?_, ?_⟩, fun target => readFrom_of_parse, ?_⟩
  · rintro ⟨target, parses⟩
    exact ⟨_, _, splits_of_parse parses⟩
  · rintro ⟨container, member, splits⟩
    exact ⟨_, parse_of_splits splits⟩
  · rintro ⟨container, member, splits⟩
    exact ⟨_, splits.cut⟩
  · rintro ⟨offset, cut⟩
    obtain ⟨container, member, splits, -⟩ := cut.splits
    exact ⟨container, member, splits⟩
  · intro failure refuses
    have refused := parse_of_not_splits fun container member splits =>
      nomatch refuses.symm.trans (parse_of_splits splits)
    exact Except.error.inj (refuses.symm.trans refused)

/-- Dots in a row and longer characters on both sides of the last one; a name that ends in a dot. -/
theorem names_in_two_parts_are_read_repeated_dots :
    parse "日本..语.é" = .ok ⟨"日本..语", "é"⟩ ∧
      (⟨"日本..语", "é"⟩ : Target).ReadFrom "日本..语.é" ∧
    parse "日本." = .error (.malformedTarget "日本.") ∧
      ¬ ∃ container member, Splits "日本." container member := by
  have parses : parse "日本..语.é" = .ok ⟨"日本..语", "é"⟩ := by decide
  have refuses : parse "日本." = .error (.malformedTarget "日本.") := by decide
  refine ⟨parses, (names_in_two_parts_are_read "日本..语.é").2.2.1 _ parses, refuses, ?_⟩
  intro splits
  obtain ⟨target, parsed⟩ := (names_in_two_parts_are_read "日本.").1.mpr splits
  exact nomatch refuses.symm.trans parsed

end Target

end Intercept
