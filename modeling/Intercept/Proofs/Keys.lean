/-
This file reads keys. A key is one text: a class, a dot, a member, and the parameters in brackets
with a comma and a blank between them. It can be read if the member has no dot in it, and no
parameter has an opening bracket or a separating comma in it. Not every reference is like this, but
every key is the key of exactly one reference that is: what stands behind the last opening bracket
are the parameters, and the last dot before it ends the class. So two references have the same key
exactly if they read alike, and those that read as themselves are told apart by their keys.
-/
import Intercept.Proofs.Joining
import Mathlib.Data.List.Basic
import Mathlib.Data.List.Infix

namespace Intercept

/-! ### Lists with commas -/

namespace Text

/-- What stands between two parameters. -/
def comma : List Char := [',', ' ']

/-- Cuts a text at each comma with a blank behind it. -/
def cutCommas : List Char → List (List Char)
  | [] => [[]]
  | ',' :: ' ' :: rest => [] :: cutCommas rest
  | char :: rest => (cutCommas rest).modifyHead (char :: ·)

variable {char : Char} {part text first : List Char} {parts others : List (List Char)}

theorem cutCommas_cons (other : ¬ comma <+: char :: text) :
    cutCommas (char :: text) = (cutCommas text).modifyHead (char :: ·) := by
  rw [cutCommas]
  rintro rest rfl rfl
  exact other ⟨rest, rfl⟩

theorem exists_cutCommas (text : List Char) :
    ∃ first others, cutCommas text = first :: others := by
  fun_induction cutCommas text with
  | case1 | case2 => exact ⟨_, _, rfl⟩
  | case3 _ _ _ inductionHypothesis =>
    obtain ⟨first, others, cuts⟩ := inductionHypothesis
    exact ⟨_, _, congrArg (List.modifyHead _) cuts⟩

/-- The parts of a text make up the text. -/
theorem intercalate_cutCommas (text : List Char) : comma.intercalate (cutCommas text) = text := by
  fun_induction cutCommas text with
  | case1 => rfl
  | case2 rest inductionHypothesis =>
    obtain ⟨first, others, cuts⟩ := exists_cutCommas rest
    rw [cuts] at inductionHypothesis ⊢
    rw [List.intercalate_cons_cons, inductionHypothesis]
    rfl
  | case3 char rest _ inductionHypothesis =>
    obtain ⟨first, others, cuts⟩ := exists_cutCommas rest
    rw [cuts] at inductionHypothesis ⊢
    rw [List.modifyHead_cons, List.intercalate_cons_cons_left, inductionHypothesis]

theorem prefix_of_cutCommas (cuts : cutCommas text = first :: others) : first <+: text := by
  rw [← intercalate_cutCommas text, cuts]
  cases others with
  | nil => exact List.intercalate_singleton ▸ List.prefix_rfl
  | cons second rest =>
    rw [List.intercalate_cons_cons, List.append_assoc]
    exact List.prefix_append _ _

/-- No part has a separating comma in it. -/
theorem not_comma_of_mem_cutCommas (isPart : part ∈ cutCommas text) : ¬ comma <:+: part := by
  fun_induction cutCommas text generalizing part with
  | case1 =>
    rw [List.mem_singleton.mp isPart]
    decide
  | case2 rest inductionHypothesis =>
    rcases List.mem_cons.mp isPart with rfl | isLater
    · decide
    · exact inductionHypothesis isLater
  | case3 char rest other inductionHypothesis =>
    obtain ⟨first, others, cuts⟩ := exists_cutCommas rest
    rw [cuts] at inductionHypothesis isPart
    rw [List.modifyHead_cons] at isPart
    rcases List.mem_cons.mp isPart with rfl | isLater
    · rw [List.infix_cons_iff, not_or]
      refine ⟨fun begins => ?_, inductionHypothesis List.mem_cons_self⟩
      -- The blank would begin the text behind the comma.
      obtain ⟨rfl, blank⟩ := List.cons_prefix_cons.mp begins
      obtain ⟨behind, rfl⟩ := blank.trans (prefix_of_cutCommas cuts)
      exact other behind rfl rfl
    · exact inductionHypothesis (List.mem_cons_of_mem _ isLater)

theorem cutCommas_of_not_comma (whole : ¬ comma <:+: part) : cutCommas part = [part] := by
  induction part with
  | nil => rfl
  | cons char rest inductionHypothesis =>
    rw [List.infix_cons_iff, not_or] at whole
    rw [cutCommas_cons whole.1, inductionHypothesis whole.2, List.modifyHead_cons]

theorem cutCommas_append (whole : ¬ comma <:+: part) (rest : List Char) :
    cutCommas (part ++ comma ++ rest) = part :: cutCommas rest := by
  induction part with
  | nil => rfl
  | cons char tail inductionHypothesis =>
    rw [List.infix_cons_iff, not_or] at whole
    have other : ¬ comma <+: char :: (tail ++ comma ++ rest) := by
      intro begins
      obtain ⟨rfl, blank⟩ := List.cons_prefix_cons.mp begins
      cases tail with
      | nil => exact absurd (List.cons_prefix_cons.mp blank).1 (by decide)
      | cons second behind =>
        obtain ⟨rfl, -⟩ := List.cons_prefix_cons.mp blank
        exact whole.1 ⟨behind, rfl⟩
    rw [List.cons_append, List.cons_append, cutCommas_cons other, inductionHypothesis whole.2,
      List.modifyHead_cons]

/-- Parts without a separating comma are what their text is cut into. -/
theorem cutCommas_intercalate (present : parts ≠ [])
    (whole : ∀ part ∈ parts, ¬ comma <:+: part) : cutCommas (comma.intercalate parts) = parts := by
  induction parts with
  | nil => exact absurd rfl present
  | cons first others inductionHypothesis =>
    have wholeFirst := whole first List.mem_cons_self
    cases others with
    | nil => rw [List.intercalate_singleton, cutCommas_of_not_comma wholeFirst]
    | cons second rest =>
      rw [List.intercalate_cons_cons, cutCommas_append wholeFirst, inductionHypothesis
        (List.cons_ne_nil _ _) fun part isPart => whole part (List.mem_cons_of_mem _ isPart)]

/-- What stands before some separator stands before the last one. -/
theorem prefix_of_append_cons {front back before after : List Char}
    (same : front ++ char :: back = before ++ char :: after) (last : char ∉ after) :
    front <+: before := by
  rcases List.append_eq_append_iff.mp same with ⟨between, rfl, -⟩ | ⟨between, isFront, rest⟩
  · exact List.prefix_append _ _
  · cases between with
    | nil => rw [isFront, List.append_nil]
    | cons head tail =>
      obtain ⟨-, isAfter⟩ := List.cons.inj rest
      exact absurd (isAfter ▸ List.mem_append_right _ List.mem_cons_self) last

/-- A text has the characters of its parts, and commas and blanks. -/
theorem mem_intercalate_iff (other : char ∉ comma) :
    char ∈ comma.intercalate parts ↔ ∃ part ∈ parts, char ∈ part := by
  induction parts with
  | nil => simp
  | cons first others inductionHypothesis =>
    cases others with
    | nil => simp
    | cons second rest =>
      rw [List.intercalate_cons_cons, List.append_assoc, List.mem_append, List.mem_append,
        or_iff_right other, inductionHypothesis]
      exact (List.exists_mem_cons_iff (fun part => char ∈ part) _ _).symm

end Text

/-! ### Parameters -/

namespace Signature

/-- The parameters with commas between them. -/
def listing (signature : Signature) : List Char :=
  Text.comma.intercalate (signature.parameters.map String.toList)

/-- Reads parameters with commas between them. Where nothing is listed, there are none. -/
def ofListing (text : List Char) : Signature :=
  ⟨if text = [] then [] else (Text.cutCommas text).map String.ofList⟩

/-- That parameters can be read between the brackets of a key. -/
structure Legible (signature : Signature) : Prop where
  closed : ∀ parameter ∈ signature.parameters, '(' ∉ parameter.toList
  whole : ∀ parameter ∈ signature.parameters, ¬ Text.comma <:+: parameter.toList
  /-- A single parameter without a name is no parameter. -/
  named : signature.parameters ≠ [""]

instance : DecidablePred Legible := fun signature =>
  decidable_of_iff
    ((∀ parameter ∈ signature.parameters, '(' ∉ parameter.toList) ∧
      (∀ parameter ∈ signature.parameters, ¬ Text.comma <:+: parameter.toList) ∧
      signature.parameters ≠ [""])
    ⟨fun ⟨closed, whole, named⟩ => ⟨closed, whole, named⟩,
      fun ⟨closed, whole, named⟩ => ⟨closed, whole, named⟩⟩

variable {signature : Signature} {text : List Char}

theorem toList_render (signature : Signature) :
    signature.render.toList = '(' :: signature.listing ++ [')'] := by
  simp [render, listing, Text.comma]

theorem Legible.not_mem_listing (legible : signature.Legible) : '(' ∉ signature.listing := by
  rw [listing, Text.mem_intercalate_iff (by decide)]
  rintro ⟨part, isPart, opens⟩
  obtain ⟨parameter, isParameter, rfl⟩ := List.mem_map.mp isPart
  exact legible.closed parameter isParameter opens

theorem Legible.listing_eq_nil_iff (legible : signature.Legible) :
    signature.listing = [] ↔ signature.parameters = [] := by
  obtain ⟨parameters⟩ := signature
  cases parameters with
  | nil => exact iff_of_true rfl rfl
  | cons first others =>
    refine iff_of_false (fun empty => ?_) (List.cons_ne_nil _ _)
    cases others with
    | nil =>
      rw [listing, List.map_singleton, List.intercalate_singleton] at empty
      have unnamed := String.toList_eq_nil_iff.mp empty
      exact legible.named (congrArg (fun name => [name]) unnamed)
    | cons second rest =>
      rw [listing, List.map_cons, List.map_cons, List.intercalate_cons_cons] at empty
      exact absurd (List.append_eq_nil_iff.mp (List.append_eq_nil_iff.mp empty).1).2 (by decide)

/-- Parameters that can be read are read. -/
theorem Legible.ofListing_listing (legible : signature.Legible) :
    ofListing signature.listing = signature := by
  rw [ofListing, Signature.mk.injEq]
  by_cases none : signature.parameters = []
  · rw [if_pos (legible.listing_eq_nil_iff.mpr none), none]
  · have whole : ∀ part ∈ signature.parameters.map String.toList, ¬ Text.comma <:+: part :=
      List.forall_mem_map.mpr legible.whole
    rw [if_neg (mt legible.listing_eq_nil_iff.mp none), listing,
      Text.cutCommas_intercalate (mt List.map_eq_nil_iff.mp none) whole, List.map_map]
    exact List.map_id'' (fun _ => String.ofList_toList) _

theorem listing_ofListing (text : List Char) : (ofListing text).listing = text := by
  rw [listing, ofListing]
  split_ifs with none
  · exact none.symm
  · dsimp only
    rw [List.map_map, show String.toList ∘ String.ofList = id from funext fun _ =>
      String.toList_ofList, List.map_id, Text.intercalate_cutCommas]

/-- Whatever is listed, what is read can be read. -/
theorem legible_ofListing (closed : '(' ∉ text) : (ofListing text).Legible := by
  rw [← listing_ofListing text, listing, Text.mem_intercalate_iff (by decide)] at closed
  refine ⟨fun parameter isParameter opens => ?_, fun parameter isParameter => ?_, fun single => ?_⟩
  · exact closed ⟨_, List.mem_map_of_mem isParameter, opens⟩
  · rw [ofListing] at isParameter
    split_ifs at isParameter
    · cases isParameter
    · obtain ⟨part, isPart, rfl⟩ := List.mem_map.mp isParameter
      rw [String.toList_ofList]
      exact Text.not_comma_of_mem_cutCommas isPart
  · have empty : text = [] := by
      rw [← listing_ofListing text, listing, single]
      rfl
    subst empty
    cases single

end Signature

/-! ### Keys -/

namespace OverloadRef

variable {reference other : OverloadRef}

/-- Reads a key: what stands behind the last opening bracket are the parameters, and the last dot
before it ends the class. -/
def ofKey? (key : String) : Option OverloadRef :=
  match Text.splitLast? '(' key.toList.dropLast with
  | some (name, listing) =>
    match Text.splitLast? '.' name with
    | some (container, member) =>
      some ⟨String.ofList container, String.ofList member, Signature.ofListing listing⟩
    | none => none
  | none => none

/-- What the key of a reference is read as. -/
def reading (reference : OverloadRef) : OverloadRef :=
  (ofKey? reference.key).getD reference

/-- That a reference can be read from its key. -/
structure Legible (reference : OverloadRef) : Prop where
  undotted : '.' ∉ reference.member.toList
  signature : reference.signature.Legible

instance : DecidablePred Legible := fun reference =>
  decidable_of_iff ('.' ∉ reference.member.toList ∧ reference.signature.Legible)
    ⟨fun ⟨undotted, signature⟩ => ⟨undotted, signature⟩,
      fun ⟨undotted, signature⟩ => ⟨undotted, signature⟩⟩

theorem toList_key (reference : OverloadRef) :
    reference.key.toList = reference.container.toList ++ '.' :: reference.member.toList ++
      '(' :: reference.signature.listing ++ [')'] := by
  simp [key, Signature.toList_render]

/-- A reference that can be read from its key is read from it. -/
theorem Legible.ofKey?_key (legible : reference.Legible) :
    ofKey? reference.key = some reference := by
  rw [ofKey?, toList_key, List.dropLast_concat, Text.splitLast?_append _
    legible.signature.not_mem_listing]
  dsimp only
  rw [Text.splitLast?_append _ legible.undotted]
  dsimp only
  rw [String.ofList_toList, String.ofList_toList, legible.signature.ofListing_listing]

/-- Every key is the key of a reference that can be read from it. -/
theorem exists_legible (reference : OverloadRef) :
    ∃ other : OverloadRef, other.Legible ∧ other.key = reference.key := by
  obtain ⟨name, listing, isText, closed⟩ : ∃ name listing,
      reference.container.toList ++ '.' :: reference.member.toList ++
        '(' :: reference.signature.listing = name ++ '(' :: listing ∧ '(' ∉ listing :=
    Text.exists_append_of_mem (List.mem_append_right _ List.mem_cons_self)
  -- The dot behind the class stands before the last bracket, since it stands before its own one.
  have dotted : '.' ∈ name := (Text.prefix_of_append_cons isText closed).mem
    (List.mem_append_right _ List.mem_cons_self)
  obtain ⟨container, member, rfl, undotted⟩ := Text.exists_append_of_mem dotted
  refine ⟨⟨String.ofList container, String.ofList member, Signature.ofListing listing⟩,
    ⟨String.toList_ofList ▸ undotted, Signature.legible_ofListing closed⟩, ?_⟩
  rw [← String.toList_inj, toList_key, toList_key, isText, String.toList_ofList,
    String.toList_ofList, Signature.listing_ofListing]

theorem reading_of_legible (legible : reference.Legible) : reference.reading = reference := by
  rw [reading, legible.ofKey?_key, Option.getD_some]

theorem reading_congr (same : reference.key = other.key) : reference.reading = other.reading := by
  obtain ⟨legible, isLegible, sameKey⟩ := exists_legible reference
  rw [reading, reading, ← same, ← sameKey, isLegible.ofKey?_key, Option.getD_some, Option.getD_some]

/-- What a key is read as can be read, and has this key. -/
theorem reading_spec (reference : OverloadRef) :
    reference.reading.Legible ∧ reference.reading.key = reference.key := by
  obtain ⟨legible, isLegible, sameKey⟩ := exists_legible reference
  rw [reading_congr sameKey.symm, reading_of_legible isLegible]
  exact ⟨isLegible, sameKey⟩

/-- References have the same key exactly if they read alike. -/
theorem key_eq_iff : reference.key = other.key ↔ reference.reading = other.reading := by
  refine ⟨reading_congr, fun same => ?_⟩
  rw [← reference.reading_spec.2, same, other.reading_spec.2]

/-- References that can be read from their keys are told apart by them. -/
theorem Legible.eq_of_key (legible : reference.Legible) (legibleOther : other.Legible)
    (same : reference.key = other.key) : reference = other := by
  rw [← reading_of_legible legible, ← reading_of_legible legibleOther, reading_congr same]

end OverloadRef

end Intercept
