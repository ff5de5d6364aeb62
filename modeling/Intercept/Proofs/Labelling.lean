/-
This file says what the label of a module depends on. The last component of a path is a file name,
unless it is two dots; slashes at the end of the path, alone or with a dot behind them, are passed
over, and so are the directories in front. The label is the file name up to its first dot, or all of
a name that begins with one. So paths to files of one name have one label, wherever the files are. A
path without a file name is treated as if all of it were one; its label is not empty either.
-/
import Intercept.Exports.Label
import Intercept.Proofs.Joining
import Mathlib.Data.List.Induction
import Mathlib.Data.List.TakeWhile

namespace Intercept.Exports

variable {path part name stem mark : List Char}

/-! ### Components of a path -/

/-- That a component is the name of a file, not a mark for a directory. -/
structure IsFileName (name : List Char) : Prop where
  nonempty : name ≠ []
  notHere : name ≠ ['.']
  notAbove : name ≠ ['.', '.']
  whole : '/' ∉ name

/-- Whether a component of a path says anything: it is neither empty nor a single dot. -/
def counts (part : List Char) : Bool :=
  !(part == [] || part == ['.'])

theorem counts_iff : counts part ↔ part ≠ [] ∧ part ≠ ['.'] := by
  simp [counts]

theorem IsFileName.counts (isName : IsFileName name) : counts name :=
  counts_iff.mpr ⟨isName.nonempty, isName.notHere⟩

/-- The last component that counts decides. -/
theorem fileName?_eq (path : List Char) :
    fileName? path = ((Text.cut '/' path).reverse.find? counts).filter (· ≠ ['.', '.']) := by
  unfold counts
  rw [fileName?, List.find?_not_eq_head?_dropWhile]
  split
  · next empty => rw [empty]; rfl
  · next isAbove => rw [isAbove]; rfl
  · next notAbove named =>
    rw [named, List.head?_cons, Option.filter_some_pos]
    exact decide_eq_true notAbove

theorem fileName?_append (directory : List Char) (whole : '/' ∉ part) :
    fileName? (directory ++ '/' :: part) =
      if counts part then fileName? part else fileName? directory := by
  rw [fileName?_eq, Text.cut_append_cons, Text.cut_of_not_mem whole, List.reverse_append,
    List.reverse_singleton, List.singleton_append]
  split_ifs with named
  · rw [List.find?_cons_of_pos named, fileName?_eq, Text.cut_of_not_mem whole,
      List.reverse_singleton, List.find?_cons_of_pos named]
  · rw [List.find?_cons_of_neg named, ← fileName?_eq]

/-- A path of one component is its own file name, or has none. -/
theorem fileName?_eq_some_iff_of_not_mem (whole : '/' ∉ part) :
    fileName? part = some name ↔ part = name ∧ IsFileName name := by
  rw [fileName?_eq, Text.cut_of_not_mem whole, List.reverse_singleton, Option.filter_eq_some_iff]
  constructor
  · rintro ⟨found, notAbove⟩
    obtain rfl := List.mem_singleton.mp (List.mem_of_find?_eq_some found)
    have named := counts_iff.mp (List.find?_some found)
    exact ⟨rfl, named.1, named.2, of_decide_eq_true notAbove, whole⟩
  · rintro ⟨rfl, isName⟩
    exact ⟨List.find?_cons_of_pos isName.counts, decide_eq_true isName.notAbove⟩

/-! ### Where the file name stands -/

/-- What is passed over at the end of a path: a slash, alone or with a dot behind it. -/
def IsMark (mark : List Char) : Prop :=
  mark = ['/'] ∨ mark = ['/', '.']

theorem isMark_of_not_counts (mute : ¬ counts part) : IsMark ('/' :: part) := by
  rw [counts_iff, not_and_or, not_ne_iff, not_ne_iff] at mute
  exact mute.imp (congrArg _) (congrArg _)

/-- That the last component of a path is a file name. Directories may stand in front of it, and any
marks behind it. -/
structure EndsIn (path name : List Char) : Prop where
  isName : IsFileName name
  stands : ∃ (directory : List Char) (marks : List (List Char)),
    (directory = [] ∨ ∃ above, directory = above ++ ['/']) ∧ (∀ mark ∈ marks, IsMark mark) ∧
      path = directory ++ name ++ marks.flatten

theorem IsFileName.endsIn (isName : IsFileName name) : EndsIn name name :=
  ⟨isName, [], [], .inl rfl, fun _ => nofun, by simp⟩

theorem EndsIn.inside (directory : List Char) (ends : EndsIn path name) :
    EndsIn (directory ++ '/' :: path) name := by
  obtain ⟨isName, front, marks, opens, isMark, rfl⟩ := ends
  refine ⟨isName, directory ++ '/' :: front, marks, .inr ?_, isMark, by simp⟩
  rcases opens with rfl | ⟨above, rfl⟩
  · exact ⟨directory, rfl⟩
  · exact ⟨directory ++ '/' :: above, by simp⟩

theorem EndsIn.append_mark (ends : EndsIn path name) (isMark : IsMark mark) :
    EndsIn (path ++ mark) name := by
  obtain ⟨isName, directory, marks, opens, areMarks, rfl⟩ := ends
  refine ⟨isName, directory, marks ++ [mark], opens, ?_, by simp⟩
  simpa [or_imp, forall_and] using ⟨areMarks, isMark⟩

theorem fileName?_append_mark (path : List Char) (isMark : IsMark mark) :
    fileName? (path ++ mark) = fileName? path := by
  rcases isMark with rfl | rfl <;>
    exact (fileName?_append path (by decide)).trans (if_neg (by decide))

theorem fileName?_of_endsIn (ends : EndsIn path name) : fileName? path = some name := by
  obtain ⟨isName, directory, marks, opens, areMarks, rfl⟩ := ends
  induction marks using List.reverseRecOn with
  | nil =>
    have found := (fileName?_eq_some_iff_of_not_mem isName.whole).mpr ⟨rfl, isName⟩
    rw [List.flatten_nil, List.append_nil]
    rcases opens with rfl | ⟨above, rfl⟩
    · exact found
    · rw [List.append_assoc, List.singleton_append, fileName?_append above isName.whole,
        if_pos isName.counts, found]
  | append_singleton earlier mark inductionHypothesis =>
    have isMark := areMarks mark (List.mem_append_right _ (List.mem_singleton_self mark))
    rw [List.flatten_append, List.flatten_singleton, ← List.append_assoc,
      fileName?_append_mark _ isMark]
    exact inductionHypothesis fun other isOther => areMarks other (List.mem_append_left _ isOther)

theorem endsIn_of_fileName? {path : List Char} (found : fileName? path = some name) :
    EndsIn path name := by
  -- What stands before the last slash is a shorter path, and so is what stands behind it.
  by_cases slashed : '/' ∈ path
  · obtain ⟨directory, part, parts, whole⟩ := Text.exists_append_of_mem slashed
    rw [parts, fileName?_append directory whole] at found
    rw [parts]
    split_ifs at found with named
    · exact (endsIn_of_fileName? found).inside directory
    · exact (endsIn_of_fileName? found).append_mark (isMark_of_not_counts named)
  · obtain ⟨rfl, isName⟩ := (fileName?_eq_some_iff_of_not_mem slashed).mp found
    exact isName.endsIn
termination_by path.length
decreasing_by all_goals rw [parts, List.length_append, List.length_cons]; omega

/-- The file name of a path is the component that it ends in. -/
theorem fileName?_eq_some_iff : fileName? path = some name ↔ EndsIn path name :=
  ⟨endsIn_of_fileName?, fileName?_of_endsIn⟩

/-! ### Labels -/

/-- That a text is what a file name is cut down to: what stands before its first dot, or all of a
name that begins with a dot. -/
inductive IsStem : List Char → List Char → Prop
  | hidden (rest : List Char) : IsStem ('.' :: rest) ('.' :: rest)
  | plain {name : List Char} : '.' ∉ name → IsStem name name
  | extended {stem : List Char} (rest : List Char) :
    stem ≠ [] → '.' ∉ stem → IsStem stem (stem ++ '.' :: rest)

theorem IsStem.begins (isStem : IsStem stem name) : stem <+: name := by
  cases isStem with
  | hidden | plain => exact List.prefix_rfl
  | extended => exact List.prefix_append _ _

theorem IsStem.ne_nil (isStem : IsStem stem name) (nonempty : name ≠ []) : stem ≠ [] := by
  cases isStem with
  | hidden | plain => exact nonempty
  | extended _ named => exact named

theorem takeWhile_append_dot (rest : List Char) (absent : '.' ∉ stem) :
    (stem ++ '.' :: rest).takeWhile (· ≠ '.') = stem := by
  rw [List.takeWhile_append_of_pos, List.takeWhile_cons_of_neg, List.append_nil]
  · decide
  · intro char isChar
    exact decide_eq_true (ne_of_mem_of_not_mem isChar absent)

theorem isStem_takeWhile (name : List Char) :
    IsStem (if (name.takeWhile (· ≠ '.')).isEmpty then name else name.takeWhile (· ≠ '.'))
      name := by
  by_cases dotted : '.' ∈ name
  · obtain ⟨stem, rest, rfl, absent⟩ := List.eq_append_cons_of_mem dotted
    rw [takeWhile_append_dot rest absent]
    split_ifs with empty
    · rw [List.isEmpty_iff.mp empty]
      exact .hidden rest
    · exact .extended rest (List.isEmpty_iff.not.mp empty) absent
  · have all : name.takeWhile (· ≠ '.') = name :=
      List.takeWhile_eq_self_iff.mpr fun char isChar =>
        decide_eq_true (ne_of_mem_of_not_mem isChar dotted)
    rw [all, ite_self]
    exact .plain dotted

/-- A label is cut from the file name, or from the whole of a path that has none. -/
theorem isStem_label (nonempty : path ≠ []) :
    IsStem (label path) ((fileName? path).getD path) := by
  rw [label, if_neg (List.isEmpty_iff.not.mpr nonempty)]
  exact isStem_takeWhile _

theorem label_ne_nil (path : List Char) : label path ≠ [] := by
  by_cases empty : path = []
  · rw [empty]
    exact List.cons_ne_nil _ _
  · refine (isStem_label empty).ne_nil ?_
    cases found : fileName? path with
    | none => exact empty
    | some name => exact (endsIn_of_fileName? found).isName.nonempty

theorem EndsIn.ne_nil (ends : EndsIn path name) : path ≠ [] := by
  rintro rfl
  cases fileName?_of_endsIn ends

/-- A path and its file name have the same label. -/
theorem EndsIn.label (ends : EndsIn path name) : label path = label name := by
  rw [Exports.label, Exports.label, if_neg (List.isEmpty_iff.not.mpr ends.ne_nil),
    if_neg (List.isEmpty_iff.not.mpr ends.isName.nonempty), fileName?_of_endsIn ends,
    fileName?_of_endsIn ends.isName.endsIn]
  rfl

theorem EndsIn.isStem_label (ends : EndsIn path name) : IsStem (Exports.label path) name := by
  have isStem := Exports.isStem_label ends.ne_nil
  rwa [fileName?_of_endsIn ends] at isStem

theorem EndsIn.not_mem_label (ends : EndsIn path name) : '/' ∉ Exports.label path :=
  fun slashed => ends.isName.whole (ends.isStem_label.begins.subset slashed)

/-! ### File names and labels -/

/-- What the label of a path is, if the path ends in a file name. -/
structure LabelledBy (path name : String) : Prop where
  same : labelText path = labelText name
  isStem : IsStem (labelText path).toList name.toList
  whole : '/' ∉ (labelText path).toList
  inside : ∀ directory : String, labelText (directory ++ "/" ++ path) = labelText path
  slash : labelText (path ++ "/") = labelText path
  dot : labelText (path ++ "/.") = labelText path

theorem EndsIn.labelText {path name other : String} (ends : EndsIn path.toList name.toList)
    (endsOther : EndsIn other.toList name.toList) : labelText path = labelText other :=
  congrArg String.ofList (ends.label.trans endsOther.label.symm)

theorem EndsIn.labelledBy {path name : String} (ends : EndsIn path.toList name.toList) :
    LabelledBy path name where
  same := ends.labelText ends.isName.endsIn
  isStem := by
    rw [Exports.labelText, String.toList_ofList]
    exact ends.isStem_label
  whole := by
    rw [Exports.labelText, String.toList_ofList]
    exact ends.not_mem_label
  inside directory := by
    have text : (directory ++ "/" ++ path).toList = directory.toList ++ '/' :: path.toList := by
      simp
    exact EndsIn.labelText (text ▸ ends.inside directory.toList) ends
  slash := EndsIn.labelText (String.toList_append ▸ ends.append_mark (.inl rfl)) ends
  dot := EndsIn.labelText (String.toList_append ▸ ends.append_mark (.inr rfl)) ends

/-- The label of a path that ends in a file name is the label of this name: the name up to its first
dot, or all of a name that begins with a dot. There is no slash in it, and it stays the same if the
path is put into a directory, or a slash is put behind it, alone or with a dot. The label of no path
is empty. -/
theorem labels_depend_on_file_names (path : String) :
    (∀ name : String,
      fileName? path.toList = some name.toList ↔ EndsIn path.toList name.toList) ∧
    (∀ name : String, EndsIn path.toList name.toList → LabelledBy path name) ∧
    labelText path ≠ "" := by
  refine ⟨fun name => fileName?_eq_some_iff, fun name ends => ends.labelledBy, fun empty => ?_⟩
  refine label_ne_nil path.toList ?_
  have characters := congrArg String.toList empty
  rwa [labelText, String.toList_ofList] at characters

/-- A file behind a dot for its own directory, with marks at the end of the path; a hidden one. -/
theorem labels_depend_on_file_names_bell :
    EndsIn "/opt/./libbell.so.2//.".toList "libbell.so.2".toList ∧
      LabelledBy "/opt/./libbell.so.2//." "libbell.so.2" ∧
      labelText "libbell.so.2" = "libbell" ∧
    EndsIn "../.bell.so".toList ".bell.so".toList ∧
      LabelledBy "../.bell.so" ".bell.so" ∧ labelText ".bell.so" = ".bell.so" ∧
    labelText "a/.." ≠ "" := by
  have ends := ((labels_depend_on_file_names "/opt/./libbell.so.2//.").1 "libbell.so.2").mp
    (by decide)
  have hidden := ((labels_depend_on_file_names "../.bell.so").1 ".bell.so").mp (by decide)
  exact ⟨ends, (labels_depend_on_file_names _).2.1 _ ends, by decide, hidden,
    (labels_depend_on_file_names _).2.1 _ hidden, by decide, (labels_depend_on_file_names _).2.2⟩

end Intercept.Exports
