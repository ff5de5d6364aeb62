/-
This file says what becomes of every argument under the edits of a plan. An edit overwrites one
element, adds one, or takes one out and moves up what stands behind it, so an element can be
followed from edit to edit, until an edit strikes the position at which it stands by then. What
stands in the edited list has one origin: it is an argument that no edit has struck, or it is the
literal of one edit. An edit of a position that is not there does nothing.
-/
import Intercept.Proofs.PlanInForce

namespace Intercept.Plan

/-! ### Single edits -/

namespace ArgumentEdit

/-- Where an edit leaves the element at a position; nowhere, if it strikes this position. -/
def leaves? (edit : ArgumentEdit) (position : Nat) : Option Nat :=
  match edit with
  | .set index _ => if position = index then none else some position
  | .append _ => some position
  | .drop index =>
    if position = index then none
    else if position < index then some position
    else some (position - 1)

/-- Where an edit of a list of some length puts a literal, and which one. -/
def puts? (edit : ArgumentEdit) (length : Nat) : Option (Nat × Toml.Value) :=
  match edit with
  | .set index literal => if index < length then some (index, literal) else none
  | .append literal => some (length, literal)
  | .drop _ => none

/-- Whether an edit adds an element. -/
def appends : ArgumentEdit → Bool
  | .append _ => true
  | _ => false

/-- Whether an edit of a list of some length takes an element out. -/
def takesOut (edit : ArgumentEdit) (length : Nat) : Bool :=
  match edit with
  | .drop index => index < length
  | _ => false

/-- That an edit overwrites a position or takes it out. -/
def Strikes (edit : ArgumentEdit) (position : Nat) : Prop :=
  (∃ literal, edit = .set position literal) ∨ edit = .drop position

variable {edit : ArgumentEdit} {arguments : List Value} {length position : Nat} {value : Value}

theorem leaves?_eq_none_iff : edit.leaves? position = none ↔ edit.Strikes position := by
  cases edit with
  | set index literal => simp [leaves?, Strikes, eq_comm]
  | append literal => simp [leaves?, Strikes]
  | drop index => grind [leaves?, Strikes]

/-- Edits leave elements in their order. -/
theorem leaves?_lt {first second firstLeft secondLeft : Nat} (before : first < second)
    (isFirst : edit.leaves? first = some firstLeft)
    (isSecond : edit.leaves? second = some secondLeft) : firstLeft < secondLeft := by
  cases edit <;> simp only [leaves?] at isFirst isSecond <;> grind

/-- Where a literal is put, no element has been left. -/
theorem leaves?_ne_of_puts? {before : Nat} {literal : Toml.Value}
    (puts : edit.puts? length = some (position, literal)) (inside : before < length) :
    edit.leaves? before ≠ some position := by
  cases edit <;> simp only [leaves?, puts?] at puts ⊢ <;> grind

theorem eq_of_puts? {literal : Toml.Value}
    (puts : edit.puts? length = some (position, literal)) :
    edit = .set position literal ∨ edit = .append literal := by
  cases edit <;> simp only [puts?] at puts <;> grind

/-- What stands in a list after an edit has been left there, or it is the literal that has been put
there. -/
theorem getElem?_apply :
    (edit.apply arguments)[position]? = some value ↔
      (∃ before, arguments[before]? = some value ∧ edit.leaves? before = some position) ∨
        ∃ literal, edit.puts? arguments.length = some (position, literal) ∧
          value = literalValue literal := by
  cases edit with
  | set index literal =>
    rw [apply, List.getElem?_set]
    simp only [leaves?, puts?]
    grind
  | append literal =>
    rw [apply, List.getElem?_append]
    simp only [leaves?, puts?]
    grind
  | drop index =>
    -- Behind the dropped position, what stands at a position stood one further before.
    rw [apply, List.getElem?_eraseIdx]
    simp only [leaves?, puts?]
    grind

theorem length_apply (edit : ArgumentEdit) (arguments : List Value) :
    (edit.apply arguments).length + (edit.takesOut arguments.length).toNat =
      arguments.length + edit.appends.toNat := by
  cases edit with
  | set index literal => simp [apply, takesOut, appends]
  | append literal => simp [apply, takesOut, appends]
  | drop index =>
    rw [apply, List.length_eraseIdx, takesOut]
    by_cases inside : index < arguments.length <;> simp [inside, appends]
    omega

end ArgumentEdit

/-! ### Edits one after another -/

theorem applyEdits_append (first second : List ArgumentEdit) (arguments : List Value) :
    applyEdits (first ++ second) arguments = applyEdits second (applyEdits first arguments) :=
  List.foldl_append

/-- Where edits leave the element at a position. -/
def follow? (edits : List ArgumentEdit) (position : Nat) : Option Nat :=
  edits.foldlM (fun position edit => edit.leaves? position) position

/-- How many of some edits take an element out of the list that the edits before them have left. -/
def removals : List ArgumentEdit → List Value → Nat
  | [], _ => 0
  | edit :: rest, arguments =>
    (edit.takesOut arguments.length).toNat + removals rest (edit.apply arguments)

theorem length_applyEdits (edits : List ArgumentEdit) (arguments : List Value) :
    (applyEdits edits arguments).length + removals edits arguments =
      arguments.length + edits.countP ArgumentEdit.appends := by
  induction edits generalizing arguments with
  | nil => rfl
  | cons edit rest inductionHypothesis =>
    have first := edit.length_apply arguments
    have others := inductionHypothesis (edit.apply arguments)
    have counted : (edit :: rest).countP ArgumentEdit.appends =
        rest.countP ArgumentEdit.appends + edit.appends.toNat := by
      rw [List.countP_cons]
      cases edit.appends <;> rfl
    rw [removals, counted]
    have steps : applyEdits (edit :: rest) arguments = applyEdits rest (edit.apply arguments) := rfl
    rw [steps]
    omega

theorem follow?_cons (edit : ArgumentEdit) (rest : List ArgumentEdit) (position : Nat) :
    follow? (edit :: rest) position = (edit.leaves? position).bind (follow? rest) :=
  List.foldlM_cons

theorem follow?_append (first second : List ArgumentEdit) (position : Nat) :
    follow? (first ++ second) position = (follow? first position).bind (follow? second) :=
  List.foldlM_append

theorem follow?_concat (edits : List ArgumentEdit) (edit : ArgumentEdit) (position : Nat) :
    follow? (edits ++ [edit]) position = (follow? edits position).bind edit.leaves? := by
  rw [follow?_append]
  refine congrArg (follow? edits position).bind (funext fun middle => ?_)
  rw [follow?_cons]
  exact Option.bind_fun_some _

theorem follow?_lt {edits : List ArgumentEdit} {first second firstLeft secondLeft : Nat}
    (before : first < second) (isFirst : follow? edits first = some firstLeft)
    (isSecond : follow? edits second = some secondLeft) : firstLeft < secondLeft := by
  induction edits using List.reverseRecOn generalizing firstLeft secondLeft with
  | nil =>
    cases isFirst
    cases isSecond
    exact before
  | append_singleton earlier edit inductionHypothesis =>
    rw [follow?_concat] at isFirst isSecond
    obtain ⟨firstMiddle, isFirstMiddle, isFirst⟩ := Option.bind_eq_some_iff.mp isFirst
    obtain ⟨secondMiddle, isSecondMiddle, isSecond⟩ := Option.bind_eq_some_iff.mp isSecond
    exact edit.leaves?_lt (inductionHypothesis isFirstMiddle isSecondMiddle) isFirst isSecond

/-! ### Origins -/

/-- Where an element of an edited list comes from: it is an argument of the caller, told by its
position in the list of the caller, or the literal of an edit, told by the number of edits before
it. -/
inductive Origin where
  | argument (start : Nat)
  | literal (number : Nat)

/-- That what comes from an origin stands at a position of the edited list, as some value. A literal
is followed from where its edit puts it in the list that the edits before it have left. -/
inductive Stands (edits : List ArgumentEdit) (arguments : List Value) :
    Origin → Nat → Value → Prop where
  | argument {start position : Nat} {value : Value} (passed : arguments[start]? = some value)
      (left : follow? edits start = some position) :
      Stands edits arguments (.argument start) position value
  | literal {before later : List ArgumentEdit} {edit : ArgumentEdit} {start position : Nat}
      {literal : Toml.Value} (split : edits = before ++ edit :: later)
      (puts : edit.puts? (applyEdits before arguments).length = some (start, literal))
      (left : follow? later start = some position) :
      Stands edits arguments (.literal before.length) position (literalValue literal)

/-- That the edits lose an argument: one of them strikes the position at which the edits before it
have left the argument, in the list as these edits have left it. -/
def Loses (edits : List ArgumentEdit) (arguments : List Value) (start : Nat) : Prop :=
  ∃ before edit later position, edits = before ++ edit :: later ∧
    follow? before start = some position ∧ position < (applyEdits before arguments).length ∧
    edit.Strikes position

variable {edits : List ArgumentEdit} {arguments : List Value} {edit : ArgumentEdit}
  {origin other : Origin} {position : Nat} {value : Value}

/-- One more edit leaves an element, or it puts its own literal. -/
theorem stands_concat :
    Stands (edits ++ [edit]) arguments origin position value ↔
      (∃ middle, Stands edits arguments origin middle value ∧
        edit.leaves? middle = some position) ∨
      origin = .literal edits.length ∧ ∃ literal,
        edit.puts? (applyEdits edits arguments).length = some (position, literal) ∧
          value = literalValue literal := by
  constructor
  · intro stands
    cases stands with
    | argument passed left =>
      rw [follow?_concat] at left
      obtain ⟨middle, leftBefore, leaves⟩ := Option.bind_eq_some_iff.mp left
      exact .inl ⟨middle, .argument passed leftBefore, leaves⟩
    | @literal before later putting start _ literal split puts left =>
      rcases List.eq_nil_or_concat later with rfl | ⟨inner, last, rfl⟩
      · obtain ⟨rfl, same⟩ := List.append_inj' split rfl
        cases same
        cases left
        exact .inr ⟨rfl, literal, puts, rfl⟩
      · rw [List.concat_eq_append, ← List.cons_append, ← List.append_assoc] at split
        obtain ⟨rfl, same⟩ := List.append_inj' split rfl
        cases same
        rw [List.concat_eq_append, follow?_concat] at left
        obtain ⟨middle, leftBefore, leaves⟩ := Option.bind_eq_some_iff.mp left
        exact .inl ⟨middle, .literal rfl puts leftBefore, leaves⟩
  · rintro (⟨middle, stands, leaves⟩ | ⟨rfl, literal, puts, rfl⟩)
    · cases stands with
      | argument passed left =>
        refine .argument passed ?_
        rw [follow?_concat, left]
        exact leaves
      | @literal before later putting start _ literal split puts left =>
        have splitAgain : edits ++ [edit] = before ++ putting :: (later ++ [edit]) := by
          rw [split, List.append_assoc, List.cons_append]
        refine .literal splitAgain puts ?_
        rw [follow?_concat, left]
        exact leaves
    · exact .literal rfl puts rfl

/-- What stands in the edited list comes from somewhere. -/
theorem getElem?_applyEdits :
    (applyEdits edits arguments)[position]? = some value ↔
      ∃ origin, Stands edits arguments origin position value := by
  induction edits using List.reverseRecOn generalizing position with
  | nil =>
    constructor
    · exact fun passed => ⟨_, .argument passed rfl⟩
    · rintro ⟨_, ⟨passed, left⟩ | ⟨split, -, -⟩⟩
      · cases left
        exact passed
      · cases List.append_eq_nil_iff.mp split.symm |>.2
  | append_singleton earlier edit inductionHypothesis =>
    have steps : applyEdits (earlier ++ [edit]) arguments =
        edit.apply (applyEdits earlier arguments) := applyEdits_append earlier [edit] arguments
    rw [steps, ArgumentEdit.getElem?_apply]
    simp only [inductionHypothesis, stands_concat]
    constructor
    · rintro (⟨middle, ⟨origin, stands⟩, leaves⟩ | puts)
      · exact ⟨origin, .inl ⟨middle, stands, leaves⟩⟩
      · exact ⟨_, .inr ⟨rfl, puts⟩⟩
    · rintro ⟨origin, ⟨middle, stands, leaves⟩ | ⟨-, puts⟩⟩
      · exact .inl ⟨middle, ⟨origin, stands⟩, leaves⟩
      · exact .inr puts

theorem Stands.lt_length (stands : Stands edits arguments origin position value) :
    position < (applyEdits edits arguments).length :=
  (List.getElem?_eq_some_iff.mp (getElem?_applyEdits.mpr ⟨origin, stands⟩)).1

/-- What stands at one position comes from one origin. -/
theorem Stands.origin_unique {otherValue : Value}
    (stands : Stands edits arguments origin position value)
    (alsoStands : Stands edits arguments other position otherValue) : origin = other := by
  induction edits using List.reverseRecOn generalizing position with
  | nil =>
    cases stands with
    | literal split => cases (List.append_eq_nil_iff.mp split.symm).2
    | argument _ left =>
      cases alsoStands with
      | literal split => cases (List.append_eq_nil_iff.mp split.symm).2
      | argument _ alsoLeft =>
        cases left
        cases alsoLeft
        rfl
  | append_singleton earlier edit inductionHypothesis =>
    rcases stands_concat.mp stands with ⟨middle, stood, leaves⟩ | ⟨rfl, _, puts, -⟩ <;>
      rcases stands_concat.mp alsoStands with
        ⟨otherMiddle, alsoStood, alsoLeaves⟩ | ⟨rfl, _, also, -⟩
    · -- Elements that are left at one position stood at one position before.
      rcases Nat.lt_trichotomy middle otherMiddle with before | rfl | behind
      · exact absurd (edit.leaves?_lt before leaves alsoLeaves) (Nat.lt_irrefl _)
      · exact inductionHypothesis stood alsoStood
      · exact absurd (edit.leaves?_lt behind alsoLeaves leaves) (Nat.lt_irrefl _)
    · exact absurd leaves (edit.leaves?_ne_of_puts? also stood.lt_length)
    · exact absurd alsoLeaves (edit.leaves?_ne_of_puts? puts alsoStood.lt_length)
    · rfl

/-- The edits lose an argument exactly if they leave it nowhere. -/
theorem loses_iff {start : Nat} (passed : start < arguments.length) :
    Loses edits arguments start ↔ follow? edits start = none := by
  constructor
  · rintro ⟨before, edit, later, position, rfl, left, -, strikes⟩
    rw [follow?_append, left, Option.bind_some, follow?_cons,
      ArgumentEdit.leaves?_eq_none_iff.mpr strikes, Option.bind_none]
  · intro nowhere
    induction edits using List.reverseRecOn with
    | nil => cases nowhere
    | append_singleton earlier edit inductionHypothesis =>
      rw [follow?_concat] at nowhere
      cases left : follow? earlier start with
      | none =>
        obtain ⟨before, striking, later, position, rfl, struck⟩ := inductionHypothesis left
        refine ⟨before, striking, later ++ [edit], position, ?_, struck⟩
        rw [List.append_assoc, List.cons_append]
      | some middle =>
        rw [left, Option.bind_some] at nowhere
        have stands : Stands earlier arguments (.argument start) middle _ :=
          .argument (List.getElem?_eq_getElem passed) left
        exact ⟨earlier, edit, [], middle, rfl, left, stands.lt_length,
          ArgumentEdit.leaves?_eq_none_iff.mp nowhere⟩

/-! ### The account of edits -/

/-- That a list is what edits make of an argument list, told element by element. -/
structure Accounts (edits : List ArgumentEdit) (arguments result : List Value) : Prop where
  /-- Each edit edits the list that the edits before it have left. -/
  steps : ∀ before edit later, edits = before ++ edit :: later →
    result = applyEdits later (edit.apply (applyEdits before arguments))
  /-- The list gets longer by each append and shorter by each drop of a position that is there. -/
  length : result.length + removals edits arguments =
    arguments.length + edits.countP ArgumentEdit.appends
  /-- What comes from an origin stands in the list, and what stands in the list comes from one
  origin. -/
  stands : ∀ {origin position value}, Stands edits arguments origin position value →
    result[position]? = some value
  comes : ∀ {position value}, result[position]? = some value →
    ∃! origin, Stands edits arguments origin position value
  /-- An argument that no edit overwrites or takes out stands in the list once. -/
  kept : ∀ {start value}, arguments[start]? = some value → ¬ Loses edits arguments start →
    ∃! position, Stands edits arguments (.argument start) position value
  /-- Any other argument does not. -/
  lost : ∀ {start}, Loses edits arguments start →
    ∀ position value, ¬ Stands edits arguments (.argument start) position value
  ordered : ∀ {first second firstPosition secondPosition firstValue secondValue}, first < second →
    Stands edits arguments (.argument first) firstPosition firstValue →
      Stands edits arguments (.argument second) secondPosition secondValue →
        firstPosition < secondPosition
  /-- What comes from no argument is a literal of a set or of an append. -/
  others : ∀ {position value}, result[position]? = some value →
    (∀ start, ¬ Stands edits arguments (.argument start) position value) →
      ∃ literal, ((∃ index, .set index literal ∈ edits) ∨ .append literal ∈ edits) ∧
        value = literalValue literal

/-- What edits make of an argument list is accounted for. -/
theorem accounts (edits : List ArgumentEdit) (arguments : List Value) :
    Accounts edits arguments (applyEdits edits arguments) where
  steps before edit later split := by
    rw [split]
    exact applyEdits_append before (edit :: later) arguments
  length := length_applyEdits edits arguments
  stands stands := getElem?_applyEdits.mpr ⟨_, stands⟩
  comes present := by
    obtain ⟨origin, stands⟩ := getElem?_applyEdits.mp present
    exact ⟨origin, stands, fun other alsoStands => alsoStands.origin_unique stands⟩
  kept := by
    intro start value passed kept
    have inside := (List.getElem?_eq_some_iff.mp passed).1
    obtain ⟨position, left⟩ := Option.ne_none_iff_exists'.mp (mt (loses_iff inside).mpr kept)
    refine ⟨position, .argument passed left, ?_⟩
    rintro other ⟨-, alsoLeft⟩
    exact Option.some.inj (alsoLeft.symm.trans left)
  lost := by
    rintro start loses position value ⟨passed, left⟩
    have inside := (List.getElem?_eq_some_iff.mp passed).1
    rw [(loses_iff inside).mp loses] at left
    cases left
  ordered := by
    rintro _ _ _ _ _ _ before ⟨-, isFirst⟩ ⟨-, isSecond⟩
    exact follow?_lt before isFirst isSecond
  others := by
    intro position value present foreign
    obtain ⟨origin, stands⟩ := getElem?_applyEdits.mp present
    cases stands with
    | argument passed left => exact absurd (.argument passed left) (foreign _)
    | literal split puts =>
      refine ⟨_, ?_, rfl⟩
      have isEdit {edit : ArgumentEdit} (same : _ = edit) : edit ∈ edits :=
        same ▸ split ▸ List.mem_append_right _ List.mem_cons_self
      exact (ArgumentEdit.eq_of_puts? puts).imp (fun same => ⟨_, isEdit same⟩) isEdit

/-- The hook of a method rewrites arguments exactly if the rule has edits. It returns at once,
whatever the arguments are, and what it returns is what the edits make of them. -/
theorem edits_account_for_arguments (rule : MethodRule) :
    (rule.hook.transformArguments = none ↔ rule.argumentEdits = []) ∧
      ∀ transform, rule.hook.transformArguments = some transform → ∀ arguments,
        ∃ result, Accounts rule.argumentEdits arguments result ∧
          ∀ fuel runtime state, run (fuel + 1) runtime (transform arguments) state =
            some (.returned (.list result), state) := by
  obtain ⟨target, backtrace, edits, edit⟩ := rule
  constructor
  · cases edits <;> cases edit <;> simp [MethodRule.hook, HookOptions.withArguments,
      HookOptions.withResult]
  · intro transform rewrites arguments
    refine ⟨applyEdits edits arguments, accounts edits arguments, ?_⟩
    have applies : transform = fun arguments => .pure (.list (applyEdits edits arguments)) := by
      cases edits <;> cases edit <;> cases rewrites <;> rfl
    intro fuel runtime state
    rw [applies]
    rfl

/-- The second set finds the literal of the append, which has come where an argument stood that
moved up; the first set and the last drop find nothing. -/
theorem edits_account_for_arguments_moved :
    ∃ result, Accounts [.set 3 (.string "late"), .drop 1, .append (.integer 7),
        .set 2 (.string "seven"), .drop 9] [.str "Ann", .str "Bob", .str "Cid"] result ∧
      result = [.str "Ann", .str "Cid", .str "seven"] := by
  let rule : MethodRule :=
    { target := "Desk.greet"
      argumentEdits := [.set 3 (.string "late"), .drop 1, .append (.integer 7),
        .set 2 (.string "seven"), .drop 9] }
  obtain ⟨result, account, runs⟩ := (edits_account_for_arguments rule).2 _ rfl
    [.str "Ann", .str "Bob", .str "Cid"]
  have returned := runs 0 0 { world := deskWorld }
  cases returned
  exact ⟨_, account, rfl⟩

end Intercept.Plan
