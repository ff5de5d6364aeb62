/-
This file says that a table of classes stands for a registry. The table lays the same out in other
ways: its index has the slot that a search for the name finds, and under a class and a member it
keeps what the registry has of this class and this member. So all that is looked up is the same,
and every operation on the table has the answer of the one on the registry, and leads to a table
that stands for the registry after it.
-/
import Intercept.Dispatch.ClassTable
import Intercept.Proofs.Declaring

namespace Intercept

namespace Registry

/-! ### Overloads of a member -/

variable {registry : Registry}

theorem Coherent.memberOverloads_of_missing (coherent : registry.Coherent) {name : String}
    (missing : registry.slotOf? name = none) (member : String) :
    registry.memberOverloads name member = [] := by
  have nothing := coherent.memberRefs_of_missing missing member
  rwa [memberRefs_eq, List.map_eq_nil_iff] at nothing

theorem mem_memberOverloads {reference : OverloadRef} {overload : Overload}
    (found : registry.overload? reference = some overload) :
    overload ∈ registry.memberOverloads reference.container reference.member := by
  refine List.mem_filter.mpr ⟨mem_of_overload? found, decide_eq_true ?_⟩
  rw [reference_of_overload? found]
  exact ⟨rfl, rfl⟩

theorem memberOverloads_declareClass (registry : Registry) (name container member : String) :
    (registry.declareClass name).memberOverloads container member =
      registry.memberOverloads container member := by
  rw [memberOverloads, overloads_declareClass, memberOverloads]

theorem memberOverloads_putBody (registry : Registry) (reference : OverloadRef)
    (body : BodyInForce) (container member : String) :
    (registry.putBody reference body).memberOverloads container member =
      (registry.memberOverloads container member).map fun overload =>
        if overload.reference = reference then { overload with installed := some body }
        else overload := by
  rw [memberOverloads, putBody, List.filter_map, memberOverloads]
  refine congrArg (fun asks => (registry.overloads.filter asks).map _) (funext fun overload => ?_)
  rw [Function.comp_apply]
  split <;> rfl

theorem memberOverloads_putBody_other {reference : OverloadRef} {container member : String}
    (different : ¬ (reference.container = container ∧ reference.member = member))
    (body : BodyInForce) :
    (registry.putBody reference body).memberOverloads container member =
      registry.memberOverloads container member := by
  rw [memberOverloads_putBody]
  refine (List.map_congr_left fun overload isOverload => if_neg ?_).trans (List.map_id' _)
  rintro rfl
  exact different (of_decide_eq_true (List.mem_filter.mp isOverload).2)

theorem slotOf?_noteMember (registry : Registry) (container member name : String) :
    (registry.noteMember container member).slotOf? name = registry.slotOf? name := by
  rw [slotOf?_eq_findIdx?, classNames_noteMember, ← slotOf?_eq_findIdx?]

/-- A class that is not declared yet gets the next slot. -/
theorem slotOf?_declareClass_of_missing {name : String} (missing : registry.slotOf? name = none)
    (asked : String) :
    (registry.declareClass name).slotOf? asked =
      if asked = name then some registry.classes.length else registry.slotOf? asked := by
  rw [declareClass_of_missing missing]
  rw [slotOf?] at missing
  by_cases same : asked = name
  · subst same
    simp only [slotOf?, List.findIdx?_append, missing, List.findIdx?_cons, decide_true, if_true,
      Option.map_some, Option.none_or, Nat.zero_add]
  · simp only [slotOf?, List.findIdx?_append, List.findIdx?_cons, Ne.symm same, decide_false,
      Bool.false_eq_true, if_false, List.findIdx?_nil, Option.map_none, Option.or_none, same]

end Registry

namespace ClassRecord

/-! ### Lists of overloads -/

/-- The class without its overloads. -/
def outline (record : ClassRecord) : DeclaredClass :=
  ⟨record.name, record.declared⟩

/-- The members that have a list of overloads. -/
def keys (record : ClassRecord) : List String :=
  record.overloads.map Prod.fst

variable (record : ClassRecord) (member asked : String)

theorem isSome_lookup_iff :
    (record.overloads.lookup member).isSome ↔ member ∈ record.keys := by
  rw [List.lookup_isSome_iff, keys, List.mem_map]
  refine exists_congr fun entry => and_congr_right fun _ => ?_
  rw [beq_iff_eq, eq_comm]

theorem keys_openMember_nodup (keyed : record.keys.Nodup) :
    (record.openMember member).keys.Nodup := by
  unfold openMember
  by_cases has : (record.overloads.lookup member).isSome
  · rwa [if_pos has]
  · rw [if_neg has]
    exact List.nodup_cons.mpr ⟨mt (record.isSome_lookup_iff member).mpr has, keyed⟩

theorem outline_openMember : (record.openMember member).outline = record.outline := by
  unfold openMember
  split <;> rfl

theorem name_openMember : (record.openMember member).name = record.name :=
  congrArg DeclaredClass.name (record.outline_openMember member)

theorem isSome_lookup_openMember :
    ((record.openMember member).overloads.lookup member).isSome := by
  unfold openMember
  by_cases has : (record.overloads.lookup member).isSome
  · rwa [if_pos has]
  · rw [if_neg has, List.lookup_cons_self]
    rfl

/-- A list that is made is empty, as what is read where there is no list. -/
theorem overloadsOf_openMember :
    (record.openMember member).overloadsOf asked = record.overloadsOf asked := by
  unfold openMember
  by_cases has : (record.overloads.lookup member).isSome
  · rw [if_pos has]
  · rw [if_neg has]
    by_cases same : asked = member
    · subst same
      rw [overloadsOf, List.lookup_cons_self, overloadsOf, Option.not_isSome_iff_eq_none.mp has]
      rfl
    · rw [overloadsOf, List.lookup_cons, beq_false_of_ne same, overloadsOf]

variable (change : List Overload → List Overload)

theorem keys_changeMember : (record.changeMember member change).keys = record.keys := by
  rw [keys, changeMember, List.map_map, keys]
  refine List.map_congr_left fun entry _ => ?_
  rw [Function.comp_apply]
  split <;> rfl

theorem lookup_changeMember :
    (record.changeMember member change).overloads.lookup asked =
      if asked = member then (record.overloads.lookup asked).map change
      else record.overloads.lookup asked := by
  show (record.overloads.map _).lookup asked = _
  induction record.overloads with
  | nil => rw [List.map_nil, List.lookup_nil, Option.map_none, ite_self]
  | cons entry rest inductionHypothesis =>
    have sameKey : (if entry.1 = member then (entry.1, change entry.2) else entry).1 = entry.1 := by
      split <;> rfl
    by_cases same : asked = entry.1
    · rw [List.map_cons, List.lookup_cons, List.lookup_cons, sameKey, same, beq_self_eq_true]
      by_cases changed : entry.1 = member
      · simp only [changed, if_true, Option.map_some]
      · simp only [changed, if_false]
    · rw [List.map_cons, List.lookup_cons, List.lookup_cons, sameKey, beq_false_of_ne same]
      exact inductionHypothesis

variable {change}

theorem overloadsOf_changeMember
    (has : (record.overloads.lookup member).isSome ∨ change [] = []) :
    (record.changeMember member change).overloadsOf asked =
      if asked = member then change (record.overloadsOf asked) else record.overloadsOf asked := by
  rw [overloadsOf, lookup_changeMember]
  by_cases same : asked = member
  · subst same
    rw [if_pos rfl, if_pos rfl, overloadsOf]
    cases found : record.overloads.lookup asked with
    | some overloads => rfl
    | none =>
      rw [found] at has
      exact (has.resolve_left Bool.false_ne_true).symm
  · rw [if_neg same, if_neg same, overloadsOf]

/-- Where members have one list each, a list is found under its member. -/
theorem lookup_of_mem {record : ClassRecord} (keyed : record.keys.Nodup)
    {entry : String × List Overload} (isEntry : entry ∈ record.overloads) :
    record.overloads.lookup entry.1 = some entry.2 := by
  obtain ⟨before, after, isSplit⟩ := List.append_of_mem isEntry
  rw [keys, isSplit, List.map_append, List.map_cons, List.nodup_middle, List.nodup_cons] at keyed
  refine List.lookup_eq_some_iff.mpr ⟨before, after, isSplit, fun other isOther => ?_⟩
  refine bne_iff_ne.mpr fun same => ?_
  exact keyed.1 (List.mem_append_left _ (same ▸ List.mem_map_of_mem isOther))

/-! ### Classes of a registry -/

/-- That a class keeps what a registry has of it, in one list for each member. -/
structure Keeps (record : ClassRecord) (registry : Registry) : Prop where
  keyed : record.keys.Nodup
  lists : ∀ member, record.overloadsOf member = registry.memberOverloads record.name member

namespace Keeps

variable {record : ClassRecord} {registry after : Registry} {member : String}
  {change : List Overload → List Overload}

theorem congr (keeps : record.Keeps registry)
    (same : ∀ member,
      after.memberOverloads record.name member = registry.memberOverloads record.name member) :
    record.Keeps after :=
  ⟨keeps.keyed, fun member => (keeps.lists member).trans (same member).symm⟩

theorem openMember (keeps : record.Keeps registry) (member : String) :
    (record.openMember member).Keeps registry := by
  refine ⟨record.keys_openMember_nodup member keeps.keyed, fun asked => ?_⟩
  rw [overloadsOf_openMember, name_openMember, keeps.lists]

theorem changeMember (keeps : record.Keeps registry)
    (has : (record.overloads.lookup member).isSome ∨ change [] = [])
    (own : after.memberOverloads record.name member =
      change (registry.memberOverloads record.name member))
    (others : ∀ other, other ≠ member →
      after.memberOverloads record.name other = registry.memberOverloads record.name other) :
    (record.changeMember member change).Keeps after := by
  refine ⟨(record.keys_changeMember member change).symm ▸ keeps.keyed, fun asked => ?_⟩
  rw [record.overloadsOf_changeMember member asked has, keeps.lists]
  by_cases same : asked = member
  · rw [if_pos same, same]
    exact own.symm
  · rw [if_neg same]
    exact (others asked same).symm

/-- Every list of a class is the list of a member in the registry. -/
theorem list_eq (keeps : record.Keeps registry) {entry : String × List Overload}
    (isEntry : entry ∈ record.overloads) :
    entry.2 = registry.memberOverloads record.name entry.1 := by
  rw [← keeps.lists, overloadsOf, lookup_of_mem keeps.keyed isEntry, Option.getD_some]

/-- A member with an overload has a list. -/
theorem isSome_lookup (keeps : record.Keeps registry) {overload : Overload}
    (declared : overload ∈ registry.memberOverloads record.name member) :
    (record.overloads.lookup member).isSome := by
  rw [← keeps.lists, overloadsOf] at declared
  cases found : record.overloads.lookup member with
  | some overloads => rfl
  | none =>
    rw [found] at declared
    cases declared

theorem note (keeps : record.Keeps registry) (member : String) :
    (record.note member).Keeps registry :=
  ⟨keeps.keyed, keeps.lists⟩

theorem addMethod (keeps : record.Keeps (registry.declareClass record.name))
    {reference : OverloadRef} (same : record.name = reference.container)
    (has : (record.overloads.lookup reference.member).isSome) (body : Body) :
    (record.addOverload ⟨reference, body, none⟩).Keeps (registry.addMethod reference body) := by
  refine keeps.changeMember (.inl has) ?_ fun other different => ?_
  · rw [same, Registry.memberOverloads_declareClass, Registry.memberOverloads_addMethod_self]
  · rw [Registry.memberOverloads_declareClass,
      Registry.memberOverloads_addMethod_other body fun both => different both.2.symm]

/-- Putting a body over the first overload of a reference puts it over the only one. -/
theorem putBody (keeps : record.Keeps registry) (distinct : registry.Distinct)
    {reference : OverloadRef} (body : BodyInForce) :
    (record.putBody reference body).Keeps (registry.putBody reference body) := by
  refine keeps.changeMember (.inr rfl) ?_ fun other different =>
    Registry.memberOverloads_putBody_other (fun both => different both.2.symm) body
  rw [Registry.memberOverloads_putBody]
  exact (modify_findIdx_eq_map Overload.reference reference _ _
    (distinct.sublist (List.filter_sublist.map _))).symm

end Keeps

end ClassRecord

namespace ClassTable

/-! ### Representing a registry -/

/-- That a table stands for a registry: its classes are those of the registry, its index has the
slots that a search for the names finds, and every class keeps what the registry has of it. -/
structure Represents (table : ClassTable) (registry : Registry) : Prop where
  classes : table.classes.map ClassRecord.outline = registry.classes
  slots : ∀ name, table.slotOf? name = registry.slotOf? name
  keeps : ∀ record ∈ table.classes, record.Keeps registry

/-- That a table has the same answers as a registry. -/
structure Answers (table : ClassTable) (registry : Registry) : Prop where
  resolve? : ∀ name, table.resolve? name = registry.resolve? name
  memberNames : ∀ container, table.memberNames container = registry.memberNames container
  overloadRefs : ∀ container member,
    table.overloadRefs container member = registry.overloadRefs container member
  select? : ∀ container member arguments,
    table.select? container member arguments = registry.select? container member arguments
  overload? : ∀ reference, table.overload? reference = registry.overload? reference
  isHooked : ∀ reference, table.isHooked reference = registry.isHooked reference
  declaredBody : ∀ reference, table.declaredBody reference = registry.declaredBody reference

theorem represents_empty : Represents {} {} :=
  ⟨rfl, fun _ => rfl, fun _ isRecord => absurd isRecord List.not_mem_nil⟩

variable {table : ClassTable} {registry : Registry} {reference : OverloadRef}

namespace Represents

/-! ### Looking up -/

theorem classAt? (represents : table.Represents registry) (container : ClassRef) :
    (table.classAt? container).map ClassRecord.outline = registry.classAt? container := by
  rw [ClassTable.classAt?, Registry.classAt?, ← represents.classes, List.getElem?_map]
  rcases table.classes[container.slot]? with _ | record
  · rfl
  · show (Option.filter _ (some record)).map _ = Option.filter _ (some record.outline)
    rw [Option.filter_some, Option.filter_some]
    exact apply_ite (Option.map ClassRecord.outline) _ _ _

/-- The class at the slot of a name has the name. -/
theorem classOf? (represents : table.Represents registry) {name : String} {slot : Nat}
    (slotted : registry.slotOf? name = some slot) :
    ∃ record, table.classes[slot]? = some record ∧ record.name = name ∧
      table.classOf? name = some record := by
  obtain ⟨entry, -, named, isClass⟩ := Registry.classAt?_of_slotOf? slotted
  rw [← represents.classAt?] at isClass
  obtain ⟨record, isRecord, rfl⟩ := Option.map_eq_some_iff.mp isClass
  have stands := (Option.filter_eq_some_iff.mp isRecord).1
  refine ⟨record, stands, named, ?_⟩
  rw [ClassTable.classOf?, represents.slots, slotted]
  exact stands

/-- What is kept under a class and a member is what the registry has of them; there is nothing
where there is no class. -/
theorem overloadsOf? (represents : table.Represents registry) (coherent : registry.Coherent)
    (container member : String) :
    (table.overloadsOf? container member).getD [] =
      registry.memberOverloads container member := by
  cases slotted : registry.slotOf? container with
  | some slot =>
    obtain ⟨record, stands, rfl, isClass⟩ := represents.classOf? slotted
    rw [ClassTable.overloadsOf?, isClass]
    exact (represents.keeps record (List.mem_of_getElem? stands)).lists member
  | none =>
    rw [ClassTable.overloadsOf?, ClassTable.classOf?, represents.slots, slotted,
      coherent.memberOverloads_of_missing slotted]
    rfl

theorem bind_find? (represents : table.Represents registry) (coherent : registry.Coherent)
    (container member : String) (asks : Overload → Bool) :
    (table.overloadsOf? container member).bind (List.find? asks) =
      (registry.memberOverloads container member).find? asks := by
  rw [← represents.overloadsOf? coherent]
  cases table.overloadsOf? container member <;> rfl

theorem overload? (represents : table.Represents registry) (coherent : registry.Coherent)
    (reference : OverloadRef) : table.overload? reference = registry.overload? reference := by
  refine (represents.bind_find? coherent _ _ _).trans ?_
  rw [Registry.memberOverloads, List.find?_filter, Registry.overload?]
  congr 1
  funext overload
  by_cases same : overload.reference = reference
  · simp only [same, decide_true, and_self]
  · simp only [same, decide_false, and_false, Bool.false_eq_true]

theorem declaredBody (represents : table.Represents registry) (coherent : registry.Coherent)
    (reference : OverloadRef) :
    table.declaredBody reference = registry.declaredBody reference := by
  have same := represents.overload? coherent reference
  cases found : registry.overload? reference with
  | none => simp only [ClassTable.declaredBody, Registry.declaredBody, same, found]
  | some overload => simp only [ClassTable.declaredBody, Registry.declaredBody, same, found]

theorem overloadRefs (represents : table.Represents registry) (container : ClassRef)
    (member : String) :
    table.overloadRefs container member = registry.overloadRefs container member := by
  rw [ClassTable.overloadRefs, Registry.overloadRefs, ← represents.classAt?]
  cases isClass : table.classAt? container with
  | none => rfl
  | some record =>
    have stands := (Option.filter_eq_some_iff.mp isClass).1
    exact congrArg (List.map _)
      ((represents.keeps record (List.mem_of_getElem? stands)).lists member)

/-- Whatever is looked up in a table is what is found in the registry. -/
theorem answers (represents : table.Represents registry) (coherent : registry.Coherent) :
    table.Answers registry where
  resolve? name := congrArg (Option.map _) (represents.slots name)
  memberNames container := by
    rw [ClassTable.memberNames, Registry.memberNames, ← represents.classAt?, Option.map_map]
    rfl
  overloadRefs := represents.overloadRefs
  select? container member _ := represents.bind_find? coherent container member _
  overload? := represents.overload? coherent
  isHooked reference := by
    rw [ClassTable.isHooked, represents.overload? coherent, Registry.isHooked]
  declaredBody := represents.declaredBody coherent

/-! ### Changing a class -/

theorem named (represents : table.Represents registry) (named : registry.classNames.Nodup) :
    (table.classes.map ClassRecord.name).Nodup := by
  rwa [Registry.classNames, ← represents.classes, List.map_map] at named

/-- Changing the class in the slot of a name changes the class that has the name. -/
theorem classes_changeClass (represents : table.Represents registry)
    (named : registry.classNames.Nodup) {container : String} {slot : Nat}
    (slotted : registry.slotOf? container = some slot) (change : ClassRecord → ClassRecord) :
    (table.changeClass slot change).classes =
      table.classes.map fun record =>
        if record.name = container then change record else record := by
  have atSlot : table.classes.findIdx (fun record => record.name = container) = slot := by
    rw [Registry.slotOf?, ← represents.classes, List.findIdx?_map] at slotted
    exact (List.findIdx?_eq_some_iff_findIdx_eq.mp slotted).2
  rw [ClassTable.changeClass, ← atSlot]
  exact modify_findIdx_eq_map ClassRecord.name container change table.classes
    (represents.named named)

theorem changeClass (represents : table.Represents registry) (named : registry.classNames.Nodup)
    {container : String} {slot : Nat} (slotted : registry.slotOf? container = some slot)
    {change : ClassRecord → ClassRecord} {after : Registry}
    {outlined : DeclaredClass → DeclaredClass}
    (outlines : ∀ record, (change record).outline = outlined record.outline)
    (classes : after.classes = registry.classes.map fun entry =>
      if entry.name = container then outlined entry else entry)
    (slots : ∀ name, after.slotOf? name = registry.slotOf? name)
    (own : ∀ record ∈ table.classes, record.name = container → (change record).Keeps after)
    (others : ∀ name, name ≠ container → ∀ member,
      after.memberOverloads name member = registry.memberOverloads name member) :
    (table.changeClass slot change).Represents after where
  classes := by
    rw [represents.classes_changeClass named slotted, classes, ← represents.classes,
      List.map_map, List.map_map]
    refine List.map_congr_left fun record _ => ?_
    rw [Function.comp_apply, apply_ite ClassRecord.outline, outlines]
    rfl
  slots name := (represents.slots name).trans (slots name).symm
  keeps record isRecord := by
    rw [represents.classes_changeClass named slotted] at isRecord
    obtain ⟨before, isBefore, rfl⟩ := List.mem_map.mp isRecord
    by_cases same : before.name = container
    · rw [if_pos same]
      exact own before isBefore same
    · rw [if_neg same]
      exact (represents.keeps before isBefore).congr (others before.name same)

/-- Changing the lists of overloads only. -/
theorem changeLists (represents : table.Represents registry) (named : registry.classNames.Nodup)
    {container : String} {slot : Nat} (slotted : registry.slotOf? container = some slot)
    {change : ClassRecord → ClassRecord} {after : Registry}
    (outlines : ∀ record, (change record).outline = id record.outline)
    (classes : after.classes = registry.classes)
    (own : ∀ record ∈ table.classes, record.name = container → (change record).Keeps after)
    (others : ∀ name, name ≠ container → ∀ member,
      after.memberOverloads name member = registry.memberOverloads name member) :
    (table.changeClass slot change).Represents after := by
  refine represents.changeClass named slotted outlines ?_ (fun name => ?_) own others
  · simp only [classes, id_eq, ite_self, List.map_id']
  · rw [Registry.slotOf?, classes, Registry.slotOf?]

/-! ### Declarations -/

theorem openClass_of_some (represents : table.Represents registry) {name : String} {slot : Nat}
    (slotted : registry.slotOf? name = some slot) : table.openClass name = (slot, table) := by
  rw [ClassTable.openClass, represents.slots, slotted]

/-- Opening a class declares it, and gives its slot. -/
theorem openClass (represents : table.Represents registry) (coherent : registry.Coherent)
    (name : String) :
    (table.openClass name).2.Represents (registry.declareClass name) ∧
      (registry.declareClass name).slotOf? name = some (table.openClass name).1 := by
  cases slotted : registry.slotOf? name with
  | some slot =>
    rw [represents.openClass_of_some slotted, Registry.declareClass_of_slotOf? slotted]
    exact ⟨represents, slotted⟩
  | none =>
    have slots := Registry.slotOf?_declareClass_of_missing slotted
    have sameLength : registry.classes.length = table.classes.length := by
      rw [← represents.classes, List.length_map]
    have opens : table.openClass name = (table.classes.length,
        ⟨table.classes ++ [⟨name, [], []⟩], (name, table.classes.length) :: table.slots⟩) := by
      rw [ClassTable.openClass, represents.slots, slotted]
    refine ⟨⟨?_, fun asked => ?_, fun record isRecord => ?_⟩, ?_⟩
    · rw [opens, Registry.declareClass_of_missing slotted, List.map_append, represents.classes]
      rfl
    · rw [opens, slots, sameLength, ← represents.slots]
      by_cases same : asked = name
      · rw [if_pos same, ClassTable.slotOf?, same, List.lookup_cons_self]
      · rw [if_neg same, ClassTable.slotOf?, List.lookup_cons, beq_false_of_ne same]
        rfl
    · rw [opens] at isRecord
      rcases List.mem_append.mp isRecord with before | fresh
      · exact (represents.keeps record before).congr fun member =>
          registry.memberOverloads_declareClass name record.name member
      · rw [List.mem_singleton.mp fresh]
        refine ⟨List.nodup_nil, fun member => ?_⟩
        rw [Registry.memberOverloads_declareClass, coherent.memberOverloads_of_missing slotted]
        rfl
    · rw [opens, slots, if_pos rfl, sameLength]

theorem declareClass (represents : table.Represents registry) (coherent : registry.Coherent)
    (name : String) : (table.declareClass name).Represents (registry.declareClass name) :=
  (represents.openClass coherent name).1

theorem declareMember (represents : table.Represents registry) (coherent : registry.Coherent)
    (container member : String) :
    (table.declareMember container member).Represents
      (registry.declareMember container member) := by
  obtain ⟨opened, slotted⟩ := represents.openClass coherent container
  refine opened.changeClass (coherent.declareClass container).named slotted (fun record => ?_) rfl
    (Registry.slotOf?_noteMember _ container member) (fun record isRecord _ => ?_)
    fun _ _ _ => rfl
  · exact congrArg (fun outline : DeclaredClass =>
      { outline with members := outline.members ++ [member] }) (record.outline_openMember member)
  · exact (((opened.keeps record isRecord).openMember member).note member).congr fun _ => rfl

/-- Making the list of a member is a change that the registry does not see. -/
theorem openMember (represents : table.Represents registry) (named : registry.classNames.Nodup)
    {container : String} {slot : Nat} (slotted : registry.slotOf? container = some slot)
    (member : String) :
    (table.changeClass slot fun record => record.openMember member).Represents registry :=
  represents.changeLists named slotted (fun record => record.outline_openMember member) rfl
    (fun record isRecord _ => (represents.keeps record isRecord).openMember member)
    fun _ _ _ => rfl

/-- Making the list of a member that has an overload changes nothing. -/
theorem openMember_eq (represents : table.Represents registry)
    (named : registry.classNames.Nodup) {container member : String} {slot : Nat}
    (slotted : registry.slotOf? container = some slot) {overload : Overload}
    (isMember : overload ∈ registry.memberOverloads container member) :
    (table.changeClass slot fun record => record.openMember member) = table := by
  have classes := represents.classes_changeClass named slotted
    fun record => record.openMember member
  have same (record : ClassRecord) (isRecord : record ∈ table.classes) :
      (if record.name = container then record.openMember member else record) = record := by
    by_cases own : record.name = container
    · rw [if_pos own]
      exact if_pos ((represents.keeps record isRecord).isSome_lookup (own ▸ isMember))
    · rw [if_neg own]
  rw [List.map_congr_left same, List.map_id'] at classes
  exact congrArg (ClassTable.mk · table.slots) classes

theorem overloadsAt (represents : table.Represents registry) {container : String} {slot : Nat}
    (slotted : registry.slotOf? container = some slot) (member : String) :
    table.overloadsAt slot member = registry.memberOverloads container member := by
  obtain ⟨record, stands, rfl, -⟩ := represents.classOf? slotted
  rw [ClassTable.overloadsAt, stands]
  exact (represents.keeps record (List.mem_of_getElem? stands)).lists member

/-- Adding an overload to a class that has a list for its member, and noting the member. -/
theorem addOverload (represents : table.Represents (registry.declareClass reference.container))
    (named : (registry.declareClass reference.container).classNames.Nodup) {slot : Nat}
    (slotted : (registry.declareClass reference.container).slotOf? reference.container = some slot)
    (has : ∀ record ∈ table.classes, record.name = reference.container →
      (record.overloads.lookup reference.member).isSome) (body : Body) :
    (table.changeClass slot fun record =>
      (record.addOverload ⟨reference, body, none⟩).note reference.member).Represents
        (registry.addMethod reference body) := by
  refine represents.changeClass named slotted (fun record => rfl) rfl
    (Registry.slotOf?_noteMember _ reference.container reference.member)
    (fun record isRecord same => ?_) fun name different member => ?_
  · have keeps := represents.keeps record isRecord
    rw [← same] at keeps
    exact (keeps.addMethod same (has record isRecord same) body).note reference.member
  · rw [Registry.memberOverloads_addMethod_other body (fun both => different both.1.symm),
      Registry.memberOverloads_declareClass]

/-- A declaration that is refused has made nothing before: the class of an overload that is
declared has a slot, and its member has a list. -/
theorem declareMethod_of_some (represents : table.Represents registry)
    (coherent : registry.Coherent) {container member : String} {parameters : List String}
    {overload : Overload}
    (found : registry.overload? ⟨container, member, ⟨parameters⟩⟩ = some overload) (body : Body) :
    table.declareMethod container member parameters body =
      (.error (.declaredTwice (OverloadRef.key ⟨container, member, ⟨parameters⟩⟩)), table) := by
  obtain ⟨slot, slotted⟩ := Option.isSome_iff_exists.mp
    (coherent.slotOf?_isSome (Registry.mem_references found))
  have unchanged :=
    represents.openMember_eq coherent.named slotted (Registry.mem_memberOverloads found)
  unfold ClassTable.declareMethod
  simp only [represents.openClass_of_some slotted, unchanged, represents.overloadsAt slotted]
  exact if_pos ((registry.any_memberOverloads_iff ⟨container, member, ⟨parameters⟩⟩).mpr
    (Option.isSome_of_mem found))

/-- A declaration makes the class and the list of its member before it is refused or not. -/
theorem declareMethod (represents : table.Represents registry) (coherent : registry.Coherent)
    (container member : String) (parameters : List String) (body : Body) :
    (table.declareMethod container member parameters body).1 =
        (registry.declareMethod container member parameters body).1 ∧
      (table.declareMethod container member parameters body).2.Represents
        (registry.declareMethod container member parameters body).2 := by
  let reference : OverloadRef := ⟨container, member, ⟨parameters⟩⟩
  cases found : registry.overload? reference with
  | some overload =>
    rw [represents.declareMethod_of_some coherent found, Registry.declareMethod_declared found]
    exact ⟨rfl, represents⟩
  | none =>
    obtain ⟨classed, slotted⟩ := represents.openClass coherent container
    have named := (coherent.declareClass container).named
    have opened := classed.openMember named slotted member
    have looksUp := opened.overloadsAt slotted member
    rw [registry.memberOverloads_declareClass] at looksUp
    have free : ¬ ((registry.memberOverloads container member).any fun overload =>
        overload.reference = reference) := by
      rw [registry.any_memberOverloads_iff reference, found]
      exact Bool.false_ne_true
    unfold ClassTable.declareMethod
    simp only [looksUp]
    rw [if_neg free, Registry.declareMethod_free found]
    refine ⟨rfl, opened.addOverload named slotted (fun record isRecord same => ?_) body⟩
    rw [classed.classes_changeClass named slotted] at isRecord
    obtain ⟨before, -, rfl⟩ := List.mem_map.mp isRecord
    by_cases own : before.name = container
    · rw [if_pos own]
      exact before.isSome_lookup_openMember member
    · rw [if_neg own] at same
      exact absurd same own

/-! ### Installation -/

/-- Where an overload is declared, a body is put over it. -/
theorem replace_of_some (represents : table.Represents registry) (coherent : registry.Coherent)
    {overload : Overload} (found : registry.overload? reference = some overload)
    (body : BodyInForce) :
    ∃ after, table.replace reference body = .ok after ∧
      after.Represents (registry.putBody reference body) := by
  obtain ⟨slot, slotted⟩ := Option.isSome_iff_exists.mp
    (coherent.slotOf?_isSome (Registry.mem_references found))
  refine ⟨table.changeClass slot fun record => record.putBody reference body, ?_, ?_⟩
  · rw [ClassTable.replace, represents.slots, slotted, represents.overload? coherent, found]
  · exact represents.changeLists coherent.named slotted (fun _ => rfl) rfl
      (fun record isRecord _ => (represents.keeps record isRecord).putBody coherent.distinct body)
      fun name different member =>
        Registry.memberOverloads_putBody_other (fun both => different both.1.symm) body

theorem replace_of_none (represents : table.Represents registry) (coherent : registry.Coherent)
    (missing : registry.overload? reference = none) (body : BodyInForce) :
    table.replace reference body = .error (.undeclaredOverload reference.key) := by
  rw [ClassTable.replace, represents.overload? coherent, missing]
  cases table.slotOf? reference.container <;> rfl

/-- Installing a hook puts a tracer over the overload that forwards to its declared body. -/
theorem install_eq (represents : table.Represents registry) (coherent : registry.Coherent)
    {overload : Overload} (found : registry.overload? reference = some overload) (identity : Nat)
    (emitter : EmitterId) (path : String) (hook : Hook) :
    table.install identity emitter reference path hook =
      table.replace reference
        (.traced ⟨identity, emitter, path, hook, overload.declaredBody⟩) := by
  rw [ClassTable.install, represents.declaredBody coherent, Registry.declaredBody, found]

theorem install_of_none (represents : table.Represents registry) (coherent : registry.Coherent)
    (missing : registry.overload? reference = none) (identity : Nat) (emitter : EmitterId)
    (path : String) (hook : Hook) :
    table.install identity emitter reference path hook =
      .error (.undeclaredOverload reference.key) := by
  rw [ClassTable.install, represents.declaredBody coherent, Registry.declaredBody, missing]

end Represents

end ClassTable

end Intercept
