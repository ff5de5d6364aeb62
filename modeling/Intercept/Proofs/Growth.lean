/-
This file says how a registry grows. Nothing that has been declared is ever changed or moved:
slots, member lists and overload lists only grow at their ends, whatever an amendment makes of the
registry. In a coherent registry a slot is found for a name exactly if the name stands there, and
every overload is reached through the slot of its class.
-/
import Intercept.Proofs.Amending
import Intercept.Proofs.Installing

namespace Intercept

namespace Registry

/-! ### Growth -/

/-- That a registry has grown into another one: its classes keep their slots and their names and
get members at the end of their lists, and what is declared stays at the front. -/
structure Grows (registry later : Registry) : Prop where
  classes : ∀ {slot : Nat} {entry : DeclaredClass}, registry.classes[slot]? = some entry →
    ∃ after : DeclaredClass, later.classes[slot]? = some after ∧ after.name = entry.name ∧
      entry.members <+: after.members
  declarations : registry.declarations <+: later.declarations

namespace Grows

variable {registry middle later : Registry}

theorem refl (registry : Registry) : registry.Grows registry :=
  ⟨fun isEntry => ⟨_, isEntry, rfl, List.prefix_rfl⟩, List.prefix_rfl⟩

theorem trans (first : registry.Grows middle) (second : middle.Grows later) :
    registry.Grows later where
  classes isEntry := by
    obtain ⟨between, isBetween, sameName, grows⟩ := first.classes isEntry
    obtain ⟨after, isAfter, sameNameAfter, growsAfter⟩ := second.classes isBetween
    exact ⟨after, isAfter, sameNameAfter.trans sameName, grows.trans growsAfter⟩
  declarations := first.declarations.trans second.declarations

theorem declareClass (registry : Registry) (name : String) :
    registry.Grows (registry.declareClass name) where
  classes {slot entry} isEntry := by
    refine ⟨entry, ?_, rfl, List.prefix_rfl⟩
    unfold Registry.declareClass
    split
    · exact isEntry
    · exact List.getElem?_append_left (List.getElem?_eq_some_iff.mp isEntry).1 |>.trans isEntry
  declarations := by
    rw [declarations_of_overloads (registry.overloads_declareClass name)]

theorem noteMember (registry : Registry) (container member : String) :
    registry.Grows (registry.noteMember container member) where
  classes {slot entry} isEntry := by
    refine ⟨_, List.getElem?_map.trans (congrArg (Option.map _) isEntry), ?_, ?_⟩ <;>
      dsimp only <;> split
    · rfl
    · rfl
    · exact List.prefix_append _ _
    · exact List.prefix_rfl
  declarations := List.prefix_rfl

theorem declareMember (registry : Registry) (container member : String) :
    registry.Grows (registry.declareMember container member) :=
  (declareClass registry container).trans (noteMember _ container member)

theorem declareMethod (registry : Registry) (container member : String)
    (parameters : List String) (body : Body) :
    registry.Grows (registry.declareMethod container member parameters body).2 := by
  cases declared : registry.overload? ⟨container, member, ⟨parameters⟩⟩ with
  | some overload =>
    rw [declareMethod_declared declared]
    exact refl registry
  | none =>
    rw [declareMethod_free declared]
    refine ⟨(declareMember registry container member).classes, ?_⟩
    rw [declarations_addMethod]
    exact List.prefix_append _ _

theorem putBody (registry : Registry) (reference : OverloadRef) (body : BodyInForce) :
    registry.Grows (registry.putBody reference body) where
  classes := (refl registry).classes
  declarations := by rw [declarations_putBody]

/-! ### What growth keeps -/

theorem classNames (grows : registry.Grows later) : registry.classNames <+: later.classNames := by
  refine List.prefix_iff_getElem?.mpr fun slot inside => ?_
  have present : slot < registry.classes.length := by
    rwa [Registry.classNames, List.length_map] at inside
  obtain ⟨after, isAfter, sameName, -⟩ := grows.classes (List.getElem?_eq_getElem present)
  rw [Registry.classNames, List.getElem?_map, isAfter, Option.map_some, sameName]
  simp only [Registry.classNames, List.getElem_map]

theorem memberDeclarations (grows : registry.Grows later) (container member : String) :
    registry.memberDeclarations container member <+: later.memberDeclarations container member :=
  grows.declarations.filter _

theorem overload? (grows : registry.Grows later) {reference : OverloadRef} {overload : Overload}
    (found : registry.overload? reference = some overload) :
    ∃ after, later.overload? reference = some after ∧ after.reference = overload.reference ∧
      after.declaredBody = overload.declaredBody := by
  have asked : (Callee.exactly reference).find? registry [] = some overload := found
  exact Callee.find?_of_declarations _ grows.declarations asked

end Grows

/-! ### Single amendments -/

/-- What an amendment makes of the registry of its runtime. -/
inductive Takes (registry : Registry) : Amendment → Registry → Prop where
  | declareClass (name : String) :
      Takes registry (.declareClass name) (registry.declareClass name)
  | declareMember (container member : String) :
      Takes registry (.declareMember container member) (registry.declareMember container member)
  | declareMethod (container member : String) (parameters : List String) (body : Body) :
      Takes registry (.declareMethod container member parameters body)
        (registry.declareMethod container member parameters body).2
  /-- A hook or a body that is refused. -/
  | refused {amendment : Amendment} (puts : amendment.puts) : Takes registry amendment registry
  | put {amendment : Amendment} (puts : amendment.puts) (reference : OverloadRef)
      (body : BodyInForce) : Takes registry amendment (registry.putBody reference body)

variable {registry after : Registry} {amendment : Amendment} {amendments : List Amendment}

theorem Sums.of_takes (sums : registry.Sums amendments) (takes : registry.Takes amendment after) :
    after.Sums (amendments ++ [amendment]) := by
  have notesNothing (puts : amendment.puts) (container member : String) :
      amendment.notes container member = false := by
    cases amendment <;> first | rfl | cases puts
  have givesNothing (puts : amendment.puts) (reference : OverloadRef) :
      amendment.body? reference = none := by
    cases amendment <;> first | rfl | cases puts
  cases takes with
  | declareClass name => exact sums.declareClass name
  | declareMember container member => exact sums.declareMember container member
  | declareMethod container member parameters body =>
    exact sums.declareMethod container member parameters body
  | refused puts =>
    exact sums.silent (notesNothing puts) (givesNothing puts) sums.coherent (fun _ => rfl) rfl
  | put puts reference body =>
    exact sums.silent (notesNothing puts) (givesNothing puts)
      (sums.coherent.putBody reference body) (fun _ => rfl)
      (registry.declarations_putBody reference body)

theorem Grows.of_takes (takes : registry.Takes amendment after) : registry.Grows after := by
  cases takes with
  | declareClass name => exact .declareClass registry name
  | declareMember container member => exact .declareMember registry container member
  | declareMethod container member parameters body =>
    exact .declareMethod registry container member parameters body
  | refused => exact .refl registry
  | put _ reference body => exact .putBody registry reference body

/-! ### Slots of coherent registries -/

theorem slotOf?_eq_findIdx? (registry : Registry) (name : String) :
    registry.slotOf? name = registry.classNames.findIdx? fun other => other = name := by
  rw [classNames, List.findIdx?_map]
  rfl

/-- Where names are distinct, a slot is found for a name exactly if the name stands there. -/
theorem slotOf?_eq_some_iff (named : registry.classNames.Nodup) {name : String} {slot : Nat} :
    registry.slotOf? name = some slot ↔ registry.classNames[slot]? = some name := by
  rw [slotOf?_eq_findIdx?]
  constructor
  · intro found
    obtain ⟨inside, isName, -⟩ := List.findIdx?_eq_some_iff_getElem.mp found
    rw [List.getElem?_eq_getElem inside, of_decide_eq_true isName]
  · intro stands
    obtain ⟨inside, isName⟩ := List.getElem?_eq_some_iff.mp stands
    refine List.findIdx?_eq_some_iff_getElem.mpr ⟨inside, decide_eq_true isName, ?_⟩
    intro earlier before isAlso
    have same := of_decide_eq_true isAlso
    exact Nat.ne_of_lt before ((named.getElem_inj_iff).mp (same.trans isName.symm))

/-- A class keeps the slot that is found for its name. -/
theorem Grows.slotOf? {later : Registry} (grows : registry.Grows later)
    (named : registry.classNames.Nodup) (namedLater : later.classNames.Nodup) {name : String}
    {slot : Nat} (slotted : registry.slotOf? name = some slot) :
    later.slotOf? name = some slot := by
  have stands := (slotOf?_eq_some_iff named).mp slotted
  obtain ⟨inside, isName⟩ := List.getElem?_eq_some_iff.mp stands
  have staysThere := List.prefix_iff_getElem?.mp grows.classNames slot inside
  rw [isName] at staysThere
  exact (slotOf?_eq_some_iff namedLater).mpr staysThere

/-- A declared overload is kept under the class that its container is looked up to. -/
theorem Coherent.kept (coherent : registry.Coherent) {reference : OverloadRef}
    (declared : reference ∈ registry.references) : ∃ container,
      registry.resolve? reference.container = some container ∧
        reference ∈ registry.overloadRefs container reference.member := by
  obtain ⟨entry, isEntry, named, -⟩ := coherent.listed reference declared
  obtain ⟨slot, inside, atSlot⟩ := List.getElem_of_mem isEntry
  have stands : registry.classes[slot]? = some entry :=
    List.getElem?_eq_some_iff.mpr ⟨inside, atSlot⟩
  have slotted : registry.slotOf? reference.container = some slot := by
    rw [slotOf?_eq_some_iff coherent.named, classNames, List.getElem?_map, stands,
      Option.map_some, named]
  have isClass : registry.classAt? ⟨reference.container, slot⟩ = some entry :=
    Option.filter_eq_some_iff.mpr ⟨stands, decide_eq_true named⟩
  refine ⟨⟨reference.container, slot⟩, ?_, ?_⟩
  · rw [resolve?, slotted]
    rfl
  · rw [overloadRefs_of_classAt? isClass, mem_memberRefs]
    exact ⟨declared, rfl, rfl⟩

end Registry

end Intercept
