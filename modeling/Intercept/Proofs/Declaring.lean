/-
This file says that declaring a method is atomic. A declaration may make the class of an overload
before it looks for the overload among those of the member. If it is refused then, it leaves nothing
behind: in a coherent registry the class of a declared overload is declared, so none has been made.
If it is not refused, it appends one overload, which has nothing installed over it, and one member
name, makes a class only where there is none, and keeps everything else as it is.
-/
import Intercept.Proofs.Covering
import Intercept.Proofs.Growth

namespace Intercept

/-! ### Changing an entry in its place -/

/-- Where keys are distinct, the first entry with a key is the only one. -/
theorem modify_findIdx_eq_map {Entry Key : Type} [DecidableEq Key] (key : Entry → Key)
    (wanted : Key) (change : Entry → Entry) (entries : List Entry)
    (distinct : (entries.map key).Nodup) :
    entries.modify (entries.findIdx fun entry => key entry = wanted) change =
      entries.map fun entry => if key entry = wanted then change entry else entry := by
  induction entries with
  | nil => rfl
  | cons entry rest inductionHypothesis =>
    rw [List.map_cons, List.nodup_cons] at distinct
    by_cases same : key entry = wanted
    · have others (other : Entry) (isOther : other ∈ rest) : key other ≠ wanted := fun also =>
        distinct.1 (same.trans also.symm ▸ List.mem_map_of_mem isOther)
      rw [List.findIdx_cons, decide_eq_true same, cond_true, List.modify_zero_cons, List.map_cons,
        if_pos same, List.map_congr_left fun other isOther => if_neg (others other isOther),
        List.map_id']
    · rw [List.findIdx_cons, decide_eq_false same, cond_false, List.modify_succ_cons,
        List.map_cons, if_neg same, inductionHypothesis distinct.2]

namespace Registry

variable {registry : Registry} {container member : String} {reference : OverloadRef}

/-! ### Making the class first -/

/-- Declares an overload after its class: if the member turns out to have the overload already, the
declaration is refused, and a class that has been made for it stays. -/
def declareMethodInClass (registry : Registry) (container member : String)
    (parameters : List String) (body : Body) : Except HookFailure OverloadRef × Registry :=
  let reference : OverloadRef := ⟨container, member, ⟨parameters⟩⟩
  let classed := registry.declareClass container
  if (classed.memberOverloads container member).any fun overload =>
      overload.reference = reference then
    (.error (.declaredTwice reference.key), classed)
  else
    let noted := classed.noteMember container member
    (.ok reference, { noted with overloads := noted.overloads ++ [⟨reference, body, none⟩] })

/-- An overload that is declared is one of its member. -/
theorem any_memberOverloads_iff (registry : Registry) (reference : OverloadRef) :
    ((registry.memberOverloads reference.container reference.member).any fun overload =>
      overload.reference = reference) ↔ (registry.overload? reference).isSome := by
  simp only [List.any_eq_true, memberOverloads, List.mem_filter, overload?, List.find?_isSome,
    decide_eq_true_eq]
  constructor
  · rintro ⟨overload, ⟨declared, -⟩, same⟩
    exact ⟨overload, declared, same⟩
  · rintro ⟨overload, declared, rfl⟩
    exact ⟨overload, ⟨declared, rfl, rfl⟩, rfl⟩

theorem declareClass_of_slotOf? {name : String} {slot : Nat}
    (slotted : registry.slotOf? name = some slot) : registry.declareClass name = registry :=
  if_pos (Option.isSome_of_mem slotted)

theorem declareClass_of_missing {name : String} (missing : registry.slotOf? name = none) :
    registry.declareClass name =
      { registry with classes := registry.classes ++ [⟨name, []⟩] } :=
  if_neg (missing ▸ Bool.false_ne_true)

theorem Coherent.declareClass_of_declared (coherent : registry.Coherent)
    (declared : reference ∈ registry.references) :
    registry.declareClass reference.container = registry :=
  if_pos (coherent.slotOf?_isSome declared)

/-- In a coherent registry it does not matter that the class is made first. -/
theorem Coherent.declareMethodInClass_eq (coherent : registry.Coherent) (container member : String)
    (parameters : List String) (body : Body) :
    registry.declareMethodInClass container member parameters body =
      registry.declareMethod container member parameters body := by
  let reference : OverloadRef := ⟨container, member, ⟨parameters⟩⟩
  have looksUp : ((registry.declareClass container).memberOverloads container member).any
      (fun overload => overload.reference = reference) ↔
        (registry.overload? reference).isSome := by
    refine (any_memberOverloads_iff (registry.declareClass container) reference).trans ?_
    rw [overload?, overloads_declareClass, overload?]
  rw [declareMethodInClass, Registry.declareMethod]
  by_cases declared : (registry.overload? reference).isSome
  · obtain ⟨overload, found⟩ := Option.isSome_iff_exists.mp declared
    rw [if_pos declared, if_pos (looksUp.mpr declared)]
    exact congrArg (Prod.mk _) (coherent.declareClass_of_declared (mem_references found))
  · rw [if_neg declared, if_neg (mt looksUp.mp declared)]
    rfl

/-! ### What a declaration adds -/

/-- What a registry is after an overload has been added to it. -/
structure AddsMethod (registry : Registry) (reference : OverloadRef) (body : Body)
    (after : Registry) : Prop where
  /-- The overload is the last of its member, and nothing is installed over it. -/
  own : after.memberOverloads reference.container reference.member =
    registry.memberOverloads reference.container reference.member ++ [⟨reference, body, none⟩]
  /-- The other members keep their overloads, with what is installed over them. -/
  others : ∀ container member, ¬ (reference.container = container ∧ reference.member = member) →
    after.memberOverloads container member = registry.memberOverloads container member
  overloads : after.overloads = registry.overloads ++ [⟨reference, body, none⟩]
  /-- A class that is declared keeps its slot and lists one more member, at the end. -/
  noted : ∀ slot, registry.slotOf? reference.container = some slot →
    ∃ entry, registry.classes[slot]? = some entry ∧ entry.name = reference.container ∧
      after.classes =
        registry.classes.set slot { entry with members := entry.members ++ [reference.member] }
  /-- A class that is not declared is made in a new last slot. -/
  made : reference.container ∉ registry.classNames →
    after.classes = registry.classes ++ [⟨reference.container, [reference.member]⟩]
  slots : ∀ name, name ≠ reference.container → after.slotOf? name = registry.slotOf? name
  denoted : after.overload? reference = some ⟨reference, body, none⟩
  kept : ∀ other, other ≠ reference → after.overload? other = registry.overload? other

/-- Noting a member changes no class but the one that has the name. -/
theorem classes_noteMember_of_fresh (fresh : container ∉ registry.classNames) (member : String) :
    (registry.noteMember container member).classes = registry.classes := by
  refine (List.map_congr_left fun entry declared => if_neg ?_).trans (List.map_id _)
  rintro rfl
  exact fresh (List.mem_map_of_mem declared)

/-- Where names are distinct, the class that has the name is the one at its slot. -/
theorem classes_noteMember_of_slotOf? (named : registry.classNames.Nodup) {slot : Nat}
    (slotted : registry.slotOf? container = some slot) {entry : DeclaredClass}
    (isEntry : registry.classes[slot]? = some entry) (member : String) :
    (registry.noteMember container member).classes =
      registry.classes.set slot { entry with members := entry.members ++ [member] } := by
  have atSlot : registry.classes.findIdx (fun entry => entry.name = container) = slot :=
    (List.findIdx?_eq_some_iff_findIdx_eq.mp slotted).2
  rw [noteMember, ← modify_findIdx_eq_map DeclaredClass.name container _ _ named, atSlot,
    List.modify_eq_set_getElem?, isEntry]
  rfl

theorem slotOf?_declareMember_other {name : String} (different : name ≠ container) :
    (registry.declareMember container member).slotOf? name = registry.slotOf? name := by
  rw [slotOf?_eq_findIdx?, slotOf?_eq_findIdx?, declareMember, classNames_noteMember,
    classNames_declareClass]
  split
  · rfl
  · simp only [List.findIdx?_append, List.findIdx?_cons, different.symm, decide_false,
      List.findIdx?_nil, Bool.false_eq_true, if_false, Option.map_none, Option.or_none]

theorem memberOverloads_addMethod_self (body : Body) :
    (registry.addMethod reference body).memberOverloads reference.container reference.member =
      registry.memberOverloads reference.container reference.member ++
        [⟨reference, body, none⟩] := by
  simp only [memberOverloads, addMethod, List.filter_append, List.filter_cons, List.filter_nil,
    and_self, decide_true, if_true]

theorem memberOverloads_addMethod_other (body : Body)
    (different : ¬ (reference.container = container ∧ reference.member = member)) :
    (registry.addMethod reference body).memberOverloads container member =
      registry.memberOverloads container member := by
  simp only [memberOverloads, addMethod, List.filter_append, List.filter_cons, different,
    decide_false, Bool.false_eq_true, if_false, List.filter_nil, List.append_nil]

theorem overload?_addMethod_self (free : registry.overload? reference = none) (body : Body) :
    (registry.addMethod reference body).overload? reference = some ⟨reference, body, none⟩ := by
  rw [overload?] at free
  simp only [overload?, addMethod, List.find?_append, free, Option.none_or, List.find?_cons,
    decide_true]

theorem overload?_addMethod_other {other : OverloadRef} (different : other ≠ reference)
    (body : Body) :
    (registry.addMethod reference body).overload? other = registry.overload? other := by
  simp only [overload?, addMethod, List.find?_append, List.find?_cons, different.symm,
    decide_false, List.find?_nil, Option.or_none]

theorem Coherent.addsMethod (coherent : registry.Coherent)
    (free : registry.overload? reference = none) (body : Body) :
    registry.AddsMethod reference body (registry.addMethod reference body) where
  own := memberOverloads_addMethod_self body
  others _ _ := memberOverloads_addMethod_other body
  overloads := rfl
  noted slot slotted := by
    obtain ⟨entry, -, named, isClass⟩ := classAt?_of_slotOf? slotted
    have isEntry : registry.classes[slot]? = some entry := (Option.filter_eq_some_iff.mp isClass).1
    refine ⟨entry, isEntry, named, ?_⟩
    rw [addMethod, Registry.declareMember, declareClass_of_slotOf? slotted]
    exact classes_noteMember_of_slotOf? coherent.named slotted isEntry reference.member
  made fresh := by
    have missing := Option.not_isSome_iff_eq_none.mp (mt slotOf?_isSome_iff.mp fresh)
    have others := classes_noteMember_of_fresh fresh reference.member
    rw [addMethod, Registry.declareMember, declareClass_of_missing missing]
    refine List.map_append.trans (congrArg₂ (· ++ ·) others ?_)
    exact congrArg (List.cons · []) (if_pos rfl)
  slots _ different := slotOf?_declareMember_other different
  denoted := overload?_addMethod_self free body
  kept _ different := overload?_addMethod_other different body

/-- An overload is declared exactly if it can be looked up, by the name of its class, among the
overloads of its member. -/
theorem Coherent.mem_references_iff (coherent : registry.Coherent) :
    reference ∈ registry.references ↔
      ∃ container, registry.resolve? reference.container = some container ∧
        reference ∈ registry.overloadRefs container reference.member := by
  refine ⟨coherent.kept, ?_⟩
  rintro ⟨container, resolved, isKept⟩
  obtain ⟨named, slotted⟩ := slotOf?_of_resolve? resolved
  obtain ⟨entry, -, -, isClass⟩ := classAt?_of_slotOf? slotted
  rw [overloadRefs_of_classAt? (named ▸ isClass)] at isKept
  exact (mem_memberRefs.mp isKept).1

/-- The two ways in which a declaration ends. -/
theorem Coherent.declareMethod_ends (coherent : registry.Coherent) (container member : String)
    (parameters : List String) (body : Body) :
    let reference : OverloadRef := ⟨container, member, ⟨parameters⟩⟩
    (reference ∈ registry.references ∧
      registry.declareMethod container member parameters body =
        (.error (.declaredTwice reference.key), registry)) ∨
    (reference ∉ registry.references ∧
      ∃ after, registry.declareMethod container member parameters body = (.ok reference, after) ∧
        registry.AddsMethod reference body after) := by
  intro reference
  cases found : registry.overload? reference with
  | some overload => exact .inl ⟨mem_references found, declareMethod_declared found body⟩
  | none =>
    exact .inr ⟨overload?_eq_none_iff.mp found, _, declareMethod_free found body,
      coherent.addsMethod found body⟩

end Registry

/-! ### Declaring a method -/

/-- Declaring a method is atomic. It fails exactly if the overload is declared already, and then
nothing has changed, although its class may be made first. Otherwise one overload and one member
name are appended, the class is made if there was none, and nothing else changes, in this runtime or
elsewhere. -/
theorem declaring_a_method_is_atomic {world : World} (reachable : world.Reachable)
    {runtime : RuntimeId} (present : runtime < world.registries.length)
    (container member : String) (parameters : List String) (body : Body) :
    let registry := world.registry runtime
    let reference : OverloadRef := ⟨container, member, ⟨parameters⟩⟩
    let result := registry.declareMethod container member parameters body
    let after := world.amend runtime (.declareMethod container member parameters body)
    registry.declareMethodInClass container member parameters body = result ∧
    ((∃ failure, result.1 = .error failure) ↔ reference ∈ registry.references) ∧
    (reference ∈ registry.references ↔ ∃ declared, registry.resolve? container = some declared ∧
      reference ∈ registry.overloadRefs declared member) ∧
    (∀ failure, result.1 = .error failure →
      failure = .declaredTwice reference.key ∧ result.2 = registry ∧ after = world) ∧
    (∀ answer, result.1 = .ok answer → answer = reference ∧ after.registry runtime = result.2 ∧
      registry.AddsMethod reference body result.2) ∧
    (∀ other, other ≠ runtime → after.registry other = world.registry other) ∧
    after = { world with registries := after.registries } := by
  intro registry reference result after
  have coherent : registry.Coherent := reachable.coherent runtime
  have reads : after.registry runtime = result.2 :=
    world.registry_setRegistry_self runtime result.2 present
  have others (other : RuntimeId) (different : other ≠ runtime) :
      after.registry other = world.registry other :=
    world.registry_setRegistry_other result.2 different
  have inClass := coherent.declareMethodInClass_eq container member parameters body
  rcases coherent.declareMethod_ends container member parameters body with
    ⟨declared, ends⟩ | ⟨free, made, ends, adds⟩
  · have failed : result.1 = .error (.declaredTwice reference.key) := congrArg Prod.fst ends
    have same : result.2 = registry := congrArg Prod.snd ends
    have unchanged : after = world :=
      (congrArg (world.setRegistry runtime) same).trans (world.setRegistry_registry runtime)
    refine ⟨inClass, iff_of_true ⟨_, failed⟩ declared, coherent.mem_references_iff, ?_, ?_,
      others, rfl⟩
    · intro failure fails
      exact ⟨Except.error.inj (fails.symm.trans failed), same, unchanged⟩
    · intro answer answers
      exact nomatch answers.symm.trans failed
  · have answered : result.1 = .ok reference := congrArg Prod.fst ends
    have same : result.2 = made := congrArg Prod.snd ends
    refine ⟨inClass, iff_of_false ?_ free, coherent.mem_references_iff, ?_, ?_, others, rfl⟩
    · rintro ⟨failure, fails⟩
      exact nomatch fails.symm.trans answered
    · intro failure fails
      exact nomatch fails.symm.trans answered
    · intro answer answers
      exact ⟨Except.ok.inj (answers.symm.trans answered), reads, same ▸ adds⟩

/-- In a process with a hooked member, one of its overloads is declared again, in vain, and a method
of a new class is declared. -/
theorem declaring_a_method_is_atomic_desk :
    ∃ world : World,
      world = (deskWorld.instrument ⟨0, 0⟩ { methods := [{ target := "Desk.greet" }] }).2 ∧
      world.Reachable ∧ 0 < world.registries.length ∧
      (world.registry 0).isHooked ⟨"Desk", "greet", ⟨["Str"]⟩⟩ = true ∧
      (∀ body : Body,
        ((world.registry 0).declareMethod "Desk" "greet" ["Str"] body).1 =
          .error (.declaredTwice "Desk.greet(Str)") ∧
        world.amend 0 (.declareMethod "Desk" "greet" ["Str"] body) = world) ∧
      ∀ body : Body, (world.registry 0).AddsMethod ⟨"Door", "open", ⟨[]⟩⟩ body
        ((world.registry 0).declareMethod "Door" "open" [] body).2 := by
  let plan : Plan := { methods := [{ target := "Desk.greet" }] }
  let world : World := (deskWorld.instrument ⟨0, 0⟩ plan).2
  have reachable : world.Reachable := deskWorld_reachable.instrument ⟨0, 0⟩ plan
  have present : 0 < world.registries.length := by decide
  refine ⟨world, rfl, reachable, present, rfl, fun body => ⟨rfl, ?_⟩, fun body => ?_⟩
  · obtain ⟨-, -, -, refuses, -⟩ :=
      declaring_a_method_is_atomic reachable present "Desk" "greet" ["Str"] body
    exact (refuses _ rfl).2.2
  · obtain ⟨-, -, -, -, answers, -⟩ :=
      declaring_a_method_is_atomic reachable present "Door" "open" [] body
    exact (answers _ rfl).2.2

end Intercept
