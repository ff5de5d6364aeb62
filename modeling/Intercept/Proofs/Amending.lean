/-
This file says what amendments add up to. A process is amended from outside: classes and methods
are declared, some of them in vain, members without a body are declared, hooks are installed,
bodies are replaced. Declarations change the classes and what is declared of a registry together;
all other amendments change neither. So a registry can be told from the amendments that have been
made: the member names of a class account for its overloads and for its members without a body,
and an overload has the body that was declared for it first.
-/
import Intercept.Proofs.Undisturbed

namespace Intercept

/-! ### Amendments -/

/-- Something that is done to a runtime from outside. -/
inductive Amendment where
  | declareClass (name : String)
  /-- Declares a member that has no body. -/
  | declareMember (container member : String)
  | declareMethod (container member : String) (parameters : List String) (body : Body)
  /-- Hooks one overload. -/
  | install (emitter : EmitterId) (reference : OverloadRef) (path : String) (hook : Hook)
  /-- Puts any body over an overload, plain or a tracer. -/
  | replace (reference : OverloadRef) (body : BodyInForce)

namespace Amendment

/-- Whether an amendment declares a member that has no body. -/
def notes (container member : String) : Amendment → Bool
  | .declareMember noted name => noted = container ∧ name = member
  | _ => false

/-- Whether an amendment puts something over an overload, and declares nothing. -/
def puts : Amendment → Bool
  | .install .. => true
  | .replace .. => true
  | _ => false

/-- The body that an amendment declares for an overload. -/
def body? (reference : OverloadRef) : Amendment → Option Body
  | .declareMethod container member parameters body =>
    if ⟨container, member, ⟨parameters⟩⟩ = reference then some body else none
  | _ => none

end Amendment

namespace World

/-- The world after an amendment of a runtime. An amendment that fails leaves all that is
declared and installed. -/
def amend (world : World) (runtime : RuntimeId) : Amendment → World
  | .declareClass name => world.setRegistry runtime ((world.registry runtime).declareClass name)
  | .declareMember container member =>
    world.setRegistry runtime ((world.registry runtime).declareMember container member)
  | .declareMethod container member parameters body =>
    world.setRegistry runtime
      ((world.registry runtime).declareMethod container member parameters body).2
  | .install emitter reference path hook =>
    (world.installHook ⟨runtime, emitter⟩ reference path hook).2
  | .replace reference body =>
    match (world.registry runtime).replace reference body with
    | .ok registry => world.setRegistry runtime registry
    | .error _ => world

end World

namespace Registry

/-! ### Classes by their names -/

/-- The class of a name. -/
def classOf? (registry : Registry) (name : String) : Option DeclaredClass :=
  registry.classes.find? fun entry => entry.name = name

/-- The member names of the class of a name; none if there is no such class. -/
def membersOf (registry : Registry) (name : String) : List String :=
  ((registry.classOf? name).map DeclaredClass.members).getD []

theorem name_of_classOf? {registry : Registry} {name : String} {entry : DeclaredClass}
    (found : registry.classOf? name = some entry) : entry.name = name := by
  have accepted := List.find?_some found
  exact of_decide_eq_true accepted

theorem classOf?_eq_none_iff {registry : Registry} {name : String} :
    registry.classOf? name = none ↔ name ∉ registry.classNames := by
  simp only [classOf?, List.find?_eq_none, decide_eq_true_eq, classNames, List.mem_map,
    not_exists, not_and]

/-- Where names are distinct, a name denotes the class that has it. -/
theorem Coherent.classOf? {registry : Registry} (coherent : registry.Coherent)
    {entry : DeclaredClass} (declared : entry ∈ registry.classes) :
    registry.classOf? entry.name = some entry := by
  cases found : registry.classOf? entry.name with
  | none => exact absurd (List.mem_map_of_mem declared) (classOf?_eq_none_iff.mp found)
  | some other =>
    rw [List.inj_on_of_nodup_map coherent.named (List.mem_of_find?_eq_some found) declared
      (name_of_classOf? found)]

/-- Declaring a class gives no class new members: a new class has none. -/
theorem membersOf_declareClass (registry : Registry) (name other : String) :
    (registry.declareClass name).membersOf other = registry.membersOf other := by
  unfold declareClass
  split
  · rfl
  · next fresh =>
    simp only [membersOf, classOf?, List.find?_append]
    cases found : registry.classes.find? fun entry => entry.name = other with
    | some entry => rfl
    | none =>
      by_cases same : name = other
      · simp only [same, Option.none_or, List.find?_cons, decide_true, Option.map_some,
          Option.map_none, Option.getD_some, Option.getD_none]
      · simp only [same, Option.none_or, List.find?_cons, decide_false, List.find?_nil]

theorem classOf?_noteMember (registry : Registry) (container member name : String) :
    (registry.noteMember container member).classOf? name =
      (registry.classOf? name).map fun entry =>
        if entry.name = container then { entry with members := entry.members ++ [member] }
        else entry := by
  rw [classOf?, noteMember, List.find?_map, classOf?]
  refine congrArg (fun asks => (registry.classes.find? asks).map _) (funext fun entry => ?_)
  rw [Function.comp_apply]
  split <;> rfl

/-- Declaring a member notes its name in its class, and in no other one. -/
theorem membersOf_declareMember (registry : Registry) (container member name : String) :
    (registry.declareMember container member).membersOf name =
      registry.membersOf name ++ if name = container then [member] else [] := by
  rw [← registry.membersOf_declareClass container name]
  rw [declareMember, membersOf, classOf?_noteMember, membersOf]
  cases found : (registry.declareClass container).classOf? name with
  | none =>
    have different : name ≠ container := fun same =>
      classOf?_eq_none_iff.mp found (same ▸ registry.mem_classNames_declareClass container)
    rw [if_neg different]
    rfl
  | some entry =>
    simp only [Option.map_some, Option.getD_some, name_of_classOf? found]
    split
    · rfl
    · exact (List.append_nil _).symm

/-! ### Overloads of a member -/

/-- What is declared for a member: the references and the declared bodies, in order. -/
def memberDeclarations (registry : Registry) (container member : String) :
    List (OverloadRef × Body) :=
  registry.declarations.filter fun declared =>
    declared.1.container = container ∧ declared.1.member = member

theorem memberDeclarations_eq (registry : Registry) (container member : String) :
    registry.memberDeclarations container member =
      (registry.memberOverloads container member).map fun overload =>
        (overload.reference, overload.declaredBody) := by
  rw [memberDeclarations, declarations, List.filter_map]
  rfl

theorem memberDeclarations_congr {registry other : Registry}
    (same : other.declarations = registry.declarations) (container member : String) :
    other.memberDeclarations container member = registry.memberDeclarations container member := by
  rw [memberDeclarations, same, memberDeclarations]

theorem declarations_of_overloads {registry other : Registry}
    (same : other.overloads = registry.overloads) :
    other.declarations = registry.declarations := by
  rw [declarations, same, declarations]

/-- The declared body of an overload is told by what is declared. -/
theorem declaredBody_overload? (registry : Registry) (reference : OverloadRef) :
    (registry.overload? reference).map Overload.declaredBody =
      (registry.declarations.find? fun declared => declared.1 = reference).map Prod.snd := by
  have declared := (Callee.exactly reference).find?_declared registry []
  rw [← show (fun entry : OverloadRef × Body => decide (entry.1 = reference)) =
    (Callee.exactly reference).accepts [] ∘ Prod.fst from rfl] at declared
  rw [← declared, Option.map_map]
  rfl

/-- The declaration of an overload that is declared already is refused. -/
theorem declareMethod_declared {registry : Registry} {container member : String}
    {parameters : List String} {overload : Overload}
    (declared : registry.overload? ⟨container, member, ⟨parameters⟩⟩ = some overload)
    (body : Body) :
    registry.declareMethod container member parameters body =
      (.error (.declaredTwice (OverloadRef.key ⟨container, member, ⟨parameters⟩⟩)), registry) := by
  rw [declareMethod, declared]
  rfl

/-- The registry with one more overload, whose member has been noted. -/
def addMethod (registry : Registry) (reference : OverloadRef) (body : Body) : Registry :=
  { registry.declareMember reference.container reference.member with
    overloads := registry.overloads ++ [⟨reference, body, none⟩] }

/-- Any other declaration adds an overload. -/
theorem declareMethod_free {registry : Registry} {container member : String}
    {parameters : List String}
    (free : registry.overload? ⟨container, member, ⟨parameters⟩⟩ = none) (body : Body) :
    registry.declareMethod container member parameters body =
      (.ok ⟨container, member, ⟨parameters⟩⟩,
        registry.addMethod ⟨container, member, ⟨parameters⟩⟩ body) := by
  rw [declareMethod, free, addMethod, ← registry.overloads_declareMember container member]
  rfl

theorem declarations_addMethod (registry : Registry) (reference : OverloadRef) (body : Body) :
    (registry.addMethod reference body).declarations =
      registry.declarations ++ [(reference, body)] :=
  List.map_append

theorem membersOf_addMethod (registry : Registry) (reference : OverloadRef) (body : Body)
    (name : String) :
    (registry.addMethod reference body).membersOf name =
      registry.membersOf name ++ if name = reference.container then [reference.member] else [] :=
  registry.membersOf_declareMember reference.container reference.member name

/-- An overload is one of the members that are noted with it, and no other one. -/
theorem count_noted (reference : OverloadRef) (body : Body) (container member : String) :
    (if container = reference.container then [reference.member] else []).count member =
      ([(reference, body)].filter fun declared : OverloadRef × Body =>
        declared.1.container = container ∧ declared.1.member = member).length := by
  by_cases same : container = reference.container
  · by_cases sameMember : reference.member = member
    · rw [if_pos same, sameMember, List.count_singleton_self, List.filter_cons_of_pos]
      · rfl
      · exact decide_eq_true ⟨same.symm, sameMember⟩
    · rw [if_pos same, List.filter_cons_of_neg fun both =>
        sameMember (of_decide_eq_true both).2, List.count_cons_of_ne sameMember]
      rfl
  · rw [if_neg same, List.filter_cons_of_neg fun both => same (of_decide_eq_true both).1.symm]
    rfl

/-! ### What amendments add up to -/

/-- That a registry is coherent, and that what is declared in it is what amendments add up to. -/
structure Sums (registry : Registry) (amendments : List Amendment) : Prop where
  coherent : registry.Coherent
  counted : ∀ container member, (registry.membersOf container).count member =
    (registry.memberDeclarations container member).length +
      amendments.countP (Amendment.notes container member)
  bodies : ∀ reference, (registry.overload? reference).map Overload.declaredBody =
    amendments.findSome? (Amendment.body? reference)

namespace Sums

variable {registry after : Registry} {amendments : List Amendment}

theorem empty : Sums {} [] where
  coherent := .empty
  counted _ _ := rfl
  bodies _ := rfl

/-- An amendment that declares neither a member nor a body may do anything but that. -/
theorem silent (sums : registry.Sums amendments) {amendment : Amendment}
    (notesNothing : ∀ container member, amendment.notes container member = false)
    (givesNothing : ∀ reference, amendment.body? reference = none) (coherent : after.Coherent)
    (members : ∀ name, after.membersOf name = registry.membersOf name)
    (declarations : after.declarations = registry.declarations) :
    after.Sums (amendments ++ [amendment]) where
  coherent := coherent
  counted container member := by
    rw [members, memberDeclarations_congr declarations, sums.counted, List.countP_append,
      List.countP_singleton, notesNothing, if_neg Bool.false_ne_true, Nat.add_zero]
  bodies reference := by
    rw [declaredBody_overload?, declarations, ← declaredBody_overload?, sums.bodies,
      List.findSome?_append, List.findSome?_singleton, givesNothing, Option.or_none]

theorem declareClass (sums : registry.Sums amendments) (name : String) :
    (registry.declareClass name).Sums (amendments ++ [.declareClass name]) :=
  sums.silent (fun _ _ => rfl) (fun _ => rfl) (sums.coherent.declareClass name)
    (registry.membersOf_declareClass name)
    (declarations_of_overloads (registry.overloads_declareClass name))

theorem declareMember (sums : registry.Sums amendments) (container member : String) :
    (registry.declareMember container member).Sums
      (amendments ++ [.declareMember container member]) where
  coherent := sums.coherent.declareMember container member
  counted name counted := by
    rw [membersOf_declareMember, List.count_append, sums.counted, memberDeclarations_congr
      (declarations_of_overloads (registry.overloads_declareMember container member)),
      List.countP_append, List.countP_singleton, Nat.add_assoc]
    congr 2
    by_cases same : name = container
    · rw [if_pos same, List.count_singleton, Amendment.notes, beq_eq_decide]
      simp only [same, true_and]
    · rw [if_neg same, List.count_nil, Amendment.notes,
        if_neg fun both => same (of_decide_eq_true both).1.symm]
  bodies reference := by
    rw [declaredBody_overload?, declarations_of_overloads
      (registry.overloads_declareMember container member), ← declaredBody_overload?, sums.bodies,
      List.findSome?_append, List.findSome?_singleton]
    exact (Option.or_none).symm

theorem addMethod (sums : registry.Sums amendments) (container member : String)
    (parameters : List String) (body : Body)
    (coherent : (registry.addMethod ⟨container, member, ⟨parameters⟩⟩ body).Coherent) :
    (registry.addMethod ⟨container, member, ⟨parameters⟩⟩ body).Sums
      (amendments ++ [.declareMethod container member parameters body]) where
  coherent := coherent
  counted name counted := by
    have unnoted : ¬ Amendment.notes name counted
        (.declareMethod container member parameters body) := Bool.false_ne_true
    rw [membersOf_addMethod, List.count_append, sums.counted, count_noted _ body,
      memberDeclarations, memberDeclarations, declarations_addMethod, List.filter_append,
      List.length_append, List.countP_append, List.countP_singleton, if_neg unnoted, Nat.add_zero,
      Nat.add_right_comm]
  bodies asked := by
    rw [declaredBody_overload?, declarations_addMethod, List.find?_append, Option.map_or,
      ← declaredBody_overload?, sums.bodies, List.findSome?_append, List.findSome?_singleton,
      Amendment.body?, List.find?_singleton]
    congr 1
    by_cases same : (⟨container, member, ⟨parameters⟩⟩ : OverloadRef) = asked
    · rw [if_pos same, if_pos (decide_eq_true same)]
      rfl
    · rw [if_neg same, if_neg (mt of_decide_eq_true same)]
      rfl

/-- A declaration of an overload that has a body already changes nothing and counts for nothing:
the body is the one that was declared first. -/
theorem declareMethod (sums : registry.Sums amendments) (container member : String)
    (parameters : List String) (body : Body) :
    (registry.declareMethod container member parameters body).2.Sums
      (amendments ++ [.declareMethod container member parameters body]) := by
  have coherent := sums.coherent.declareMethod container member parameters body
  cases declared : registry.overload? ⟨container, member, ⟨parameters⟩⟩ with
  | none =>
    rw [declareMethod_free declared] at coherent ⊢
    exact sums.addMethod container member parameters body coherent
  | some overload =>
    rw [declareMethod_declared declared]
    refine ⟨sums.coherent, fun name counted => ?_, fun asked => ?_⟩
    · rw [sums.counted, List.countP_append, List.countP_singleton]
      rfl
    · rw [List.findSome?_append, List.findSome?_singleton, ← sums.bodies, Amendment.body?]
      split
      · next same =>
        rw [← same, declared]
        rfl
      · exact (Option.or_none).symm

end Sums

end Registry

end Intercept
