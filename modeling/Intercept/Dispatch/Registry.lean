/-
This file holds the registry of a runtime: the declared classes, each with its member
names in order of declaration, and the overloads, each with its declared body and at
most one body installed over it. Declarations only append. An installed body is either
plain or a tracer, and a tracer always carries the declared body that it forwards to.
-/
import Intercept.Dispatch.Procedure

namespace Intercept

/-! ### Overloads -/

/-- A tracing body: it belongs to one installation, traces through an emitter under a path,
and forwards to the declared body. -/
structure Tracer where
  /-- The number of the installation, from a counter of 64 bits that is not run through. -/
  identity : Nat
  emitter : EmitterId
  path : String
  hook : Hook
  declaredBody : Body

/-- What a call of an overload runs. -/
inductive BodyInForce where
  | plain (body : Body)
  | traced (tracer : Tracer)

/-- A declared overload. -/
structure Overload where
  reference : OverloadRef
  declaredBody : Body
  installed : Option BodyInForce := none

/-- The body in force. -/
def Overload.bodyInForce (overload : Overload) : BodyInForce :=
  overload.installed.getD (.plain overload.declaredBody)

/-! ### Registries -/

/-- A declared class: its name, and its member names, one for each declaration. -/
structure DeclaredClass where
  name : String
  members : List String := []
deriving DecidableEq

/-- The classes in order of their slots, and the overloads in order of declaration. How this is
laid out, with an index of names and lists of overloads under the members of a class, is said by
`ClassTable`, which stands for a registry and has the same answers. -/
structure Registry where
  classes : List DeclaredClass := []
  overloads : List Overload := []

namespace Registry

/-- The slot of a class. -/
def slotOf? (registry : Registry) (name : String) : Option Nat :=
  registry.classes.findIdx? fun entry => entry.name = name

/-- The class at the slot of a reference, if it has the name that the reference gives. -/
def classAt? (registry : Registry) (container : ClassRef) : Option DeclaredClass :=
  registry.classes[container.slot]?.filter fun entry => entry.name = container.name

/-- The reference to a class. -/
def resolve? (registry : Registry) (name : String) : Option ClassRef :=
  (registry.slotOf? name).map fun slot => ⟨name, slot⟩

/-- The overload that a reference denotes. -/
def overload? (registry : Registry) (reference : OverloadRef) : Option Overload :=
  registry.overloads.find? fun overload => overload.reference = reference

/-- The overloads of a member, in order of declaration. -/
def memberOverloads (registry : Registry) (container member : String) : List Overload :=
  registry.overloads.filter fun overload =>
    overload.reference.container = container ∧ overload.reference.member = member

/-- The first overload of a member that accepts an argument list. -/
def select? (registry : Registry) (container member : String) (arguments : List Value) :
    Option Overload :=
  (registry.memberOverloads container member).find? fun overload =>
    overload.reference.signature.accepts arguments

/-- The references to a member's overloads; none where there is no class. -/
def overloadRefs (registry : Registry) (container : ClassRef) (member : String) :
    List OverloadRef :=
  match registry.classAt? container with
  | some entry => (registry.memberOverloads entry.name member).map Overload.reference
  | none => []

/-- The member names of a class, one for each declaration. -/
def memberNames (registry : Registry) (container : ClassRef) : List String :=
  ((registry.classAt? container).map DeclaredClass.members).getD []

/-- Whether a body is installed over an overload. -/
def isHooked (registry : Registry) (reference : OverloadRef) : Bool :=
  ((registry.overload? reference).bind Overload.installed).isSome

/-! ### Declarations -/

/-- Declares a class, if it is not declared yet. -/
def declareClass (registry : Registry) (name : String) : Registry :=
  if (registry.slotOf? name).isSome then registry
  else { registry with classes := registry.classes ++ [⟨name, []⟩] }

/-- Notes a member name in a class. -/
def noteMember (registry : Registry) (container member : String) : Registry :=
  { registry with
    classes := registry.classes.map fun entry =>
      if entry.name = container then { entry with members := entry.members ++ [member] }
      else entry }

/-- Declares a member that has no body. -/
def declareMember (registry : Registry) (container member : String) : Registry :=
  (registry.declareClass container).noteMember container member

/-- Declares an overload, unless the same one is declared already. -/
def declareMethod (registry : Registry) (container member : String) (parameters : List String)
    (body : Body) : Except HookFailure OverloadRef × Registry :=
  let reference : OverloadRef := ⟨container, member, ⟨parameters⟩⟩
  if (registry.overload? reference).isSome then (.error (.declaredTwice reference.key), registry)
  else
    let noted := registry.declareMember container member
    (.ok reference, { noted with overloads := noted.overloads ++ [⟨reference, body, none⟩] })

/-! ### Installation -/

/-- The declared body of an overload. -/
def declaredBody (registry : Registry) (reference : OverloadRef) : Except HookFailure Body :=
  match registry.overload? reference with
  | some overload => .ok overload.declaredBody
  | none => .error (.undeclaredOverload reference.key)

/-- Puts a body over an overload, in the place of the one installed before. -/
def putBody (registry : Registry) (reference : OverloadRef) (body : BodyInForce) : Registry :=
  { registry with
    overloads := registry.overloads.map fun overload =>
      if overload.reference = reference then { overload with installed := some body }
      else overload }

/-- Installs a body over a declared overload. -/
def replace (registry : Registry) (reference : OverloadRef) (body : BodyInForce) :
    Except HookFailure Registry :=
  if (registry.overload? reference).isSome then .ok (registry.putBody reference body)
  else .error (.undeclaredOverload reference.key)

end Registry

end Intercept
