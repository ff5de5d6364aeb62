/-
This file holds a registry as it is laid out in memory. Classes stand in slots, and an index tells
the slot of a name. A class keeps a list of overloads for each of its members, beside its member
names in order of declaration. So an overload is reached in three steps: the index gives the slot,
the class there has the list of the member, and in this list the overload is the one with the right
reference. A declaration makes the class and the list of the member before it looks whether it has
to be refused.
-/
import Intercept.Dispatch.Registry

namespace Intercept

/-! ### Classes with their overloads -/

/-- A class: its name, its member names, one for each declaration, and the overloads of every
member that has been declared, under the name of the member. -/
structure ClassRecord where
  name : String
  declared : List String := []
  overloads : List (String × List Overload) := []

namespace ClassRecord

/-- The overloads of a member; none where the member has no list. -/
def overloadsOf (record : ClassRecord) (member : String) : List Overload :=
  (record.overloads.lookup member).getD []

/-- Makes the list of a member, if it has none. -/
def openMember (record : ClassRecord) (member : String) : ClassRecord :=
  if (record.overloads.lookup member).isSome then record
  else { record with overloads := (member, []) :: record.overloads }

/-- Changes the list of a member in its place. -/
def changeMember (record : ClassRecord) (member : String)
    (change : List Overload → List Overload) : ClassRecord :=
  { record with
    overloads := record.overloads.map fun entry =>
      if entry.1 = member then (entry.1, change entry.2) else entry }

/-- Notes a member name. -/
def note (record : ClassRecord) (member : String) : ClassRecord :=
  { record with declared := record.declared ++ [member] }

/-- Adds an overload at the end of the list of its member. -/
def addOverload (record : ClassRecord) (overload : Overload) : ClassRecord :=
  record.changeMember overload.reference.member fun overloads => overloads ++ [overload]

/-- Puts a body over the first overload that has the reference. -/
def putBody (record : ClassRecord) (reference : OverloadRef) (body : BodyInForce) :
    ClassRecord :=
  record.changeMember reference.member fun overloads =>
    overloads.modify (overloads.findIdx fun overload => overload.reference = reference)
      fun overload => { overload with installed := some body }

end ClassRecord

/-! ### Tables of classes -/

/-- The classes in order of their slots, and the slot of each name. -/
structure ClassTable where
  classes : List ClassRecord := []
  slots : List (String × Nat) := []

namespace ClassTable

/-- The slot of a class, as the index has it. -/
def slotOf? (table : ClassTable) (name : String) : Option Nat :=
  table.slots.lookup name

/-- The class of a name: the one in the slot of the name. -/
def classOf? (table : ClassTable) (name : String) : Option ClassRecord :=
  (table.slotOf? name).bind fun slot => table.classes[slot]?

/-- The class at the slot of a reference, if it has the name that the reference gives. -/
def classAt? (table : ClassTable) (container : ClassRef) : Option ClassRecord :=
  table.classes[container.slot]?.filter fun record => record.name = container.name

/-- The reference to a class. -/
def resolve? (table : ClassTable) (name : String) : Option ClassRef :=
  (table.slotOf? name).map fun slot => ⟨name, slot⟩

/-- The overloads of a member, by the name of its class. -/
def overloadsOf? (table : ClassTable) (container member : String) : Option (List Overload) :=
  (table.classOf? container).bind fun record => record.overloads.lookup member

/-- The overload that a reference denotes. -/
def overload? (table : ClassTable) (reference : OverloadRef) : Option Overload :=
  (table.overloadsOf? reference.container reference.member).bind fun overloads =>
    overloads.find? fun overload => overload.reference = reference

/-- The first overload of a member that accepts an argument list. -/
def select? (table : ClassTable) (container member : String) (arguments : List Value) :
    Option Overload :=
  (table.overloadsOf? container member).bind fun overloads =>
    overloads.find? fun overload => overload.reference.signature.accepts arguments

/-- The references to a member's overloads; none where there is no class. -/
def overloadRefs (table : ClassTable) (container : ClassRef) (member : String) :
    List OverloadRef :=
  match table.classAt? container with
  | some record => (record.overloadsOf member).map Overload.reference
  | none => []

/-- The member names of a class, one for each declaration. -/
def memberNames (table : ClassTable) (container : ClassRef) : List String :=
  ((table.classAt? container).map ClassRecord.declared).getD []

/-- Whether a body is installed over an overload. -/
def isHooked (table : ClassTable) (reference : OverloadRef) : Bool :=
  ((table.overload? reference).bind Overload.installed).isSome

/-! ### Declarations -/

/-- The slot of a class. A class that is not declared yet is made in a new last slot, and the
index gets its name. -/
def openClass (table : ClassTable) (name : String) : Nat × ClassTable :=
  match table.slotOf? name with
  | some slot => (slot, table)
  | none =>
    (table.classes.length,
      ⟨table.classes ++ [{ name }], (name, table.classes.length) :: table.slots⟩)

/-- Changes the class in a slot. -/
def changeClass (table : ClassTable) (slot : Nat) (change : ClassRecord → ClassRecord) :
    ClassTable :=
  { table with classes := table.classes.modify slot change }

/-- The overloads of a member of the class in a slot. -/
def overloadsAt (table : ClassTable) (slot : Nat) (member : String) : List Overload :=
  (table.classes[slot]?.map fun record => record.overloadsOf member).getD []

/-- Declares a class, if it is not declared yet. -/
def declareClass (table : ClassTable) (name : String) : ClassTable :=
  (table.openClass name).2

/-- Declares a member that has no body. -/
def declareMember (table : ClassTable) (container member : String) : ClassTable :=
  let (slot, table) := table.openClass container
  table.changeClass slot fun record => (record.openMember member).note member

/-- Declares an overload, after its class and the list of its member have been made. If the list
has the overload already, the declaration is refused, and what has been made stays. -/
def declareMethod (table : ClassTable) (container member : String) (parameters : List String)
    (body : Body) : Except HookFailure OverloadRef × ClassTable :=
  let reference : OverloadRef := ⟨container, member, ⟨parameters⟩⟩
  let (slot, table) := table.openClass container
  let table := table.changeClass slot fun record => record.openMember member
  if (table.overloadsAt slot member).any fun overload => overload.reference = reference then
    (.error (.declaredTwice reference.key), table)
  else
    (.ok reference,
      table.changeClass slot fun record =>
        (record.addOverload ⟨reference, body, none⟩).note member)

/-! ### Installation -/

/-- The declared body of an overload. -/
def declaredBody (table : ClassTable) (reference : OverloadRef) : Except HookFailure Body :=
  match table.overload? reference with
  | some overload => .ok overload.declaredBody
  | none => .error (.undeclaredOverload reference.key)

/-- Installs a body over a declared overload, in the place of the one installed before. -/
def replace (table : ClassTable) (reference : OverloadRef) (body : BodyInForce) :
    Except HookFailure ClassTable :=
  match table.slotOf? reference.container, table.overload? reference with
  | some slot, some _ =>
    .ok (table.changeClass slot fun record => record.putBody reference body)
  | _, _ => .error (.undeclaredOverload reference.key)

/-- Installs a hook on one overload, with a tracer of the given identity, which forwards to the
declared body. -/
def install (table : ClassTable) (identity : Nat) (emitter : EmitterId)
    (reference : OverloadRef) (path : String) (hook : Hook) : Except HookFailure ClassTable :=
  match table.declaredBody reference with
  | .ok body => table.replace reference (.traced ⟨identity, emitter, path, hook, body⟩)
  | .error failure => .error failure

end ClassTable

end Intercept
