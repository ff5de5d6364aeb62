/-
This file says which arguments parameters accept. A parameter is a type name, and an argument has a
kind: it is a truth value, a number, or a reference, and an object is a reference whatever its class
is called. Acceptance looks at type names only, and the type name of an object is the name of its
class. So acceptance goes by the kinds of arguments, position by position, unless an argument is an
object of a class that has the name of a primitive type: this one is accepted where its name stands,
as if it were no reference, and nowhere else.
-/
import Intercept.Signature
import Mathlib.Data.List.Forall2

namespace Intercept

/-! ### Kinds of values -/

namespace Value

/-- That a value is a reference: it is null, a text, a list or an object of any class. -/
def IsReference : Value → Prop
  | .null => True
  | .str _ => True
  | .list _ => True
  | .object .. => True
  | _ => False

/-- That a value is an object of a class that has the name of a primitive type. -/
def Misnamed : Value → Prop
  | .object className _ => className ∈ primitiveTypes
  | _ => False

end Value

/-- That a parameter takes an argument, going by its kind: truth values and numbers are taken by
primitive types, references by `Object`, and any other type takes null, the built-in references of
this name and the objects of the class of this name. -/
def Takes (parameter : String) (argument : Value) : Prop :=
  match parameter with
  | "boolean" => ∃ value, argument = .bool value
  | "int" => ∃ value, argument = .int value
  | "double" => (∃ value, argument = .float value) ∨ ∃ value, argument = .int value
  | "Object" => argument.IsReference
  | other =>
    argument = .null ∨ (other = "String" ∧ ∃ text, argument = .str text) ∨
      (other = "List" ∧ ∃ items, argument = .list items) ∨
      ∃ identity, argument = .object other identity

/-! ### Single arguments -/

section Parameter

variable {parameter : String} {argument : Value}

theorem mem_primitiveTypes :
    parameter ∈ primitiveTypes ↔
      parameter = "boolean" ∨ parameter = "int" ∨ parameter = "double" := by
  simp [primitiveTypes]

/-- What a class takes, a built-in one or any other. -/
theorem takes_of_class (reference : parameter ∉ primitiveTypes) (special : parameter ≠ "Object") :
    Takes parameter argument ↔
      argument = .null ∨ (parameter = "String" ∧ ∃ text, argument = .str text) ∨
        (parameter = "List" ∧ ∃ items, argument = .list items) ∨
        ∃ identity, argument = .object parameter identity := by
  unfold Takes
  split
  case h_5 => rfl
  case h_4 => exact absurd rfl special
  all_goals exact absurd (by decide) reference

/-- An object is accepted where the name of its class stands, and where `Object` stands unless it is
misnamed. -/
theorem parameterAccepts_object {className : String} {identity : UInt64} :
    parameterAccepts parameter (.object className identity) ↔
      parameter = className ∨ parameter = "Object" ∧ className ∉ primitiveTypes := by
  simp [parameterAccepts, Value.typeName]

/-- A class accepts what it takes. -/
theorem parameterAccepts_of_class (reference : parameter ∉ primitiveTypes)
    (special : parameter ≠ "Object") :
    parameterAccepts parameter argument ↔ Takes parameter argument := by
  rw [takes_of_class reference special]
  cases argument with
  | object className identity =>
    rw [parameterAccepts_object]
    simp [special, eq_comm]
  | _ =>
    simp only [primitiveTypes, List.mem_cons, List.not_mem_nil, or_false, not_or] at reference
    simp [parameterAccepts, Value.typeName, primitiveTypes, reference, special]

/-- The arguments that are not misnamed are accepted where they are taken. -/
theorem parameterAccepts_iff_takes (named : ¬ argument.Misnamed) :
    parameterAccepts parameter argument ↔ Takes parameter argument := by
  by_cases reference : parameter ∉ primitiveTypes ∧ parameter ≠ "Object"
  · exact parameterAccepts_of_class reference.1 reference.2
  · have special : (parameter = "boolean" ∨ parameter = "int" ∨ parameter = "double") ∨
        parameter = "Object" := by
      rwa [not_and_or, not_not, not_not, mem_primitiveTypes] at reference
    rcases special with (rfl | rfl | rfl) | rfl <;>
      cases argument with
      | object className identity =>
        rw [parameterAccepts_object]
        simp_all [Takes, Value.IsReference, Value.Misnamed, primitiveTypes, eq_comm]
      | _ => simp [Takes, parameterAccepts, Value.typeName, Value.IsReference, primitiveTypes]

/-- An argument that is misnamed is accepted only where its name stands. -/
theorem parameterAccepts_misnamed (misnamed : argument.Misnamed) :
    parameterAccepts parameter argument ↔ parameter = argument.typeName := by
  cases argument with
  | object className identity =>
    rw [parameterAccepts_object]
    exact or_iff_left fun generic => generic.2 misnamed
  | _ => cases misnamed

end Parameter

/-! ### Argument lists -/

/-- That a parameter accepts an argument: a misnamed one by its name, any other one by its kind. -/
def Admits (parameter : String) (argument : Value) : Prop :=
  argument.Misnamed ∧ parameter = argument.typeName ∨
    ¬ argument.Misnamed ∧ Takes parameter argument

theorem parameterAccepts_iff_admits {parameter : String} {argument : Value} :
    parameterAccepts parameter argument ↔ Admits parameter argument := by
  by_cases misnamed : argument.Misnamed
  · rw [parameterAccepts_misnamed misnamed]
    simp [Admits, misnamed]
  · rw [parameterAccepts_iff_takes misnamed]
    simp [Admits, misnamed]

/-- Arguments are accepted position by position, as many as there are parameters. -/
theorem parametersAccept_iff {relation : String → Value → Prop} {parameters : List String}
    {arguments : List Value}
    (same : ∀ parameter, ∀ argument ∈ arguments,
      (parameterAccepts parameter argument ↔ relation parameter argument)) :
    parametersAccept parameters arguments ↔ List.Forall₂ relation parameters arguments := by
  induction parameters generalizing arguments with
  | nil => cases arguments <;> simp [parametersAccept]
  | cons parameter parameters inductionHypothesis =>
    cases arguments with
    | nil => simp [parametersAccept]
    | cons argument arguments =>
      have rest := inductionHypothesis fun parameter other isOther =>
        same parameter other (List.mem_cons_of_mem _ isOther)
      rw [parametersAccept, Bool.and_eq_true, same parameter argument List.mem_cons_self, rest,
        List.forall₂_cons]

/-- Argument lists in which no argument is misnamed are accepted exactly if every parameter takes
the argument at its position, going by the kind of the argument. A misnamed argument is accepted
exactly where its name stands, and this is never where it is taken. -/
theorem Signature.accepts_by_kind_unless_misnamed (signature : Signature)
    (arguments : List Value) :
    ((∀ argument ∈ arguments, ¬ argument.Misnamed) →
      (signature.accepts arguments ↔ List.Forall₂ Takes signature.parameters arguments)) ∧
    (signature.accepts arguments ↔ List.Forall₂ Admits signature.parameters arguments) ∧
    ∀ argument : Value, argument.Misnamed → ∀ parameter,
      ¬ (Takes parameter argument ∧ Admits parameter argument) := by
  refine ⟨fun named => ?_, ?_, ?_⟩
  · exact parametersAccept_iff fun _ argument isArgument =>
      parameterAccepts_iff_takes (named argument isArgument)
  · exact parametersAccept_iff fun _ _ _ => parameterAccepts_iff_admits
  · rintro argument misnamed parameter ⟨taken, ⟨-, rfl⟩ | ⟨named, -⟩⟩
    · cases argument with
      | object className identity =>
        rw [Value.typeName] at taken
        rcases mem_primitiveTypes.mp misnamed with rfl | rfl | rfl <;> simp [Takes] at taken
      | _ => cases misnamed
    · exact named misnamed

/-- An integer widens, and an object whose class has the name of a built-in type is a reference like
any other. -/
theorem Signature.accepts_by_kind_unless_misnamed_mixed :
    let arguments : List Value := [.int 3, .object "List" 7, .object "Desk" 8, .null]
    (∀ argument ∈ arguments, ¬ argument.Misnamed) ∧
      (⟨["double", "Object", "Desk", "Desk"]⟩ : Signature).accepts arguments := by
  intro arguments
  have named : ∀ argument ∈ arguments, ¬ argument.Misnamed := by
    simp [arguments, Value.Misnamed, primitiveTypes]
  refine ⟨named, ((accepts_by_kind_unless_misnamed _ arguments).1 named).mpr ?_⟩
  simp [arguments, Takes, Value.IsReference]

/-- An object of a class that is called like the integers is not accepted as an object, and it is
accepted as an integer. -/
theorem Signature.misnamed_object_accepted_as_integer :
    List.Forall₂ Takes ["Object"] [.object "int" 1] ∧
      (⟨["Object"]⟩ : Signature).accepts [.object "int" 1] = false ∧
      ¬ List.Forall₂ Takes ["int"] [.object "int" 1] ∧
      (⟨["int"]⟩ : Signature).accepts [.object "int" 1] = true := by
  refine ⟨?_, by decide, ?_, by decide⟩ <;> simp [Takes, Value.IsReference]

end Intercept
