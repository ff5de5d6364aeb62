/-
This file holds parameter lists and the references by which classes and overloads are
named. An overload accepts an argument list when the lengths agree and every argument
fits its parameter: the type names are equal, or an integer widens to a double, or the
parameter takes references and the argument is one. The key of an overload is its
dotted name followed by its parameter list.
-/
import Intercept.Value

namespace Intercept

/-! ### Matching arguments -/

/-- The type names that are no reference types. -/
def primitiveTypes : List String :=
  ["boolean", "int", "double"]

/-- Whether one argument can be passed for one parameter type. The test is on type names, so
an object counts as what the name of its class says. -/
def parameterAccepts (parameter : String) : Value → Bool
  | .null => !primitiveTypes.contains parameter
  | .void => false
  | argument =>
    match argument, parameter == "double" with
    | .int _, true => true
    | _, _ =>
      parameter == argument.typeName ||
        (parameter == "Object" && !primitiveTypes.contains argument.typeName)

/-- Whether arguments fit parameters, position by position. -/
def parametersAccept : List String → List Value → Bool
  | [], [] => true
  | parameter :: parameters, argument :: arguments =>
    parameterAccepts parameter argument && parametersAccept parameters arguments
  | _, _ => false

/-- The ordered parameter types of an overload. -/
structure Signature where
  parameters : List String
deriving DecidableEq

namespace Signature

/-- The number of parameters. -/
def arity (signature : Signature) : Nat :=
  signature.parameters.length

/-- The parameter list in parentheses. -/
def render (signature : Signature) : String :=
  "(" ++ String.intercalate ", " signature.parameters ++ ")"

/-- Whether an argument list can be passed. -/
def accepts (signature : Signature) (arguments : List Value) : Bool :=
  parametersAccept signature.parameters arguments

end Signature

/-! ### References -/

/-- A declared class, by its name and its place among the classes of its runtime. -/
structure ClassRef where
  name : String
  slot : Nat
deriving DecidableEq

/-- An overload, by its class, its member name and its parameter types. -/
structure OverloadRef where
  container : String
  member : String
  signature : Signature
deriving DecidableEq

/-- The text that names an overload in stack frames and in messages. -/
def OverloadRef.key (reference : OverloadRef) : String :=
  reference.container ++ "." ++ reference.member ++ reference.signature.render

end Intercept
