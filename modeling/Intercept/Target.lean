/-
This file splits a dotted name into a container and a member. The split is at the last
dot, so that the packages around a class stay in the container, and both parts must be
non-empty.
-/
import Intercept.Failure
import Intercept.Text.Split

namespace Intercept

/-- The name of one member of one container. -/
structure Target where
  container : String
  member : String
deriving DecidableEq

namespace Target

/-- The dotted name of a target. -/
def dottedName (target : Target) : String :=
  target.container ++ "." ++ target.member

/-- Reads a dotted name, refusing one without a dot or with an empty part. -/
def parse (name : String) : Except HookFailure Target :=
  match Text.splitLast? '.' name.toList with
  | some (container, member) =>
    if container.isEmpty ∨ member.isEmpty then .error (.malformedTarget name)
    else .ok ⟨String.ofList container, String.ofList member⟩
  | none => .error (.malformedTarget name)

/-- Joins two parts with a dot and reads the result. A dot inside the member moves the
split. -/
def ofParts (container member : String) : Except HookFailure Target :=
  parse (container ++ "." ++ member)

end Target

end Intercept
