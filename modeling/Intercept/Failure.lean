/-
This file holds what can go wrong. A fault is what a method raises: hooks pass it on
and never change it. A hook failure is a reason why something could not be resolved or
installed: it becomes one diagnostic line and stops nothing else.
-/
import Intercept.Value

namespace Intercept

/-! ### Faults -/

/-- An exception raised by a method body. -/
structure Fault where
  className : String
  message : String
deriving DecidableEq

namespace Fault

/-- The text of a fault. -/
def render (fault : Fault) : String :=
  fault.className ++ ": " ++ fault.message

/-- The fault of a call that no overload accepts. -/
def noneAccepts (path : String) (arity : Nat) : Fault :=
  ⟨"NoSuchMethodError",
    "no overload of " ++ path ++ " accepts " ++ Text.decimal arity ++ " argument(s)"⟩

end Fault

/-- How a procedure ends: with a value or with a fault. -/
inductive Outcome where
  | returned (value : Value)
  | raised (fault : Fault)

namespace Outcome

/-- The outcome of a transforming procedure, read as a result: a fault counts as its text. -/
def asResult : Outcome → Value
  | .returned value => value
  | .raised fault => .str fault.render

/-- The outcome of a transforming procedure, read as an argument list: a list gives its items,
any other value stands alone. -/
def asArguments (outcome : Outcome) : List Value :=
  match outcome.asResult with
  | .list items => items
  | value => [value]

/-- The outcome of a native callee, read as a machine word: a fault is minus one, and a
value that is neither an integer nor a truth value is zero. -/
def asWord : Outcome → Int64
  | .returned (.int value) => value
  | .returned (.bool value) => if value then 1 else 0
  | .returned _ => 0
  | .raised _ => -1

end Outcome

/-! ### Hook failures -/

/-- A failure to resolve or to install a hook. -/
inductive HookFailure where
  | unknownClass (name : String)
  | unknownModule (path : String)
  | unknownSymbol (modulePath symbol : String)
  | unknownMember (container member : String)
  | malformedTarget (name : String)
  | malformedPattern (pattern reason : String)
  | undeclaredOverload (key : String)
  | missingCapability (capability : String)
  | declaredTwice (name : String)
deriving DecidableEq

namespace HookFailure

/-- The text of a hook failure. -/
def message : HookFailure → String
  | .unknownClass name => "\"" ++ name ++ "\" not found"
  | .unknownModule path => "module \"" ++ path ++ "\" not found"
  | .unknownSymbol modulePath symbol =>
    "symbol \"" ++ symbol ++ "\" not found in \"" ++ modulePath ++ "\""
  | .unknownMember container member =>
    "member \"" ++ member ++ "\" not found in \"" ++ container ++ "\""
  | .malformedTarget name => "invalid target \"" ++ name ++ "\": expected <container>.<member>"
  | .malformedPattern pattern reason => "invalid pattern \"" ++ pattern ++ "\": " ++ reason
  | .undeclaredOverload key => "overload " ++ key ++ " is not registered"
  | .missingCapability capability => "no " ++ capability ++ " attached"
  | .declaredTwice name => "\"" ++ name ++ "\" is already declared"

/-- The diagnostic line of a hook failure. -/
def diagnostic (failure : HookFailure) : String :=
  "error: " ++ failure.message

end HookFailure

end Intercept
