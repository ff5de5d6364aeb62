/-
This file holds procedures: what a method body, a transform or a native callee may do. A
procedure either ends with an outcome or performs one operation and goes on with its
answer. It may call methods, read its frames, run work on a thread of its own, install
hooks, declare methods and cross the native boundary. What a call does depends on the
hooks in force when it is made, so a procedure is data and is given its meaning
elsewhere.
-/
import Intercept.Boundary.Argument
import Intercept.Trace.Event
import Intercept.Failure

namespace Intercept

/-- A runtime, by its number among those of the process. -/
abbrev RuntimeId := Nat

/-- What hooks are installed through: the runtime that they are for, and the emitter that
their events go through. -/
structure Monitor where
  runtime : RuntimeId
  emitter : EmitterId := 0
deriving DecidableEq

/-- An installed hook: the overload it is on and the path that its events carry. -/
structure InstalledHook where
  overload : OverloadRef
  path : String
deriving DecidableEq

/-- The options of a hook, over the procedures that transform arguments and results. -/
structure HookOptions (Transform : Type) where
  /-- Whether a snapshot of the frames follows the entry. -/
  backtrace : Bool := false
  /-- Transforms the argument list before it is forwarded. -/
  transformArguments : Option (List Value → Transform) := none
  /-- Transforms the result before the caller gets it. -/
  transformResult : Option (Value → Transform) := none

namespace HookOptions

/-- The same options for tracing only. -/
def withoutTransforms {Transform : Type} (options : HookOptions Transform) :
    HookOptions Transform :=
  { backtrace := options.backtrace }

/-- The words for a truth value. -/
def flagText (flag : Bool) : String :=
  if flag then "true" else "false"

/-- The description of options: which of them are set. -/
def describe {Transform : Type} (options : HookOptions Transform) : String :=
  "HookSpec \x7b backtrace: " ++ flagText options.backtrace ++
    ", inject_args: " ++ flagText options.transformArguments.isSome ++
    ", inject_ret: " ++ flagText options.transformResult.isSome ++ " \x7d"

end HookOptions

/-- A procedure: an outcome, or an operation and what follows its answer. -/
inductive Procedure where
  | finish (outcome : Outcome)
  /-- Calls a method, in the procedure's own runtime or in another one. -/
  | call (runtime : Option RuntimeId) (container member : String) (receiver : Value)
      (arguments : List Value) (next : Outcome → Procedure)
  /-- Reads the frames of the thread, innermost first. -/
  | frames (next : List String → Procedure)
  /-- Runs work on a new thread and waits for it. -/
  | spawn (work : Procedure) (next : Outcome → Procedure)
  /-- Hooks every overload of a target, in the procedure's own runtime or in another one. -/
  | hook (runtime : Option RuntimeId) (emitter : EmitterId) (target : String)
      (options : HookOptions Procedure) (next : List InstalledHook → Procedure)
  /-- Hooks one overload, in the procedure's own runtime or in another one. -/
  | install (runtime : Option RuntimeId) (emitter : EmitterId) (overload : OverloadRef)
      (path : String) (options : HookOptions Procedure)
      (next : Except HookFailure InstalledHook → Procedure)
  /-- Declares a method in the procedure's own runtime. -/
  | define (container member : String) (parameters : List String)
      (body : Value → List Value → Procedure)
      (next : Except HookFailure OverloadRef → Procedure)
  /-- Calls a native address. -/
  | native (address : UInt64) (arguments : List Boundary.Argument) (callee : Procedure)
      (next : Int64 → Procedure)

/-- The body of a method: a procedure for every receiver and argument list. -/
abbrev Body := Value → List Value → Procedure

/-- The options of a hook whose transforms are procedures. -/
abbrev Hook := HookOptions Procedure

namespace Procedure

/-- The procedure that returns a value. -/
def pure (value : Value) : Procedure :=
  .finish (.returned value)

end Procedure

/-- The same hook, with a function for its arguments. -/
def HookOptions.withArguments (hook : Hook) (transform : List Value → List Value) : Hook :=
  { hook with transformArguments := some fun arguments => .pure (.list (transform arguments)) }

/-- The same hook, with a function for its result. -/
def HookOptions.withResult (hook : Hook) (transform : Value → Value) : Hook :=
  { hook with transformResult := some fun value => .pure (transform value) }

end Intercept
