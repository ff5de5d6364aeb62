/-
This file says what it is to install nothing: for a procedure, whatever answers it gets, for
the bodies and hooks that are made of such procedures, and for a world where nothing that can
be called installs a hook.
-/
import Intercept.Proofs.Completion

namespace Intercept

/-! ### Procedures that install nothing -/

/-- That a procedure installs no hooks, whatever answers it gets, and declares only methods
that install none. -/
inductive Procedure.Quiet : Procedure → Prop where
  | finish {outcome : Outcome} : Quiet (.finish outcome)
  | call {runtime : Option RuntimeId} {container member : String} {receiver : Value}
      {arguments : List Value} {next : Outcome → Procedure} (rest : ∀ answer, Quiet (next answer)) :
      Quiet (.call runtime container member receiver arguments next)
  | frames {next : List String → Procedure} (rest : ∀ keys, Quiet (next keys)) :
      Quiet (.frames next)
  | spawn {work : Procedure} {next : Outcome → Procedure} (works : Quiet work)
      (rest : ∀ answer, Quiet (next answer)) : Quiet (.spawn work next)
  | define {container member : String} {parameters : List String} {body : Body}
      {next : Except HookFailure OverloadRef → Procedure}
      (defines : ∀ receiver arguments, Quiet (body receiver arguments))
      (rest : ∀ answer, Quiet (next answer)) :
      Quiet (.define container member parameters body next)
  | native {address : UInt64} {arguments : List Boundary.Argument} {callee : Procedure}
      {next : Int64 → Procedure} (calls : Quiet callee) (rest : ∀ word, Quiet (next word)) :
      Quiet (.native address arguments callee next)

/-- That a body installs no hooks. -/
def Body.Quiet (body : Body) : Prop :=
  ∀ receiver arguments, (body receiver arguments).Quiet

/-- That the transforms of a hook install no hooks. -/
structure HookOptions.Quiet (hook : Hook) : Prop where
  transformArguments : ∀ transform ∈ hook.transformArguments, ∀ arguments,
    (transform arguments).Quiet
  transformResult : ∀ transform ∈ hook.transformResult, ∀ value, (transform value).Quiet

/-- That a hook transforms nothing. -/
structure HookOptions.OnlyTraces (hook : Hook) : Prop where
  arguments : hook.transformArguments = none
  result : hook.transformResult = none

theorem HookOptions.withoutTransforms_onlyTraces (hook : Hook) :
    hook.withoutTransforms.OnlyTraces :=
  ⟨rfl, rfl⟩

theorem HookOptions.OnlyTraces.quiet {hook : Hook} (only : hook.OnlyTraces) : hook.Quiet := by
  constructor
  · intro transform given
    rw [only.arguments] at given
    cases given
  · intro transform given
    rw [only.result] at given
    cases given

/-- That neither the declared body of a tracer nor its transforms install hooks. -/
structure Tracer.Quiet (tracer : Tracer) : Prop where
  hook : tracer.hook.Quiet
  declaredBody : Body.Quiet tracer.declaredBody

/-- That what a call runs installs no hooks. -/
def BodyInForce.Quiet : BodyInForce → Prop
  | .plain body => Body.Quiet body
  | .traced tracer => tracer.Quiet

namespace Tracer

theorem Quiet.rewriting {tracer : Tracer} (quiet : tracer.Quiet) (arguments : List Value) :
    (tracer.rewriting arguments).Quiet := by
  unfold Tracer.rewriting
  split
  · exact .finish
  · next transform given => exact quiet.hook.transformArguments transform given arguments

theorem Quiet.settling {tracer : Tracer} (quiet : tracer.Quiet) (outcome : Outcome) :
    (tracer.settling outcome).Quiet := by
  unfold Tracer.settling
  split
  · exact .finish
  · split
    · exact .finish
    · next transform given => exact quiet.hook.transformResult transform given _

end Tracer

/-! ### Worlds where calls install nothing -/

/-- That neither the declared body of an overload nor the body in force installs hooks. -/
structure Overload.Quiet (overload : Overload) : Prop where
  declaredBody : Body.Quiet overload.declaredBody
  bodyInForce : overload.bodyInForce.Quiet

/-- That no overload installs hooks when it is called. -/
def World.Quiet (world : World) : Prop :=
  ∀ runtime, ∀ overload ∈ (world.registry runtime).overloads, overload.Quiet

/-- That a task itself installs no hooks. -/
def Task.Quiet : Task → Prop
  | .procedure work => work.Quiet
  | .dispatch _ _ _ => True
  | .call overload _ _ => overload.bodyInForce.Quiet

end Intercept
