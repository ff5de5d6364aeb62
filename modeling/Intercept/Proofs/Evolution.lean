/-
This file holds how a process evolves: operation by operation, from a start with empty
runtimes. Operations declare, hook, and call; a call is one that completes. What is installed
from outside is logged in order. An evolution keeps what its operations keep, and it leaves the
stacks of its thread empty.
-/
import Intercept.Proofs.Keeping

namespace Intercept

/-! ### Operations -/

/-- Something that is done to a process from outside. -/
inductive Operation where
  | declareClass (runtime : RuntimeId) (name : String)
  /-- Declares a member that has no body. -/
  | declareMember (runtime : RuntimeId) (container member : String)
  | declareMethod (runtime : RuntimeId) (container member : String) (parameters : List String)
      (body : Body)
  /-- Hooks one overload. -/
  | install (monitor : Monitor) (reference : OverloadRef) (path : String) (hook : Hook)
  /-- Hooks every overload of a target. -/
  | hookTarget (monitor : Monitor) (name : String) (hook : Hook)
  /-- Hooks every overload of a class, for tracing only. -/
  | sweepClass (monitor : Monitor) (name : String) (hook : Hook)
  | call (runtime : RuntimeId) (callee : Callee) (receiver : Value) (arguments : List Value)

/-- An installation that succeeded: the monitor it went through, what was installed, and the
hook. -/
structure Installation where
  monitor : Monitor
  installed : InstalledHook
  hook : Hook

/-- The installations of hooks that were installed together. -/
def installations (monitor : Monitor) (hook : Hook) (installed : List InstalledHook) :
    List Installation :=
  installed.map fun installed => ⟨monitor, installed, hook⟩

/-- That an operation leads from a state to another one, with the installations that it made. -/
inductive Operation.Leads : Operation → State → List Installation → State → Prop where
  | declareClass {runtime : RuntimeId} {name : String} {state : State} :
      Leads (.declareClass runtime name) state []
        { state with
          world := state.world.setRegistry runtime
            ((state.world.registry runtime).declareClass name) }
  | declareMember {runtime : RuntimeId} {container member : String} {state : State} :
      Leads (.declareMember runtime container member) state []
        { state with
          world := state.world.setRegistry runtime
            ((state.world.registry runtime).declareMember container member) }
  | declareMethod {runtime : RuntimeId} {container member : String} {parameters : List String}
      {body : Body} {state : State} :
      Leads (.declareMethod runtime container member parameters body) state []
        { state with
          world := state.world.setRegistry runtime
            ((state.world.registry runtime).declareMethod container member parameters body).2 }
  | install {monitor : Monitor} {reference : OverloadRef} {path : String} {hook : Hook}
      {state : State} :
      Leads (.install monitor reference path hook) state
        (installations monitor hook
          (state.world.installHook monitor reference path hook).1.toOption.toList)
        { state with world := (state.world.installHook monitor reference path hook).2 }
  | hookTarget {monitor : Monitor} {name : String} {hook : Hook} {state : State} :
      Leads (.hookTarget monitor name hook) state
        (installations monitor hook (state.world.hookTarget monitor name hook).1)
        { state with world := (state.world.hookTarget monitor name hook).2 }
  | sweepClass {monitor : Monitor} {name : String} {hook : Hook} {state : State} :
      Leads (.sweepClass monitor name hook) state
        (installations monitor hook.withoutTransforms
          (state.world.sweepClass monitor name hook).1)
        { state with world := (state.world.sweepClass monitor name hook).2 }
  | call {runtime : RuntimeId} {callee : Callee} {receiver : Value} {arguments : List Value}
      {episodes : List Episode} {outcome : Outcome} {state after : State}
      (completes : Completes runtime (.dispatch callee receiver arguments) state episodes outcome
        after) :
      Leads (.call runtime callee receiver arguments) state [] after

/-! ### Evolutions -/

/-- That permitted operations lead from a state to another one, with a log of the installations
that they made. -/
inductive Evolves (permitted : Operation → Prop) (start : State) :
    List Installation → State → Prop where
  | start : Evolves permitted start [] start
  | step {operation : Operation} {log installed : List Installation} {state after : State}
      (evolved : Evolves permitted start log state) (allowed : permitted operation)
      (leads : operation.Leads state installed after) :
      Evolves permitted start (log ++ installed) after

/-- The state of a process that starts: some runtimes with nothing declared in them. -/
def State.initial (host : Host) (runtimes : Nat) : State :=
  { world := { host, registries := List.replicate runtimes {} } }

theorem registry_initial (host : Host) (runtimes : Nat) (runtime : RuntimeId) :
    (State.initial host runtimes).world.registry runtime = {} := by
  simp only [State.initial, World.registry, List.getD_eq_getElem?_getD, List.getElem?_replicate]
  split <;> rfl

/-! ### What evolutions keep -/

/-- An operation keeps whatever installing hooks keeps. -/
theorem Operation.Leads.keeps {property : World → Prop} (kept : Kept True property)
    {operation : Operation} {installed : List Installation} {state after : State}
    (leads : operation.Leads state installed after) (holds : property state.world) :
    property after.world := by
  cases leads with
  | declareClass => exact kept.declared (.classes (Registry.overloads_declareClass _ _)) holds
  | declareMember =>
    exact kept.declared (.classes (Registry.overloads_declareMember _ _ _)) holds
  | declareMethod =>
    exact kept.declared (Registry.declareMethod_declares _ _ _ _ (.inl trivial)) holds
  | install => exact (kept.byHooking trivial _ _).installHook [] _ _ holds
  | hookTarget => exact (kept.byHooking trivial _ _).hookTarget _ [] holds
  | sweepClass => exact World.sweepClass_kept (kept.byHooking trivial _ _) _ [] holds
  | call completes => exact completes.keeps kept (.inl trivial) holds

theorem Evolves.keeps {property : World → Prop} (kept : Kept True property)
    {permitted : Operation → Prop} {start state : State} {log : List Installation}
    (evolves : Evolves permitted start log state) (holds : property start.world) :
    property state.world := by
  induction evolves with
  | start => exact holds
  | step _ _ leads inductionHypothesis => exact leads.keeps kept inductionHypothesis

/-- In whatever way a process evolves, installed bodies are tracers over declared bodies. -/
theorem Evolves.pristine {permitted : Operation → Prop} {host : Host} {runtimes : Nat}
    {log : List Installation} {state : State}
    (evolves : Evolves permitted (State.initial host runtimes) log state) :
    state.world.Pristine :=
  evolves.keeps World.Pristine.kept (World.pristine_initial (registry_initial host runtimes))

/-- An evolution leaves the stacks of its thread as it found them. -/
theorem Evolves.thread {permitted : Operation → Prop} {start state : State}
    {log : List Installation} (evolves : Evolves permitted start log state) :
    state.thread = start.thread := by
  induction evolves with
  | start => rfl
  | step _ _ leads inductionHypothesis =>
    rw [← inductionHypothesis]
    cases leads with
    | call completes => exact completes.thread
    | _ => rfl

end Intercept
