/-
This file gives procedures their meaning. A run takes fuel and either ends with an
outcome and a new state or runs out of fuel, which is kept apart from every outcome. A
call pushes a frame, runs the body in force and pops the frame again, whatever the
outcome. A tracer that is already forwarding on the thread runs the declared body on the
caller's arguments and leaves no trace. Any other tracer traces the entry, forwards the
arguments, transformed or not, and traces the return or the fault.
-/
import Intercept.Dispatch.Hooking

namespace Intercept

/-- The state that a thread sees: its own stacks and the world. -/
structure State where
  world : World
  thread : Thread := {}

namespace State

/-- Emits a trace event. -/
def emit (state : State) (emitter : EmitterId) (event : Event) : State :=
  { state with world := state.world.emit emitter event }

/-- Emits trace events in order. -/
def emitAll (state : State) (emitter : EmitterId) (events : List Event) : State :=
  { state with world := state.world.emitAll emitter events }

/-- Enters a call. -/
def pushFrame (state : State) (key : String) : State :=
  { state with thread := { state.thread with frames := key :: state.thread.frames } }

/-- Leaves the innermost call. -/
def popFrame (state : State) : State :=
  { state with thread := { state.thread with frames := state.thread.frames.tail } }

/-- Notes that a tracer forwards. -/
def beginForward (state : State) (identity : Nat) : State :=
  { state with thread := { state.thread with forwarding := identity :: state.thread.forwarding } }

/-- Notes that the innermost forwarding has ended. -/
def endForward (state : State) : State :=
  { state with thread := { state.thread with forwarding := state.thread.forwarding.tail } }

end State

/-- What a run gives: nothing when fuel runs out, else an outcome and the state after it. -/
abbrev RunResult := Option (Outcome × State)

/-- A way to run procedures of a runtime. -/
abbrev Runner := RuntimeId → Procedure → State → RunResult

namespace Tracer

/-- The arguments that a tracer forwards, and whether it transforms them. -/
def forwardedArguments (tracer : Tracer) (run : Runner) (runtime : RuntimeId)
    (arguments : List Value) (state : State) : Option ((List Value × Bool) × State) :=
  match tracer.hook.transformArguments with
  | none => some ((arguments, false), state)
  | some transform => do
    let (outcome, state) ← run runtime (transform arguments) state
    return ((outcome.asArguments, true), state)

/-- The events at the entry of a tracer. -/
def entryEvents (tracer : Tracer) (arguments forwarded : List Value) (transformed : Bool)
    (frames : List String) : List Event :=
  .entered tracer.path (arguments.map Value.render)
      (if transformed then some (forwarded.map Value.render) else none) ::
    if tracer.hook.backtrace then [.frames tracer.path (renderFrames frames)] else []

/-- The end of a tracer's call: a fault is traced and raised again, a value is transformed if
the hook asks for it and traced. -/
def close (tracer : Tracer) (run : Runner) (runtime : RuntimeId) (outcome : Outcome)
    (state : State) : RunResult :=
  match outcome with
  | .raised fault =>
    some (.raised fault, state.emit tracer.emitter (.faulted tracer.path fault.render))
  | .returned value =>
    match tracer.hook.transformResult with
    | none =>
      some (.returned value, state.emit tracer.emitter (.left tracer.path value.render none))
    | some transform => do
      let (outcome, state) ← run runtime (transform value) state
      let result := outcome.asResult
      return (.returned result,
        state.emit tracer.emitter (.left tracer.path value.render (some result.render)))

/-- Runs a tracer. -/
def run (tracer : Tracer) (runner : Runner) (runtime : RuntimeId) (receiver : Value)
    (arguments : List Value) (state : State) : RunResult :=
  if state.thread.forwarding.contains tracer.identity then
    runner runtime (tracer.declaredBody receiver arguments) state
  else do
    let ((forwarded, transformed), state) ←
      tracer.forwardedArguments runner runtime arguments state
    let events := tracer.entryEvents arguments forwarded transformed state.thread.frames
    let (outcome, state) ← runner runtime (tracer.declaredBody receiver forwarded)
      ((state.emitAll tracer.emitter events).beginForward tracer.identity)
    tracer.close runner runtime outcome state.endForward

end Tracer

/-- Runs the body in force. -/
def BodyInForce.run (body : BodyInForce) (runner : Runner) (runtime : RuntimeId)
    (receiver : Value) (arguments : List Value) (state : State) : RunResult :=
  match body with
  | .plain body => runner runtime (body receiver arguments) state
  | .traced tracer => tracer.run runner runtime receiver arguments state

/-- Calls an overload: runs the body in force under a frame of its own. -/
def Overload.call (overload : Overload) (runner : Runner) (runtime : RuntimeId)
    (receiver : Value) (arguments : List Value) (state : State) : RunResult := do
  let (outcome, state) ← overload.bodyInForce.run runner runtime receiver arguments
    (state.pushFrame overload.reference.key)
  return (outcome, state.popFrame)

/-- Calls a method by its name: the first overload that accepts the arguments. -/
def dispatch (runner : Runner) (runtime : RuntimeId) (container member : String)
    (receiver : Value) (arguments : List Value) (state : State) : RunResult :=
  match (state.world.registry runtime).select? container member arguments with
  | some overload => overload.call runner runtime receiver arguments state
  | none =>
    some (.raised (.noneAccepts (container ++ "." ++ member) arguments.length), state)

/-- Calls the overload that a reference denotes. -/
def dispatchOverload (runner : Runner) (runtime : RuntimeId) (reference : OverloadRef)
    (receiver : Value) (arguments : List Value) (state : State) : RunResult :=
  match (state.world.registry runtime).overload? reference with
  | some overload => overload.call runner runtime receiver arguments state
  | none => some (.raised (.noneAccepts reference.key arguments.length), state)

/-- Calls a native address. The probe and the number of the call are settled at the entry;
the return is reported by what the entry noted. -/
def callNative (runner : Runner) (runtime : RuntimeId) (address : UInt64)
    (arguments : List Boundary.Argument) (callee : Procedure) (state : State) :
    Option (Int64 × State) :=
  match state.world.boundary.probeAt? address with
  | none => do
    let (outcome, state) ← runner runtime callee state
    return (outcome.asWord, state)
  | some probe => do
    let (crossing, boundary) := state.world.boundary.beginCrossing
    let (events, crossing) := probe.enter arguments crossing
    let world := { state.world with boundary }.emitAll probe.emitter events
    let (outcome, state) ← runner runtime callee { state with world }
    let result := outcome.asWord
    return (result, state.emitAll probe.emitter (crossing.leave result))

/-- Runs a procedure of a runtime. -/
def run : Nat → Runner
  | 0, _, _, _ => none
  | fuel + 1, runtime, procedure, state =>
    match procedure with
    | .finish outcome => some (outcome, state)
    | .call elsewhere container member receiver arguments next => do
      let (outcome, state) ← dispatch (run fuel) (elsewhere.getD runtime) container member
        receiver arguments state
      run fuel runtime (next outcome) state
    | .frames next => run fuel runtime (next state.thread.frames) state
    | .spawn work next => do
      let (outcome, finished) ← run fuel runtime work { state with thread := {} }
      run fuel runtime (next outcome) { finished with thread := state.thread }
    | .hook elsewhere emitter target hook next =>
      let (installed, world) :=
        state.world.hookTarget ⟨elsewhere.getD runtime, emitter⟩ target hook
      run fuel runtime (next installed) { state with world }
    | .install elsewhere emitter overload path hook next =>
      let (installed, world) :=
        state.world.installHook ⟨elsewhere.getD runtime, emitter⟩ overload path hook
      run fuel runtime (next installed) { state with world }
    | .define container member parameters body next =>
      let (answer, registry) :=
        (state.world.registry runtime).declareMethod container member parameters body
      run fuel runtime (next answer)
        { state with world := state.world.setRegistry runtime registry }
    | .native address arguments callee next => do
      let (result, state) ← callNative (run fuel) runtime address arguments callee state
      run fuel runtime (next result) state

end Intercept
