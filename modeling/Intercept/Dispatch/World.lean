/-
This file holds the state that procedures act on: the registries of all runtimes, the
native boundary, the next tracer identity, what has been emitted, and the host, which
says which capabilities there are. A host may report overloads that are not registered
and may refuse to replace some or to attach to some addresses. Each thread has stacks of
its own: the frames of its calls and the tracers that are forwarding.
-/
import Intercept.Dispatch.Registry
import Intercept.Boundary.Probe
import Intercept.Exports.Lookup
import Intercept.Trace.Sink

namespace Intercept

/-- What the surroundings of a session provide and refuse. -/
structure Host where
  /-- Whether hooks get a runtime. -/
  managed : Bool := true
  /-- Where native symbols are looked up; none without native interception. -/
  symbols : Option Exports.SymbolSource := none
  /-- Overloads that reflection reports although they are not registered. -/
  ghosts : List OverloadRef := []
  /-- Keys of overloads that cannot be replaced. -/
  sealedKeys : List String := []
  /-- Addresses that cannot be attached to. -/
  sealedAddresses : List UInt64 := []

/-- The state of a process. -/
structure World where
  host : Host := {}
  registries : List Registry := [{}]
  boundary : Boundary := {}
  /-- The identity of the next tracer. The counter has 64 bits and would start again behind them:
  what is said here is about processes that install fewer than `2 ^ 64` hooks. -/
  nextTracer : Nat := 1
  sink : Sink := {}

namespace World

/-- The registry of a runtime. -/
def registry (world : World) (runtime : RuntimeId) : Registry :=
  world.registries.getD runtime {}

/-- Puts a registry in the place of a runtime's. -/
def setRegistry (world : World) (runtime : RuntimeId) (registry : Registry) : World :=
  { world with registries := world.registries.set runtime registry }

/-- Emits a trace event. -/
def emit (world : World) (emitter : EmitterId) (event : Event) : World :=
  { world with sink := world.sink.emit emitter event }

/-- Emits trace events in order. -/
def emitAll (world : World) (emitter : EmitterId) (events : List Event) : World :=
  events.foldl (fun world event => world.emit emitter event) world

@[simp]
theorem emissions_emit (world : World) (emitter : EmitterId) (event : Event) :
    (world.emit emitter event).sink.emissions = world.sink.emissions ++ [⟨emitter, event⟩] :=
  rfl

theorem emissions_emitAll (world : World) (emitter : EmitterId) (events : List Event) :
    (world.emitAll emitter events).sink.emissions =
      world.sink.emissions ++ events.map (Emission.mk emitter) := by
  unfold emitAll
  induction events generalizing world with
  | nil => rw [List.foldl_nil, List.map_nil, List.append_nil]
  | cons event rest inductionHypothesis =>
    rw [List.foldl_cons, inductionHypothesis, emissions_emit, List.append_assoc, List.map_cons,
      List.singleton_append]

/-- Emitting touches nothing but the sink. -/
theorem emitAll_eq (world : World) (emitter : EmitterId) (events : List Event) :
    world.emitAll emitter events =
      { world with sink := (world.emitAll emitter events).sink } := by
  unfold emitAll
  induction events generalizing world with
  | nil => rfl
  | cons event rest inductionHypothesis =>
    rw [List.foldl_cons, inductionHypothesis]
    rfl

/-- Reports a failure that stops nothing else. -/
def diagnose (world : World) (failure : HookFailure) : World :=
  { world with sink := world.sink.diagnose failure }

/-! ### What the host reports -/

/-- The overloads of a member as the host reports them, ghosts at the end. -/
def reportedOverloads (world : World) (runtime : RuntimeId) (container : ClassRef)
    (member : String) : List OverloadRef :=
  (world.registry runtime).overloadRefs container member ++
    world.host.ghosts.filter fun ghost =>
      ghost.container = container.name ∧ ghost.member = member

/-- The member names of a class as the host reports them, those of ghosts at the end. -/
def reportedMembers (world : World) (runtime : RuntimeId) (container : ClassRef) :
    List String :=
  (world.registry runtime).memberNames container ++
    (world.host.ghosts.filter fun ghost => ghost.container = container.name).map
      OverloadRef.member

/-! ### Single installations -/

/-- Installs a body through the host, which refuses to replace sealed overloads. -/
def replace (world : World) (runtime : RuntimeId) (reference : OverloadRef)
    (body : BodyInForce) : Except HookFailure World :=
  if world.host.sealedKeys.contains reference.key then
    .error (.undeclaredOverload reference.key)
  else
    match (world.registry runtime).replace reference body with
    | .ok registry => .ok (world.setRegistry runtime registry)
    | .error failure => .error failure

/-- Installs a hook on one overload. The tracer gets a fresh identity and forwards to the
declared body, never to a tracer installed before. -/
def installHook (world : World) (monitor : Monitor) (reference : OverloadRef)
    (path : String) (hook : Hook) : Except HookFailure InstalledHook × World :=
  match (world.registry monitor.runtime).declaredBody reference with
  | .error failure => (.error failure, world)
  | .ok body =>
    let tracer : Tracer := ⟨world.nextTracer, monitor.emitter, path, hook, body⟩
    let world := { world with nextTracer := world.nextTracer + 1 }
    match world.replace monitor.runtime reference (.traced tracer) with
    | .error failure => (.error failure, world)
    | .ok world => (.ok ⟨reference, path⟩, world)

end World

/-- The stacks of a thread. -/
structure Thread where
  /-- The keys of the running calls, innermost first. -/
  frames : List String := []
  /-- The identities of the tracers that are forwarding, innermost first. -/
  forwarding : List Nat := []
deriving DecidableEq

end Intercept
