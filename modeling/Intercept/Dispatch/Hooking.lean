/-
This file installs hooks and probes by name. Every failure becomes a diagnostic and an
empty result, so that one bad name never stops another. A class is swept member by
member, each member once, and a sweep only traces: one transform cannot fit every
signature.
-/
import Intercept.Dispatch.World
import Intercept.Target

namespace Intercept.World

/-! ### Managed hooks -/

/-- Finds a class; without a runtime, or for an unknown name, the answer is none and a
diagnostic says why. -/
def resolve (world : World) (runtime : RuntimeId) (name : String) :
    Option ClassRef × World :=
  if ¬ world.host.managed then
    (none, world.diagnose (.missingCapability "managed runtime"))
  else
    match (world.registry runtime).resolve? name with
    | some container => (some container, world)
    | none => (none, world.diagnose (.unknownClass name))

/-- The overloads of a member that can be seen; none without a runtime. -/
def visibleOverloads (world : World) (runtime : RuntimeId) (container : ClassRef)
    (member : String) : List OverloadRef :=
  if world.host.managed then world.reportedOverloads runtime container member else []

/-- Names without repetitions, in the order of their first occurrence. -/
def firstOccurrences (seen : List String) : List String → List String
  | [] => []
  | name :: rest =>
    if seen.contains name then firstOccurrences seen rest
    else name :: firstOccurrences (name :: seen) rest

/-- The member names of a class that can be seen, each once; none without a runtime. -/
def visibleMembers (world : World) (runtime : RuntimeId) (container : ClassRef) :
    List String :=
  if world.host.managed then firstOccurrences [] (world.reportedMembers runtime container) else []

/-- Hooks overloads one by one; a failure is reported and the next one is tried. -/
def hookEach (world : World) (monitor : Monitor) (path : String) (hook : Hook) :
    List OverloadRef → List InstalledHook × World
  | [] => ([], world)
  | reference :: rest =>
    match world.installHook monitor reference path hook with
    | (.ok installed, world) =>
      let (others, world) := hookEach world monitor path hook rest
      (installed :: others, world)
    | (.error failure, world) => hookEach (world.diagnose failure) monitor path hook rest

/-- Hooks every overload of a member. -/
def hookOverloads (world : World) (monitor : Monitor) (container : ClassRef)
    (member path : String) (hook : Hook) : List InstalledHook × World :=
  world.hookEach monitor path hook (world.reportedOverloads monitor.runtime container member)

/-- Hooks every overload of a target. A declared member may have no overloads; a member that
is not declared is reported. -/
def hookTarget (world : World) (monitor : Monitor) (name : String) (hook : Hook) :
    List InstalledHook × World :=
  match Target.parse name with
  | .error failure => ([], world.diagnose failure)
  | .ok target =>
    match world.resolve monitor.runtime target.container with
    | (none, world) => ([], world)
    | (some container, world) =>
      let (installed, world) := world.hookOverloads monitor container target.member name hook
      if installed.isEmpty ∧
          ¬ (world.visibleMembers monitor.runtime container).contains target.member then
        (installed, world.diagnose (.unknownMember container.name target.member))
      else (installed, world)

/-- Hooks members one by one, each under its own path. -/
def sweep (world : World) (monitor : Monitor) (container : ClassRef) (hook : Hook) :
    List String → List InstalledHook × World
  | [] => ([], world)
  | member :: rest =>
    let (installed, world) :=
      world.hookOverloads monitor container member (container.name ++ "." ++ member) hook
    let (others, world) := sweep world monitor container hook rest
    (installed ++ others, world)

/-- Hooks every overload of every declared member of a class, for tracing only. -/
def sweepClass (world : World) (monitor : Monitor) (name : String) (hook : Hook) :
    List InstalledHook × World :=
  match world.resolve monitor.runtime name with
  | (none, world) => ([], world)
  | (some container, world) =>
    world.sweep monitor container hook.withoutTransforms
      (world.visibleMembers monitor.runtime container)

/-! ### Native probes -/

/-- Puts a probe at an address through the host, which refuses sealed addresses. -/
def attachAt (world : World) (address : UInt64) (probe : Boundary.Probe) :
    Except HookFailure World :=
  if world.host.sealedAddresses.contains address then .error (.missingCapability "boundary")
  else .ok { world with boundary := world.boundary.putProbe address probe }

/-- Attaches a probe to an exported symbol that a source knows. What the probe reports goes
through an emitter. -/
def attachSymbol (world : World) (symbols : Exports.SymbolSource) (emitter : EmitterId)
    (modulePath symbol : String) (probe : Boundary.Probe) :
    Option Boundary.AttachedProbe × World :=
  match symbols.find modulePath symbol with
  | .error failure => (none, world.diagnose failure)
  | .ok address =>
    match world.attachAt address { probe with emitter } with
    | .error failure => (none, world.diagnose failure)
    | .ok world =>
      (some ⟨modulePath, symbol, address⟩,
        world.emit emitter (.probeAttached (Exports.labelText modulePath) symbol address))

/-- Attaches a probe to an exported symbol, if there is native interception. -/
def probeSymbol (world : World) (emitter : EmitterId) (modulePath symbol : String)
    (probe : Boundary.Probe) : Option Boundary.AttachedProbe × World :=
  match world.host.symbols with
  | none => (none, world.diagnose (.missingCapability "native interception"))
  | some symbols => world.attachSymbol symbols emitter modulePath symbol probe

end Intercept.World
