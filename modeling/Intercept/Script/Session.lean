/-
This file runs sessions. A session is a list of steps on a process: declarations, calls,
hooks, probes and questions. Each step has a reply, and what it traces and reports is
kept step by step. Every call from a session starts on a thread without frames.
-/
import Intercept.Plan.Application
import Intercept.Plan.Reading
import Intercept.Dispatch.Execution
import Intercept.Script.Expression

namespace Intercept.Script

/-! ### Steps -/

/-- One step of a session; most act on one of the runtimes. -/
inductive Step where
  | declareClass (name : String)
  | declareMember (container member : String)
  | declareMethod (container member : String) (parameters : List String) (body : Expression)
  | call (container member : String) (receiver : Value) (arguments : List Value)
  | callOverload (overload : OverloadRef) (receiver : Value) (arguments : List Value)
  /-- Runs the declared body of an overload, without a frame. -/
  | callDeclared (overload : OverloadRef) (receiver : Value) (arguments : List Value)
  /-- Puts a plain body over an overload, past the host. -/
  | replace (overload : OverloadRef) (body : Expression)
  | install (overload : OverloadRef) (path : String) (options : HookExpressions)
  | hookTarget (target : String) (options : HookExpressions)
  | sweepClass (name : String) (options : HookExpressions)
  | resolve (name : String)
  | overloads (container : ClassRef) (member : String)
  | members (container : ClassRef)
  | isHooked (overload : OverloadRef)
  | instrument (text : String)
  | probe (modulePath symbol : String) (probe : Boundary.Probe) (condition : Option String)
  | callNative (address : UInt64) (arguments : List Boundary.Argument) (callee : Expression)
  | isProbed (address : UInt64)
  | evaluate (expression : Expression)
  /-- Describes the emitter. -/
  | describe
  /-- Forgets what has been traced and reported. -/
  | clear

/-- The reply to a step. -/
inductive Reply where
  | done
  | failed (failure : HookFailure)
  | planFailed (error : Plan.LoadError)
  | declared (overload : OverloadRef)
  | outcome (outcome : Outcome)
  | hooks (installed : List InstalledHook)
  | container (found : Option ClassRef)
  | overloads (overloads : List OverloadRef)
  | members (declared unique : List String)
  | flag (value : Bool)
  | plan (report : World.Instrumentation)
  | probe (attached : Option Boundary.AttachedProbe)
  | word (value : Int64)
  | text (value : String)
  /-- The numbers of trace events and diagnostics that are kept. -/
  | kept (events diagnostics : Nat)
  /-- The call did not end within the fuel of the session. -/
  | unfinished

/-! ### Performing steps -/

/-- The reply to a run, and the world after it. -/
def settleRun (world : World) : RunResult → Reply × World
  | some (outcome, state) => (.outcome outcome, state.world)
  | none => (.unfinished, world)

/-- The reply that lists hooks, and the world after it. -/
def hooksReply (installed : List InstalledHook × World) : Reply × World :=
  (.hooks installed.1, installed.2)

/-- Attaches a probe once its pattern has been read. -/
def performProbe (world : World) (modulePath symbol : String) (probe : Boundary.Probe) :
    Option String → Reply × World
  | none =>
    let (attached, world) := world.probeSymbol 0 modulePath symbol probe
    (.probe attached, world)
  | some pattern =>
    match probe.withPattern pattern with
    | .error failure => (.failed failure, world)
    | .ok probe =>
      let (attached, world) := world.probeSymbol 0 modulePath symbol probe
      (.probe attached, world)

/-- Performs a step on a runtime. -/
def perform (fuel : Nat) (format : LineFormat) (world : World) (runtime : RuntimeId) :
    Step → Reply × World
  | .declareClass name =>
    (.done, world.setRegistry runtime ((world.registry runtime).declareClass name))
  | .declareMember container member =>
    (.done, world.setRegistry runtime ((world.registry runtime).declareMember container member))
  | .declareMethod container member parameters body =>
    match (world.registry runtime).declareMethod container member parameters body.body with
    | (.ok overload, registry) => (.declared overload, world.setRegistry runtime registry)
    | (.error failure, registry) => (.failed failure, world.setRegistry runtime registry)
  | .call container member receiver arguments =>
    settleRun world (dispatch (run fuel) runtime container member receiver arguments { world })
  | .callOverload overload receiver arguments =>
    settleRun world (dispatchOverload (run fuel) runtime overload receiver arguments { world })
  | .callDeclared overload receiver arguments =>
    match (world.registry runtime).declaredBody overload with
    | .error failure => (.failed failure, world)
    | .ok body => settleRun world (run fuel runtime (body receiver arguments) { world })
  | .replace overload body =>
    match (world.registry runtime).replace overload (.plain body.body) with
    | .error failure => (.failed failure, world)
    | .ok registry => (.done, world.setRegistry runtime registry)
  | .install overload path options =>
    match world.installHook { runtime } overload path options.hook with
    | (.ok installed, world) => (.hooks [installed], world)
    | (.error failure, world) => (.failed failure, world)
  | .hookTarget target options => hooksReply (world.hookTarget { runtime } target options.hook)
  | .sweepClass name options => hooksReply (world.sweepClass { runtime } name options.hook)
  | .resolve name =>
    let (container, world) := world.resolve runtime name
    (.container container, world)
  | .overloads container member =>
    (.overloads (world.visibleOverloads runtime container member), world)
  | .members container =>
    (.members ((world.registry runtime).memberNames container)
      (world.visibleMembers runtime container), world)
  | .isHooked overload => (.flag ((world.registry runtime).isHooked overload), world)
  | .instrument text =>
    match Plan.parse text with
    | .error error => (.planFailed error, world)
    | .ok plan =>
      let (report, world) := world.instrument { runtime } plan
      (.plan report, world)
  | .probe modulePath symbol probe condition =>
    performProbe world modulePath symbol probe condition
  | .callNative address arguments callee =>
    match callNative (run fuel) runtime address arguments
        (callee.procedure .null (arguments.map nativeValue)) { world } with
    | some (result, state) => (.word result, state.world)
    | none => (.unfinished, world)
  | .isProbed address => (.flag (world.boundary.isProbed address), world)
  | .evaluate expression =>
    settleRun world (run fuel runtime (expression.procedure .null []) { world })
  | .describe => (.text format.describeEmitter, world)
  | .clear => (.kept 0 0, { world with sink := {} })

/-! ### Sessions -/

/-- A step with its reply and with what was emitted during the step. -/
structure Record where
  reply : Reply
  lines : List String
  diagnostics : List String

/-- Performs steps in order. -/
def performAll (fuel : Nat) (format : LineFormat) :
    World → List (RuntimeId × Step) → List Record
  | _, [] => []
  | world, (runtime, step) :: rest =>
    let (reply, after) := perform fuel format { world with sink := {} } runtime step
    let record : Record := ⟨reply, after.sink.lines format, after.sink.diagnosticLines⟩
    record :: performAll fuel format after rest

/-- A process at the start of a session. -/
def freshWorld (host : Host) (runtimes : Nat) : World :=
  { host, registries := List.replicate runtimes {} }

end Intercept.Script
