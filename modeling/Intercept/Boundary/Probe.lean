/-
This file holds the boundary that native calls cross: a table from addresses to probes,
in which the last probe put at an address counts, and the counter that numbers the calls
to probed addresses. Each call carries a crossing of its own from its entry to its
return, so a return reports what the same call was entered with, whatever other calls
and probes come in between.
-/
import Intercept.Boundary.Argument
import Intercept.Pattern.Compile
import Intercept.Trace.Event
import Intercept.Failure

namespace Intercept.Boundary

/-! ### Crossings -/

/-- What one call remembers between its entry and its return. -/
structure Crossing where
  call : UInt64
  /-- Whether the return is to be reported. -/
  reported : Bool := false
  /-- The argument that the call was entered with. -/
  argument : Option String := none

namespace Crossing

/-- Asks for the return to be reported. -/
def askReport (crossing : Crossing) : Crossing :=
  { crossing with reported := true }

/-- Notes the argument that the call was entered with. -/
def noteArgument (crossing : Crossing) (value : String) : Crossing :=
  { crossing with argument := some value }

/-- The return of a call: its report, if one was asked for. -/
def leave (crossing : Crossing) (result : Int64) : List Event :=
  if crossing.reported then [.callReturned crossing.call result crossing.argument] else []

end Crossing

/-! ### Probes -/

/-- A probe: the index of the argument that it decodes, the pattern that the argument must
match for the return to be reported, whether it takes snapshots, and the emitter that its
events go through. -/
structure Probe where
  argumentIndex : Nat := 0
  condition : Option Pattern := none
  backtrace : Bool := false
  emitter : EmitterId := 0

namespace Probe

/-- The same probe, with a pattern compiled from its text. -/
def withPattern (probe : Probe) (source : String) : Except HookFailure Probe :=
  match Pattern.compile source with
  | .ok pattern => .ok { probe with condition := some pattern }
  | .error reason => .error (.malformedPattern source reason)

/-- The argument of a call as a probe shows it. -/
def decoded (probe : Probe) (arguments : List Argument) : String :=
  (textAt? arguments probe.argumentIndex).getD "<null>"

/-- Whether a probe reports the return of a call entered with an argument. -/
def reports (probe : Probe) (value : String) : Bool :=
  match probe.condition with
  | some pattern => pattern.isMatch value
  | none => true

/-- The entry of a call: the events, and the crossing after it. -/
def enter (probe : Probe) (arguments : List Argument) (crossing : Crossing) :
    List Event × Crossing :=
  let value := probe.decoded arguments
  let snapshot := if probe.backtrace then [.callFrames crossing.call nativeFrames] else []
  let crossing := if probe.reports value then crossing.askReport else crossing
  (.callEntered crossing.call value :: snapshot, crossing.noteArgument value)

end Probe

/-- A probe attached to an exported symbol. -/
structure AttachedProbe where
  modulePath : String
  symbol : String
  address : UInt64
deriving DecidableEq

end Intercept.Boundary

namespace Intercept

/-! ### The table -/

/-- Probes by address, and the number of the next call to a probed address. -/
structure Boundary where
  probes : List (UInt64 × Boundary.Probe) := []
  nextCall : UInt64 := 0

namespace Boundary

/-- The probe in force at an address. -/
def probeAt? (boundary : Boundary) (address : UInt64) : Option Probe :=
  boundary.probes.lookup address

/-- Whether an address has a probe. -/
def isProbed (boundary : Boundary) (address : UInt64) : Bool :=
  (boundary.probeAt? address).isSome

/-- Puts a probe at an address, in the place of the one before. -/
def putProbe (boundary : Boundary) (address : UInt64) (probe : Probe) : Boundary :=
  { boundary with probes := (address, probe) :: boundary.probes }

/-- Begins a crossing under a number of its own. Numbers come around again after all have
been used. -/
def beginCrossing (boundary : Boundary) : Crossing × Boundary :=
  ({ call := boundary.nextCall }, { boundary with nextCall := boundary.nextCall + 1 })

end Boundary

end Intercept
