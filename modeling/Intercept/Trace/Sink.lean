/-
This file holds where events go: a sink with two channels, one for the trace and one
for diagnostics, and the format in which trace events become lines. Events are kept as
they are, each with the emitter that it went through, and written out only when the lines
are asked for.
-/
import Intercept.Trace.Json
import Intercept.Failure

namespace Intercept

/-- The format of trace lines. -/
inductive LineFormat where
  | text
  | json
deriving DecidableEq

namespace LineFormat

/-- The name of a format as a variant. -/
def name : LineFormat → String
  | .text => "Text"
  | .json => "Json"

/-- The line of an event in a format. -/
def line : LineFormat → Event → String
  | .text, event => event.text
  | .json, event => Json.line event

/-- The description of an emitter that writes in a format. -/
def describeEmitter (format : LineFormat) : String :=
  "Emitter \x7b format: " ++ format.name ++ ", .. \x7d"

end LineFormat

/-- A trace event and the emitter that it went through. -/
structure Emission where
  emitter : EmitterId
  event : Event
deriving DecidableEq

/-- What has been emitted so far, oldest first. -/
structure Sink where
  emissions : List Emission := []
  diagnostics : List HookFailure := []

namespace Sink

/-- Adds a trace event. -/
def emit (sink : Sink) (emitter : EmitterId) (event : Event) : Sink :=
  { sink with emissions := sink.emissions ++ [⟨emitter, event⟩] }

/-- Adds a diagnostic. -/
def diagnose (sink : Sink) (failure : HookFailure) : Sink :=
  { sink with diagnostics := sink.diagnostics ++ [failure] }

/-- The trace lines in a format. -/
def lines (sink : Sink) (format : LineFormat) : List String :=
  sink.emissions.map fun emission => format.line emission.event

/-- The diagnostic lines. -/
def diagnosticLines (sink : Sink) : List String :=
  sink.diagnostics.map HookFailure.diagnostic

end Sink

end Intercept
