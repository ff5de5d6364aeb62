/-
This file holds the events of a trace and the line of text that each one is written as.
A changed argument list or result follows the one it replaces after a mark. Some events
carry more than their text shows: a stack snapshot does not name its call, and a return
from a native call does not name what the call was entered with.
-/
import Intercept.Signature

namespace Intercept

/-- An emitter, by its number among those of the process. -/
abbrev EmitterId := Nat

/-- An event of a trace. -/
inductive Event where
  /-- A hooked call begins, with the caller's arguments and, if the hook changes them, the
  forwarded ones. -/
  | entered (path : String) (arguments : List String) (forwarded : Option (List String))
  /-- The declared body returned, with its result and, if the hook changes it, the caller's. -/
  | left (path result : String) (delivered : Option String)
  /-- The declared body raised a fault, which the caller gets unchanged. -/
  | faulted (path raised : String)
  /-- The frames of the thread at the beginning of a hooked call. -/
  | frames (path stack : String)
  /-- A probe was attached to an exported symbol. -/
  | probeAttached (module symbol : String) (address : UInt64)
  /-- A probed call begins, with the argument that the probe decodes. -/
  | callEntered (call : UInt64) (value : String)
  /-- A probed call returned, with the argument that the same call was entered with. -/
  | callReturned (call : UInt64) (value : Int64) (argument : Option String)
  /-- The native frames at the beginning of a probed call. -/
  | callFrames (call : UInt64) (stack : String)
deriving DecidableEq

namespace Event

/-- What stands between a value and its changed form. -/
def changeMark : String := " #=># "

/-- The text of an optional changed form. -/
def changedText : Option String → String
  | none => ""
  | some text => changeMark ++ text

/-- The line of text for an event. -/
def text : Event → String
  | .entered path arguments forwarded =>
    "enter [" ++ path ++ "]: " ++ String.intercalate ", " arguments ++
      changedText (forwarded.map (String.intercalate ","))
  | .left path result delivered =>
    "exit [" ++ path ++ "]: " ++ result ++ changedText delivered
  | .faulted path raised => "fault [" ++ path ++ "]: " ++ raised
  | .frames _ stack => stack
  | .probeAttached module symbol address =>
    module ++ "::" ++ symbol ++ " @ 0x" ++ Text.hex address.toNat
  | .callEntered _ value => value
  | .callReturned _ value _ => "retval: " ++ Text.signedDecimal value.toInt
  | .callFrames _ stack => stack

end Event

/-! ### Stack snapshots -/

/-- The lines of a stack snapshot, innermost frame first. -/
def renderFrames (frames : List String) : String :=
  "Backtrace:" ++
    if frames.isEmpty then "\n\t<no frames>"
    else String.join (frames.map fun frame => "\n\tat " ++ frame)

/-- The snapshot of a native stack. Frames of the machine are no part of the model, so one
frame stands for all of them. -/
def nativeFrames : String :=
  "Backtrace:\n\t<native>"

end Intercept
