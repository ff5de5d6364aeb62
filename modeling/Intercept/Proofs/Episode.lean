/-
This file holds what happens in the course of a run, as a tree. A call that reaches a body
is an episode, and what the body does is told inside it: the frames that it reads, the calls
that it makes, the work that it spawns. A traced call also tells what the transforms of its
hook did, what was forwarded, and how the declared body ended. Two things are read off such a
tree in the order in which they happen: what bodies observe, and what is emitted and by
whom.
-/
import Intercept.Dispatch.Execution

namespace Intercept

/-! ### Calls -/

/-- How a call names what it calls: a method by its name, or one overload. -/
inductive Callee where
  | method (container member : String)
  | exactly (reference : OverloadRef)

namespace Callee

/-- The overload that a call reaches. -/
def find? (callee : Callee) (registry : Registry) (arguments : List Value) : Option Overload :=
  match callee with
  | .method container member => registry.select? container member arguments
  | .exactly reference => registry.overload? reference

/-- What a refused call is reported under. -/
def name : Callee → String
  | .method container member => container ++ "." ++ member
  | .exactly reference => reference.key

/-- Calls by a name or by an overload. -/
def call (callee : Callee) (runner : Runner) (runtime : RuntimeId) (receiver : Value)
    (arguments : List Value) (state : State) : RunResult :=
  match callee with
  | .method container member => dispatch runner runtime container member receiver arguments state
  | .exactly reference => dispatchOverload runner runtime reference receiver arguments state

/-- Both ways of calling look an overload up and call it, or raise a fault. -/
theorem call_eq (callee : Callee) (runner : Runner) (runtime : RuntimeId) (receiver : Value)
    (arguments : List Value) (state : State) :
    callee.call runner runtime receiver arguments state =
      match callee.find? (state.world.registry runtime) arguments with
      | some overload => overload.call runner runtime receiver arguments state
      | none => some (.raised (.noneAccepts callee.name arguments.length), state) := by
  cases callee <;> rfl

end Callee

/-- Where a call arrived: the runtime, the overload, and what the caller passed. -/
structure Site where
  runtime : RuntimeId
  reference : OverloadRef
  receiver : Value
  arguments : List Value

/-! ### Passages through a tracer -/

namespace Tracer

/-- The procedure that gives the arguments to forward. -/
def rewriting (tracer : Tracer) (arguments : List Value) : Procedure :=
  match tracer.hook.transformArguments with
  | none => .pure (.list arguments)
  | some transform => transform arguments

/-- The procedure that follows the end of the declared body: the transform of a value, nothing
after a fault. -/
def settling (tracer : Tracer) : Outcome → Procedure
  | .raised fault => .finish (.raised fault)
  | .returned value =>
    match tracer.hook.transformResult with
    | none => .pure value
    | some transform => transform value

end Tracer

/-- What a traced call was: its tracer, what was forwarded, the frames at the entry, how the
declared body ended, and how the transform of the result ended after that. -/
structure Passage where
  tracer : Tracer
  forwarded : List Value
  frames : List String
  outcome : Outcome
  delivery : Outcome

namespace Passage

/-- The events at the entry. -/
def entry (passage : Passage) (arguments : List Value) : List Event :=
  passage.tracer.entryEvents arguments passage.forwarded
    passage.tracer.hook.transformArguments.isSome passage.frames

/-- The event at the end. -/
def closing (passage : Passage) : Event :=
  match passage.outcome with
  | .returned value =>
    .left passage.tracer.path value.render
      (if passage.tracer.hook.transformResult.isSome then some passage.delivery.asResult.render
        else none)
  | .raised fault => .faulted passage.tracer.path fault.render

/-- What the caller gets: a fault unchanged, or the value that the transform delivers. -/
def result (passage : Passage) : Outcome :=
  match passage.outcome with
  | .returned _ => .returned passage.delivery.asResult
  | .raised fault => .raised fault

end Passage

/-! ### Episodes -/

/-- Something that happened in a run, with everything that happened in the course of it. -/
inductive Episode where
  /-- The frames were read. -/
  | framesRead (keys : List String)
  /-- A call reached a plain body. -/
  | plain (site : Site) (within : List Episode) (outcome : Outcome)
  /-- A call reached a tracer that was forwarding already. -/
  | straight (site : Site) (tracer : Tracer) (within : List Episode) (outcome : Outcome)
  /-- A call reached a tracer that traced it. -/
  | traced (site : Site) (passage : Passage) (rewriting within delivering : List Episode)
  /-- Work was done on a thread of its own. -/
  | spawned (work : List Episode)
  /-- A probed native address was called. -/
  | crossed (emitter : EmitterId) (entry : List Event) (within : List Episode)
      (leave : List Event)

/-! ### What bodies observe -/

/-- What a declared body can tell about a run. -/
inductive Observation where
  /-- A body was started, with a receiver and arguments. -/
  | activated (site : Site)
  /-- A body read the frames. -/
  | framesRead (keys : List String)

mutual

/-- What bodies observe in an episode. -/
def Episode.observations : Episode → List Observation
  | .framesRead keys => [.framesRead keys]
  | .plain site within _ => .activated site :: observationsOf within
  | .straight site _ within _ => .activated site :: observationsOf within
  | .traced site passage rewriting within delivering =>
    observationsOf rewriting ++
      .activated { site with arguments := passage.forwarded } :: observationsOf within ++
      observationsOf delivering
  | .spawned work => observationsOf work
  | .crossed _ _ within _ => observationsOf within

/-- What bodies observe in episodes, in order. -/
def observationsOf : List Episode → List Observation
  | [] => []
  | episode :: rest => episode.observations ++ observationsOf rest

end

@[simp]
theorem observationsOf_append (first second : List Episode) :
    observationsOf (first ++ second) = observationsOf first ++ observationsOf second := by
  induction first with
  | nil => rfl
  | cons episode rest inductionHypothesis =>
    rw [List.cons_append, observationsOf, observationsOf, inductionHypothesis, List.append_assoc]

/-! ### What is emitted, and by whom -/

/-- Where an emission comes from, seen from a thread. -/
inductive Source where
  /-- A tracer whose call runs on the thread. -/
  | tracer (tracer : Tracer)
  /-- A probe whose call runs on the thread. -/
  | boundary
  /-- Another thread. -/
  | elsewhere

/-- An emission and where it comes from. -/
structure Mark where
  source : Source
  emission : Emission

namespace Mark

/-- The same emission, seen from another thread. -/
def removed (mark : Mark) : Mark :=
  { mark with source := .elsewhere }

/-- Whether a tracer on the thread is the source. -/
def isTraced (mark : Mark) : Bool :=
  match mark.source with
  | .tracer _ => true
  | _ => false

end Mark

/-- The mark of an event that a tracer emits. -/
def Tracer.mark (tracer : Tracer) (event : Event) : Mark :=
  ⟨.tracer tracer, ⟨tracer.emitter, event⟩⟩

/-- The mark of an event that a probe emits. -/
def boundaryMark (emitter : EmitterId) (event : Event) : Mark :=
  ⟨.boundary, ⟨emitter, event⟩⟩

mutual

/-- What is emitted in an episode. -/
def Episode.marks : Episode → List Mark
  | .framesRead _ => []
  | .plain _ within _ => marksOf within
  | .straight _ _ within _ => marksOf within
  | .traced site passage rewriting within delivering =>
    marksOf rewriting ++ (passage.entry site.arguments).map passage.tracer.mark ++
      marksOf within ++ marksOf delivering ++ [passage.tracer.mark passage.closing]
  | .spawned work => (marksOf work).map Mark.removed
  | .crossed emitter entry within leave =>
    entry.map (boundaryMark emitter) ++ marksOf within ++ leave.map (boundaryMark emitter)

/-- What is emitted in episodes, in order. -/
def marksOf : List Episode → List Mark
  | [] => []
  | episode :: rest => episode.marks ++ marksOf rest

end

@[simp]
theorem marksOf_append (first second : List Episode) :
    marksOf (first ++ second) = marksOf first ++ marksOf second := by
  induction first with
  | nil => rfl
  | cons episode rest inductionHypothesis =>
    rw [List.cons_append, marksOf, marksOf, inductionHypothesis, List.append_assoc]

/-- What is emitted in episodes, whatever it comes from. -/
def emissionsOf (episodes : List Episode) : List Emission :=
  (marksOf episodes).map Mark.emission

/-- What tracers emit in episodes on the thread itself. -/
def traceOf (episodes : List Episode) : List Mark :=
  (marksOf episodes).filter Mark.isTraced

end Intercept
