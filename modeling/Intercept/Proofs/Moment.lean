/-
This file looks at runs while they are under way, whether they ever end or not. A moment is a
task about to be done in a state, with the calls that are open on its thread and what bodies
have observed so far. One moment leads to another by entering a part of its task, or by going
on after a part that has completed. At every moment of a run, the frames of the thread are the
keys of the open calls, and the forwarding stack holds the tracers that forward open calls. A
task completes exactly if no run from its moment goes on forever.
-/
import Intercept.Proofs.Keeping
import Mathlib.Logic.Relation

namespace Intercept

/-! ### Moments -/

/-- A call that is under way: where it arrived, and the tracer that is forwarding it, if one
is. -/
structure OpenCall where
  runtime : RuntimeId
  reference : OverloadRef
  forwarding : Option Tracer := none

/-- A moment of a run: a task about to be done in a state, the open calls of its thread,
innermost first, and what bodies have observed since the beginning. -/
structure Moment where
  runtime : RuntimeId
  task : Task
  state : State
  calls : List OpenCall := []
  observed : List Observation := []

/-- That a run goes from one moment to another. There are rules for entering every part of a
task, and for going on after a part that has completed. -/
inductive Moment.Leads : Moment → Moment → Prop where
  | call {runtime : RuntimeId} {elsewhere : Option RuntimeId} {container member : String}
      {receiver : Value} {arguments : List Value} {next : Outcome → Procedure} {state : State}
      {calls : List OpenCall} {observed : List Observation} :
      Leads
        ⟨runtime, .procedure (.call elsewhere container member receiver arguments next), state,
          calls, observed⟩
        ⟨elsewhere.getD runtime, .dispatch (.method container member) receiver arguments, state,
          calls, observed⟩
  | called {runtime : RuntimeId} {elsewhere : Option RuntimeId} {container member : String}
      {receiver : Value} {arguments : List Value} {next : Outcome → Procedure} {answer : Outcome}
      {episodes : List Episode} {state middle : State} {calls : List OpenCall}
      {observed : List Observation}
      (called : Completes (elsewhere.getD runtime)
        (.dispatch (.method container member) receiver arguments) state episodes answer middle) :
      Leads
        ⟨runtime, .procedure (.call elsewhere container member receiver arguments next), state,
          calls, observed⟩
        ⟨runtime, .procedure (next answer), middle, calls, observed ++ observationsOf episodes⟩
  | frames {runtime : RuntimeId} {next : List String → Procedure} {state : State}
      {calls : List OpenCall} {observed : List Observation} :
      Leads ⟨runtime, .procedure (.frames next), state, calls, observed⟩
        ⟨runtime, .procedure (next state.thread.frames), state, calls,
          observed ++ [.framesRead state.thread.frames]⟩
  | spawn {runtime : RuntimeId} {work : Procedure} {next : Outcome → Procedure} {state : State}
      {calls : List OpenCall} {observed : List Observation} :
      Leads ⟨runtime, .procedure (.spawn work next), state, calls, observed⟩
        ⟨runtime, .procedure work, { state with thread := {} }, [], observed⟩
  | spawned {runtime : RuntimeId} {work : Procedure} {next : Outcome → Procedure}
      {answer : Outcome} {episodes : List Episode} {state finished : State}
      {calls : List OpenCall} {observed : List Observation}
      (worked : Completes runtime (.procedure work) { state with thread := {} } episodes answer
        finished) :
      Leads ⟨runtime, .procedure (.spawn work next), state, calls, observed⟩
        ⟨runtime, .procedure (next answer), { finished with thread := state.thread }, calls,
          observed ++ observationsOf episodes⟩
  | hook {runtime : RuntimeId} {elsewhere : Option RuntimeId} {emitter : EmitterId}
      {target : String} {hook : Hook} {next : List InstalledHook → Procedure} {state : State}
      {calls : List OpenCall} {observed : List Observation} :
      Leads ⟨runtime, .procedure (.hook elsewhere emitter target hook next), state, calls, observed⟩
        ⟨runtime,
          .procedure
            (next (state.world.hookTarget ⟨elsewhere.getD runtime, emitter⟩ target hook).1),
          { state with
            world := (state.world.hookTarget ⟨elsewhere.getD runtime, emitter⟩ target hook).2 },
          calls, observed⟩
  | install {runtime : RuntimeId} {elsewhere : Option RuntimeId} {emitter : EmitterId}
      {overload : OverloadRef} {path : String} {hook : Hook}
      {next : Except HookFailure InstalledHook → Procedure} {state : State}
      {calls : List OpenCall} {observed : List Observation} :
      Leads
        ⟨runtime, .procedure (.install elsewhere emitter overload path hook next), state, calls,
          observed⟩
        ⟨runtime,
          .procedure (next
            (state.world.installHook ⟨elsewhere.getD runtime, emitter⟩ overload path hook).1),
          { state with
            world :=
              (state.world.installHook ⟨elsewhere.getD runtime, emitter⟩ overload path hook).2 },
          calls, observed⟩
  | define {runtime : RuntimeId} {container member : String} {parameters : List String}
      {body : Body} {next : Except HookFailure OverloadRef → Procedure} {state : State}
      {calls : List OpenCall} {observed : List Observation} :
      Leads
        ⟨runtime, .procedure (.define container member parameters body next), state, calls,
          observed⟩
        ⟨runtime,
          .procedure (next
            ((state.world.registry runtime).declareMethod container member parameters body).1),
          { state with
            world := state.world.setRegistry runtime
              ((state.world.registry runtime).declareMethod container member parameters body).2 },
          calls, observed⟩
  | unprobed {runtime : RuntimeId} {address : UInt64} {arguments : List Boundary.Argument}
      {callee : Procedure} {next : Int64 → Procedure} {state : State} {calls : List OpenCall}
      {observed : List Observation}
      (unprobed : state.world.boundary.probeAt? address = none) :
      Leads ⟨runtime, .procedure (.native address arguments callee next), state, calls, observed⟩
        ⟨runtime, .procedure callee, state, calls, observed⟩
  | unprobedCalled {runtime : RuntimeId} {address : UInt64} {arguments : List Boundary.Argument}
      {callee : Procedure} {next : Int64 → Procedure} {answer : Outcome}
      {episodes : List Episode} {state middle : State} {calls : List OpenCall}
      {observed : List Observation}
      (unprobed : state.world.boundary.probeAt? address = none)
      (called : Completes runtime (.procedure callee) state episodes answer middle) :
      Leads ⟨runtime, .procedure (.native address arguments callee next), state, calls, observed⟩
        ⟨runtime, .procedure (next answer.asWord), middle, calls,
          observed ++ observationsOf episodes⟩
  | probed {runtime : RuntimeId} {address : UInt64} {arguments : List Boundary.Argument}
      {callee : Procedure} {next : Int64 → Procedure} {state : State} {probe : Boundary.Probe}
      {crossing noted : Boundary.Crossing} {boundary : Boundary} {events : List Event}
      {calls : List OpenCall} {observed : List Observation}
      (probed : state.world.boundary.probeAt? address = some probe)
      (begun : state.world.boundary.beginCrossing = (crossing, boundary))
      (entered : probe.enter arguments crossing = (events, noted)) :
      Leads ⟨runtime, .procedure (.native address arguments callee next), state, calls, observed⟩
        ⟨runtime, .procedure callee,
          ({ state with world := { state.world with boundary } } : State).emitAll probe.emitter
            events,
          calls, observed⟩
  | probedCalled {runtime : RuntimeId} {address : UInt64} {arguments : List Boundary.Argument}
      {callee : Procedure} {next : Int64 → Procedure} {answer : Outcome}
      {episodes : List Episode} {state middle : State} {probe : Boundary.Probe}
      {crossing noted : Boundary.Crossing} {boundary : Boundary} {events : List Event}
      {calls : List OpenCall} {observed : List Observation}
      (probed : state.world.boundary.probeAt? address = some probe)
      (begun : state.world.boundary.beginCrossing = (crossing, boundary))
      (entered : probe.enter arguments crossing = (events, noted))
      (called : Completes runtime (.procedure callee)
        (({ state with world := { state.world with boundary } } : State).emitAll probe.emitter
          events) episodes answer middle) :
      Leads ⟨runtime, .procedure (.native address arguments callee next), state, calls, observed⟩
        ⟨runtime, .procedure (next answer.asWord),
          middle.emitAll probe.emitter (noted.leave answer.asWord), calls,
          observed ++ observationsOf episodes⟩
  | dispatched {runtime : RuntimeId} {callee : Callee} {receiver : Value}
      {arguments : List Value} {overload : Overload} {state : State} {calls : List OpenCall}
      {observed : List Observation}
      (found : callee.find? (state.world.registry runtime) arguments = some overload) :
      Leads ⟨runtime, .dispatch callee receiver arguments, state, calls, observed⟩
        ⟨runtime, .call overload receiver arguments, state, calls, observed⟩
  | plain {runtime : RuntimeId} {overload : Overload} {body : Body} {receiver : Value}
      {arguments : List Value} {state : State} {calls : List OpenCall}
      {observed : List Observation}
      (force : overload.bodyInForce = .plain body) :
      Leads ⟨runtime, .call overload receiver arguments, state, calls, observed⟩
        ⟨runtime, .procedure (body receiver arguments), state.pushFrame overload.reference.key,
          ⟨runtime, overload.reference, none⟩ :: calls,
          observed ++ [.activated ⟨runtime, overload.reference, receiver, arguments⟩]⟩
  | straight {runtime : RuntimeId} {overload : Overload} {tracer : Tracer} {receiver : Value}
      {arguments : List Value} {state : State} {calls : List OpenCall}
      {observed : List Observation}
      (force : overload.bodyInForce = .traced tracer)
      (busy : tracer.identity ∈ state.thread.forwarding) :
      Leads ⟨runtime, .call overload receiver arguments, state, calls, observed⟩
        ⟨runtime, .procedure (tracer.declaredBody receiver arguments),
          state.pushFrame overload.reference.key, ⟨runtime, overload.reference, none⟩ :: calls,
          observed ++ [.activated ⟨runtime, overload.reference, receiver, arguments⟩]⟩
  | rewriting {runtime : RuntimeId} {overload : Overload} {tracer : Tracer} {receiver : Value}
      {arguments : List Value} {state : State} {calls : List OpenCall}
      {observed : List Observation}
      (force : overload.bodyInForce = .traced tracer)
      (idle : tracer.identity ∉ state.thread.forwarding) :
      Leads ⟨runtime, .call overload receiver arguments, state, calls, observed⟩
        ⟨runtime, .procedure (tracer.rewriting arguments),
          state.pushFrame overload.reference.key, ⟨runtime, overload.reference, none⟩ :: calls,
          observed⟩
  | forwarding {runtime : RuntimeId} {overload : Overload} {tracer : Tracer} {receiver : Value}
      {arguments : List Value} {rewritten : Outcome} {rewriting : List Episode}
      {state entered : State} {calls : List OpenCall} {observed : List Observation}
      (force : overload.bodyInForce = .traced tracer)
      (idle : tracer.identity ∉ state.thread.forwarding)
      (rewrote : Completes runtime (.procedure (tracer.rewriting arguments))
        (state.pushFrame overload.reference.key) rewriting rewritten entered) :
      Leads ⟨runtime, .call overload receiver arguments, state, calls, observed⟩
        ⟨runtime, .procedure (tracer.declaredBody receiver rewritten.asArguments),
          (entered.emitAll tracer.emitter
            (tracer.entryEvents arguments rewritten.asArguments
              tracer.hook.transformArguments.isSome entered.thread.frames)).beginForward
            tracer.identity,
          ⟨runtime, overload.reference, some tracer⟩ :: calls,
          observed ++ observationsOf rewriting ++
            [.activated ⟨runtime, overload.reference, receiver, rewritten.asArguments⟩]⟩
  | settling {runtime : RuntimeId} {overload : Overload} {tracer : Tracer} {receiver : Value}
      {arguments : List Value} {rewritten outcome : Outcome} {rewriting within : List Episode}
      {state entered left : State} {calls : List OpenCall} {observed : List Observation}
      (force : overload.bodyInForce = .traced tracer)
      (idle : tracer.identity ∉ state.thread.forwarding)
      (rewrote : Completes runtime (.procedure (tracer.rewriting arguments))
        (state.pushFrame overload.reference.key) rewriting rewritten entered)
      (forwarded : Completes runtime
        (.procedure (tracer.declaredBody receiver rewritten.asArguments))
        ((entered.emitAll tracer.emitter
          (tracer.entryEvents arguments rewritten.asArguments
            tracer.hook.transformArguments.isSome entered.thread.frames)).beginForward
          tracer.identity) within outcome left) :
      Leads ⟨runtime, .call overload receiver arguments, state, calls, observed⟩
        ⟨runtime, .procedure (tracer.settling outcome), left.endForward,
          ⟨runtime, overload.reference, none⟩ :: calls,
          observed ++ observationsOf rewriting ++
            .activated ⟨runtime, overload.reference, receiver, rewritten.asArguments⟩ ::
              observationsOf within⟩

/-- That a run which begins at one moment comes to another. -/
def Moment.Arrives (start moment : Moment) : Prop :=
  Relation.ReflTransGen Moment.Leads start moment

/-- What single steps of a run keep holds at every moment that it comes to. -/
theorem Moment.Arrives.keeps {property : Moment → Prop}
    (kept : ∀ {moment next : Moment}, moment.Leads next → property moment → property next)
    {start moment : Moment} (arrives : start.Arrives moment) (holds : property start) :
    property moment := by
  induction arrives with
  | refl => exact holds
  | tail _ leads inductionHypothesis => exact kept leads inductionHypothesis

/-! ### The stacks of a thread, at every moment -/

/-- That the stacks of a moment's thread are those of its open calls: a frame for every call,
and an identity for every call that is being forwarded. -/
structure Moment.Stacked (moment : Moment) : Prop where
  frames : moment.state.thread.frames = moment.calls.map fun call => call.reference.key
  forwarding : moment.state.thread.forwarding =
    (moment.calls.filterMap OpenCall.forwarding).map Tracer.identity

theorem Moment.Stacked.of_leads {moment next : Moment} (leads : moment.Leads next)
    (stacked : moment.Stacked) : next.Stacked := by
  obtain ⟨frames, forwarding⟩ := stacked
  cases leads with
  | call | frames | spawned | hook | install | define | unprobed | probed | dispatched =>
    exact ⟨frames, forwarding⟩
  | called completes | unprobedCalled _ completes | probedCalled _ _ _ completes =>
    have restored := completes.thread
    exact ⟨(congrArg Thread.frames restored).trans frames,
      (congrArg Thread.forwarding restored).trans forwarding⟩
  | spawn => exact ⟨rfl, rfl⟩
  | plain | straight | rewriting => exact ⟨congrArg _ frames, forwarding⟩
  | forwarding _ _ rewrote =>
    constructor
    · rw [State.beginForward, State.emitAll, rewrote.thread, State.pushFrame, frames]
      rfl
    · rw [State.beginForward, State.emitAll, rewrote.thread, State.pushFrame, forwarding]
      rfl
  | settling _ _ rewrote forwarded =>
    constructor
    · rw [State.endForward, forwarded.thread, State.beginForward, State.emitAll, rewrote.thread,
        State.pushFrame, frames]
      rfl
    · rw [State.endForward, forwarded.thread, State.beginForward, State.emitAll, rewrote.thread,
        State.pushFrame, forwarding]
      rfl

/-! ### Moments that end -/

/-- That the task of a moment completes. -/
def Moment.Ends (moment : Moment) : Prop :=
  ∃ episodes outcome after,
    Completes moment.runtime moment.task moment.state episodes outcome after

/-- A run from the moment of a task that completes does not go on forever. -/
theorem Completes.acc {runtime : RuntimeId} {task : Task} {state after : State}
    {episodes : List Episode} {outcome : Outcome}
    (completes : Completes runtime task state episodes outcome after) (calls : List OpenCall)
    (observed : List Observation) :
    Acc (fun next moment => Moment.Leads moment next) ⟨runtime, task, state, calls, observed⟩ := by
  -- A completed part is completed in one way, so what follows it is what has been followed.
  induction completes generalizing calls observed with
  | finish => exact ⟨_, fun _ leads => by cases leads⟩
  | refused missing =>
    refine ⟨_, fun _ leads => ?_⟩
    cases leads with
    | dispatched found => cases missing.symm.trans found
  | call called _ callEnds restEnds =>
    refine ⟨_, fun _ leads => ?_⟩
    cases leads with
    | call => exact callEnds _ _
    | called other =>
      obtain ⟨rfl, rfl, rfl⟩ := called.unique other
      exact restEnds _ _
  | frames _ restEnds =>
    refine ⟨_, fun _ leads => ?_⟩
    cases leads
    exact restEnds _ _
  | spawn worked _ workEnds restEnds =>
    refine ⟨_, fun _ leads => ?_⟩
    cases leads with
    | spawn => exact workEnds _ _
    | spawned other =>
      obtain ⟨rfl, rfl, rfl⟩ := worked.unique other
      exact restEnds _ _
  | hook _ restEnds =>
    refine ⟨_, fun _ leads => ?_⟩
    cases leads
    exact restEnds _ _
  | install _ restEnds =>
    refine ⟨_, fun _ leads => ?_⟩
    cases leads
    exact restEnds _ _
  | define _ restEnds =>
    refine ⟨_, fun _ leads => ?_⟩
    cases leads
    exact restEnds _ _
  | nativeUnprobed unprobed called _ callEnds restEnds =>
    refine ⟨_, fun _ leads => ?_⟩
    cases leads with
    | unprobed => exact callEnds _ _
    | unprobedCalled _ other =>
      obtain ⟨rfl, rfl, rfl⟩ := called.unique other
      exact restEnds _ _
    | probed probed | probedCalled probed => cases unprobed.symm.trans probed
  | nativeProbed probed begun entered called _ callEnds restEnds =>
    refine ⟨_, fun _ leads => ?_⟩
    cases leads with
    | unprobed unprobed | unprobedCalled unprobed => cases unprobed.symm.trans probed
    | probed otherProbed otherBegun otherEntered =>
      cases probed.symm.trans otherProbed
      cases begun.symm.trans otherBegun
      cases entered.symm.trans otherEntered
      exact callEnds _ _
    | probedCalled otherProbed otherBegun otherEntered other =>
      cases probed.symm.trans otherProbed
      cases begun.symm.trans otherBegun
      cases entered.symm.trans otherEntered
      obtain ⟨rfl, rfl, rfl⟩ := called.unique other
      exact restEnds _ _
  | dispatched found _ callEnds =>
    refine ⟨_, fun _ leads => ?_⟩
    cases leads with
    | dispatched otherFound =>
      cases found.symm.trans otherFound
      exact callEnds _ _
  | plain force _ bodyEnds =>
    refine ⟨_, fun _ leads => ?_⟩
    cases leads with
    | plain otherForce =>
      cases force.symm.trans otherForce
      exact bodyEnds _ _
    | straight isTraced | rewriting isTraced | forwarding isTraced | settling isTraced =>
      cases force.symm.trans isTraced
  | straight force busy _ bodyEnds =>
    refine ⟨_, fun _ leads => ?_⟩
    cases leads with
    | plain isPlain => cases force.symm.trans isPlain
    | straight otherForce =>
      cases force.symm.trans otherForce
      exact bodyEnds _ _
    | rewriting otherForce idle | forwarding otherForce idle | settling otherForce idle =>
      cases force.symm.trans otherForce
      exact absurd busy idle
  | traced force idle isPassage rewrote forwarded _ rewriteEnds forwardEnds deliverEnds =>
    subst isPassage
    refine ⟨_, fun _ leads => ?_⟩
    cases leads with
    | plain isPlain => cases force.symm.trans isPlain
    | straight otherForce busy =>
      cases force.symm.trans otherForce
      exact absurd busy idle
    | rewriting otherForce =>
      cases force.symm.trans otherForce
      exact rewriteEnds _ _
    | forwarding otherForce _ otherRewrote =>
      cases force.symm.trans otherForce
      obtain ⟨rfl, rfl, rfl⟩ := rewrote.unique otherRewrote
      exact forwardEnds _ _
    | settling otherForce _ otherRewrote otherForwarded =>
      cases force.symm.trans otherForce
      obtain ⟨rfl, rfl, rfl⟩ := rewrote.unique otherRewrote
      obtain ⟨rfl, rfl, rfl⟩ := forwarded.unique otherForwarded
      exact deliverEnds _ _

/-- A task completes if every moment that it leads to ends. -/
theorem Moment.ends_of_leads {moment : Moment}
    (ends : ∀ next, moment.Leads next → next.Ends) : moment.Ends := by
  obtain ⟨runtime, task, state, calls, observed⟩ := moment
  cases task with
  | procedure procedure =>
    cases procedure with
    | finish outcome => exact ⟨_, _, _, .finish⟩
    | call elsewhere container member receiver arguments next =>
      obtain ⟨_, _, _, called⟩ := ends _ .call
      obtain ⟨_, _, _, rest⟩ := ends _ (.called called)
      exact ⟨_, _, _, .call called rest⟩
    | frames next =>
      obtain ⟨_, _, _, rest⟩ := ends _ .frames
      exact ⟨_, _, _, .frames rest⟩
    | spawn work next =>
      obtain ⟨_, _, _, worked⟩ := ends _ .spawn
      obtain ⟨_, _, _, rest⟩ := ends _ (.spawned worked)
      exact ⟨_, _, _, .spawn worked rest⟩
    | hook elsewhere emitter target hook next =>
      obtain ⟨_, _, _, rest⟩ := ends _ .hook
      exact ⟨_, _, _, .hook rest⟩
    | install elsewhere emitter overload path hook next =>
      obtain ⟨_, _, _, rest⟩ := ends _ .install
      exact ⟨_, _, _, .install rest⟩
    | define container member parameters body next =>
      obtain ⟨_, _, _, rest⟩ := ends _ .define
      exact ⟨_, _, _, .define rest⟩
    | native address arguments callee next =>
      cases probed : state.world.boundary.probeAt? address with
      | none =>
        obtain ⟨_, _, _, called⟩ := ends _ (.unprobed probed)
        obtain ⟨_, _, _, rest⟩ := ends _ (.unprobedCalled probed called)
        exact ⟨_, _, _, .nativeUnprobed probed called rest⟩
      | some probe =>
        obtain ⟨_, _, _, called⟩ := ends _ (.probed probed rfl rfl)
        obtain ⟨_, _, _, rest⟩ := ends _ (.probedCalled probed rfl rfl called)
        exact ⟨_, _, _, .nativeProbed probed rfl rfl called rest⟩
  | dispatch callee receiver arguments =>
    cases found : callee.find? (state.world.registry runtime) arguments with
    | none => exact ⟨_, _, _, .refused found⟩
    | some overload =>
      obtain ⟨_, _, _, called⟩ := ends _ (.dispatched found)
      exact ⟨_, _, _, .dispatched found called⟩
  | call overload receiver arguments =>
    cases force : overload.bodyInForce with
    | plain body =>
      obtain ⟨_, _, _, ran⟩ := ends _ (.plain force)
      exact ⟨_, _, _, .plain force ran⟩
    | traced tracer =>
      by_cases busy : tracer.identity ∈ state.thread.forwarding
      · obtain ⟨_, _, _, ran⟩ := ends _ (.straight force busy)
        exact ⟨_, _, _, .straight force busy ran⟩
      · obtain ⟨_, _, _, rewrote⟩ := ends _ (.rewriting force busy)
        obtain ⟨_, _, _, forwarded⟩ := ends _ (.forwarding force busy rewrote)
        obtain ⟨_, _, _, delivered⟩ := ends _ (.settling force busy rewrote forwarded)
        exact ⟨_, _, _, .traced force busy rfl rewrote forwarded delivered⟩

/-- A task completes exactly if no run from its moment goes on forever. -/
theorem Moment.ends_iff_acc {moment : Moment} :
    moment.Ends ↔ Acc (fun next moment => Moment.Leads moment next) moment := by
  constructor
  · rintro ⟨_, _, _, completes⟩
    exact completes.acc moment.calls moment.observed
  · intro acc
    induction acc with
    | intro _ _ inductionHypothesis => exact Moment.ends_of_leads inductionHypothesis

end Intercept
