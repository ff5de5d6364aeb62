/-
This file says where emissions come from. Whatever a run emits is emitted at one of its moments:
either a call is about to be made of an overload whose tracer is not forwarding on the thread, and
the tracer tells of this call, with its path and with the frames that the call begins with; or a
probed native address is about to be called, and its probe tells of it, under no path at all. This
holds of a run that has ended, and of a run that is still under way.
-/
import Intercept.Proofs.Bracketing
import Intercept.Proofs.Moment

namespace Intercept

/-! ### What is told of a call -/

/-- The path that an event carries. What probes tell carries none. -/
def Event.path? : Event → Option String
  | .entered path _ _ => some path
  | .left path _ _ => some path
  | .faulted path _ => some path
  | .frames path _ => some path
  | _ => none

/-- The events that a tracer may tell of a call with some arguments: those of the entry, with the
frames that the call begins with, and those of the end. -/
inductive Tracer.Tells (tracer : Tracer) (frames : List String) (arguments : List Value) :
    Event → Prop where
  | entry {forwarded : List Value} {event : Event}
      (isEntry : event ∈ tracer.entryEvents arguments forwarded
        tracer.hook.transformArguments.isSome frames) : Tells tracer frames arguments event
  | closing {outcome : Outcome} {event : Event} (closes : tracer.Closes outcome event) :
      Tells tracer frames arguments event

namespace Tracer

variable {tracer : Tracer} {frames : List String} {arguments forwarded : List Value}
  {transformed : Bool} {event : Event}

theorem mem_entryEvents
    (isEntry : event ∈ tracer.entryEvents arguments forwarded transformed frames) :
    (∃ texts changed, event = .entered tracer.path texts changed) ∨
      event = .frames tracer.path (renderFrames frames) := by
  rcases List.mem_cons.mp isEntry with rfl | isSnapshot
  · exact .inl ⟨_, _, rfl⟩
  · split at isSnapshot
    · exact .inr (List.mem_singleton.mp isSnapshot)
    · cases isSnapshot

/-- Whatever a tracer tells carries its path. -/
theorem Tells.path? (tells : tracer.Tells frames arguments event) :
    event.path? = some tracer.path := by
  cases tells with
  | entry isEntry =>
    rcases mem_entryEvents isEntry with ⟨_, _, rfl⟩ | rfl <;> rfl
  | closing closes => cases closes <;> rfl

/-- The snapshots that a tracer takes of a call show the frames that the call begins with. -/
theorem Tells.stack {path stack : String}
    (tells : tracer.Tells frames arguments (.frames path stack)) :
    path = tracer.path ∧ stack = renderFrames frames := by
  cases tells with
  | entry isEntry =>
    rcases mem_entryEvents isEntry with ⟨_, _, isEntered⟩ | isFrames
    · cases isEntered
    · cases isFrames
      exact ⟨rfl, rfl⟩
  | closing closes => cases closes

end Tracer

namespace Boundary

/-- The entry of a probed call carries no path. -/
theorem Probe.path?_enter {probe : Probe} {arguments : List Argument} {crossing noted : Crossing}
    {events : List Event} (entered : probe.enter arguments crossing = (events, noted)) :
    ∀ event ∈ events, event.path? = none := by
  obtain ⟨rfl, -⟩ := Prod.mk.inj entered
  intro event isEvent
  rcases List.mem_cons.mp isEvent with rfl | isSnapshot
  · rfl
  · split at isSnapshot
    · rw [List.mem_singleton.mp isSnapshot]
      rfl
    · cases isSnapshot

theorem Crossing.path?_leave {crossing : Crossing} {result : Int64} :
    ∀ event ∈ crossing.leave result, event.path? = none := by
  intro event isEvent
  unfold leave at isEvent
  split at isEvent
  · rw [List.mem_singleton.mp isEvent]
    rfl
  · cases isEvent

end Boundary

/-! ### What is emitted at a moment -/

/-- That an emission is one of a moment itself: the tracer in force tells of the call that is about
to be made, or the probe at an address tells of the native call that is about to be made. -/
inductive Moment.Emits (moment : Moment) : Emission → Prop where
  | traced {overload : Overload} {receiver : Value} {arguments : List Value} {tracer : Tracer}
      {event : Event} (calls : moment.task = .call overload receiver arguments)
      (force : overload.bodyInForce = .traced tracer)
      (idle : tracer.identity ∉ moment.state.thread.forwarding)
      (tells : tracer.Tells (overload.reference.key :: moment.state.thread.frames) arguments
        event) : Emits moment ⟨tracer.emitter, event⟩
  | crossed {address : UInt64} {arguments : List Boundary.Argument} {callee : Procedure}
      {next : Int64 → Procedure} {probe : Boundary.Probe} {event : Event}
      (calls : moment.task = .procedure (.native address arguments callee next))
      (probed : moment.state.world.boundary.probeAt? address = some probe)
      (pathless : event.path? = none) : Emits moment ⟨probe.emitter, event⟩

/-- That an emission is one of a moment that a run comes to. -/
def Moment.Originates (start : Moment) (emission : Emission) : Prop :=
  ∃ origin, start.Arrives origin ∧ origin.Emits emission

theorem Moment.Emits.originates {moment : Moment} {emission : Emission}
    (emits : moment.Emits emission) : moment.Originates emission :=
  ⟨moment, .refl, emits⟩

/-- What a run emits after some steps, it emits. -/
theorem Moment.Originates.of_arrives {start moment : Moment} {emission : Emission}
    (originates : moment.Originates emission) (arrives : start.Arrives moment) :
    start.Originates emission := by
  obtain ⟨origin, comes, emits⟩ := originates
  exact ⟨origin, arrives.trans comes, emits⟩

/-- The probe at an address is the origin of events without a path. -/
theorem Moment.Originates.pathless {runtime : RuntimeId} {address : UInt64}
    {arguments : List Boundary.Argument} {callee : Procedure} {next : Int64 → Procedure}
    {state : State} {probe : Boundary.Probe} {calls : List OpenCall} {observed : List Observation}
    {events : List Event} (probed : state.world.boundary.probeAt? address = some probe)
    (pathless : ∀ event ∈ events, event.path? = none) :
    ∀ event ∈ events, Moment.Originates
      ⟨runtime, .procedure (.native address arguments callee next), state, calls, observed⟩
      ⟨probe.emitter, event⟩ :=
  fun event isEvent => Moment.Emits.originates (.crossed rfl probed (pathless event isEvent))

/-- The tracer of a traced call is the origin of what is emitted at the entry. -/
theorem Moment.Originates.entry {runtime : RuntimeId} {overload : Overload} {tracer : Tracer}
    {receiver : Value} {arguments : List Value} {rewritten : Outcome} {rewriting : List Episode}
    {state entered : State} {calls : List OpenCall} {observed : List Observation}
    (force : overload.bodyInForce = .traced tracer)
    (idle : tracer.identity ∉ state.thread.forwarding)
    (rewrote : Completes runtime (.procedure (tracer.rewriting arguments))
      (state.pushFrame overload.reference.key) rewriting rewritten entered) :
    ∀ event ∈ tracer.entryEvents arguments rewritten.asArguments
      tracer.hook.transformArguments.isSome entered.thread.frames,
      Moment.Originates ⟨runtime, .call overload receiver arguments, state, calls, observed⟩
        ⟨tracer.emitter, event⟩ := by
  intro event isEntry
  rw [rewrote.thread] at isEntry
  exact Moment.Emits.originates (.traced rfl force idle (.entry isEntry))

/-! ### The origins of what is emitted -/

namespace World

variable (world : World) (monitor : Monitor) (hook : Hook)

theorem emissions_hookTarget (name : String) :
    (world.hookTarget monitor name hook).2.sink.emissions = world.sink.emissions :=
  (KeptByHooking.emissions monitor hook world.sink.emissions).hookTarget name [] rfl

theorem emissions_installHook (reference : OverloadRef) (path : String) :
    (world.installHook monitor reference path hook).2.sink.emissions = world.sink.emissions :=
  (KeptByHooking.emissions monitor hook world.sink.emissions).installHook [] reference path rfl

end World

/-- That what has been emitted grows from a list to another one, and a run from a moment emits all
that comes to it. -/
def Moment.Explains (start : Moment) (before after : List Emission) : Prop :=
  ∃ emitted, after = before ++ emitted ∧ ∀ emission ∈ emitted, start.Originates emission

namespace Moment.Explains

variable {start moment : Moment} {before middle after : List Emission}

theorem of_eq (same : after = before) : start.Explains before after :=
  ⟨[], same.trans (List.append_nil before).symm, fun _ emitted => nomatch emitted⟩

theorem trans (first : start.Explains before middle) (second : start.Explains middle after) :
    start.Explains before after := by
  obtain ⟨emitted, rfl, originates⟩ := first
  obtain ⟨more, rfl, originatesMore⟩ := second
  refine ⟨emitted ++ more, List.append_assoc _ _ _, fun emission isEmitted => ?_⟩
  exact (List.mem_append.mp isEmitted).elim (originates emission) (originatesMore emission)

theorem of_arrives (explains : moment.Explains before after) (arrives : start.Arrives moment) :
    start.Explains before after := by
  obtain ⟨emitted, adds, originates⟩ := explains
  exact ⟨emitted, adds, fun emission isEmitted =>
    (originates emission isEmitted).of_arrives arrives⟩

theorem of_leads (explains : moment.Explains before after) (leads : start.Leads moment) :
    start.Explains before after :=
  explains.of_arrives (.single leads)

theorem emitAll {world : World} (same : world.sink.emissions = before) {emitter : EmitterId}
    {events : List Event}
    (originates : ∀ event ∈ events, start.Originates ⟨emitter, event⟩) :
    start.Explains before (world.emitAll emitter events).sink.emissions := by
  subst same
  refine ⟨_, world.emissions_emitAll emitter events, fun emission isEmitted => ?_⟩
  obtain ⟨event, isEvent, rfl⟩ := List.mem_map.mp isEmitted
  exact originates event isEvent

theorem emit {world : World} (same : world.sink.emissions = before) {emitter : EmitterId}
    {event : Event} (originates : start.Originates ⟨emitter, event⟩) :
    start.Explains before (world.emit emitter event).sink.emissions := by
  have explains : start.Explains before (world.emitAll emitter [event]).sink.emissions := by
    refine .emitAll same fun other isEvent => ?_
    rw [List.mem_singleton.mp isEvent]
    exact originates
  exact explains

end Moment.Explains

/-- Whatever is emitted while a task is done is emitted at a moment of its run. -/
theorem Completes.explains {runtime : RuntimeId} {task : Task} {state after : State}
    {episodes : List Episode} {outcome : Outcome}
    (completes : Completes runtime task state episodes outcome after) (calls : List OpenCall)
    (observed : List Observation) :
    Moment.Explains ⟨runtime, task, state, calls, observed⟩ state.world.sink.emissions
      after.world.sink.emissions := by
  induction completes generalizing calls observed with
  | finish | refused => exact .of_eq rfl
  | call called _ fromCall fromRest =>
    exact ((fromCall _ _).of_leads .call).trans ((fromRest _ _).of_leads (.called called))
  | frames _ fromRest => exact (fromRest _ _).of_leads .frames
  | spawn worked _ fromWork fromRest =>
    exact ((fromWork _ _).of_leads .spawn).trans ((fromRest _ _).of_leads (.spawned worked))
  | hook _ fromRest =>
    exact (Moment.Explains.of_eq (World.emissions_hookTarget _ _ _ _)).trans
      ((fromRest _ _).of_leads .hook)
  | install _ fromRest =>
    exact (Moment.Explains.of_eq (World.emissions_installHook _ _ _ _ _)).trans
      ((fromRest _ _).of_leads .install)
  | define _ fromRest => exact (fromRest _ _).of_leads .define
  | nativeUnprobed unprobed called _ fromCall fromRest =>
    exact ((fromCall _ _).of_leads (.unprobed unprobed)).trans
      ((fromRest _ _).of_leads (.unprobedCalled unprobed called))
  | nativeProbed probed begun entered called _ fromCall fromRest =>
    refine .trans ?_ ((fromRest _ _).of_leads (.probedCalled probed begun entered called))
    refine .trans ?_ (.emitAll rfl (.pathless probed Boundary.Crossing.path?_leave))
    refine .trans ?_ ((fromCall _ _).of_leads (.probed probed begun entered))
    exact .emitAll rfl (.pathless probed (Boundary.Probe.path?_enter entered))
  | dispatched found _ fromCall => exact (fromCall _ _).of_leads (.dispatched found)
  | plain force _ fromBody => exact (fromBody _ _).of_leads (.plain force)
  | straight force busy _ fromBody => exact (fromBody _ _).of_leads (.straight force busy)
  | traced force idle isPassage rewrote forwarded _ fromRewriting fromWithin fromDelivering =>
    subst isPassage
    refine .trans ?_ (.emit rfl (Moment.Emits.originates
      (.traced rfl force idle (.closing (Passage.closing_closes ⟨_, _, _, _, _⟩)))))
    refine .trans ?_ ((fromDelivering _ _).of_leads (.settling force idle rewrote forwarded))
    refine .trans ?_ ((fromWithin _ _).of_leads (.forwarding force idle rewrote))
    refine .trans ?_ (.emitAll rfl (.entry force idle rewrote))
    exact (fromRewriting _ _).of_leads (.rewriting force idle)

/-- Whatever is emitted from one moment of a run to the next is emitted at a moment of the run. -/
theorem Moment.Leads.explains {moment next : Moment} (leads : moment.Leads next) :
    moment.Explains moment.state.world.sink.emissions next.state.world.sink.emissions := by
  cases leads with
  | call | frames | spawn | define | unprobed | dispatched | plain | straight | rewriting =>
    exact .of_eq rfl
  | hook => exact .of_eq (World.emissions_hookTarget _ _ _ _)
  | install => exact .of_eq (World.emissions_installHook _ _ _ _ _)
  | called completes => exact (completes.explains _ _).of_leads .call
  | spawned completes => exact (completes.explains _ _).of_leads .spawn
  | unprobedCalled unprobed completes =>
    exact (completes.explains _ _).of_leads (.unprobed unprobed)
  | probed probed begun entered =>
    exact .emitAll rfl (.pathless probed (Boundary.Probe.path?_enter entered))
  | probedCalled probed begun entered completes =>
    refine .trans ?_ (.emitAll rfl (.pathless probed Boundary.Crossing.path?_leave))
    refine .trans ?_ ((completes.explains _ _).of_leads (.probed probed begun entered))
    exact .emitAll rfl (.pathless probed (Boundary.Probe.path?_enter entered))
  | forwarding force idle rewrote =>
    exact ((rewrote.explains _ _).of_leads (.rewriting force idle)).trans
      (.emitAll rfl (.entry force idle rewrote))
  | settling force idle rewrote forwarded =>
    refine .trans ?_ ((forwarded.explains _ _).of_leads (.forwarding force idle rewrote))
    refine .trans ?_ (.emitAll rfl (.entry force idle rewrote))
    exact (rewrote.explains _ _).of_leads (.rewriting force idle)

/-- Whatever a run has emitted when it comes to a moment, it has emitted at a moment. -/
theorem Moment.Arrives.explains {start moment : Moment} (arrives : start.Arrives moment) :
    start.Explains start.state.world.sink.emissions moment.state.world.sink.emissions := by
  induction arrives with
  | refl => exact .of_eq rfl
  | tail arrives leads inductionHypothesis =>
    exact inductionHypothesis.trans (leads.explains.of_arrives arrives)

end Intercept
