/-
This file takes native calls apart into steps, so that many of them can be under way at once. A
call looks its probe up, takes a number, emits what the probe shows at the entry, waits for its
callee, emits what its crossing shows at the return, and returns. Between any two steps of one
call anything else may happen: steps of other calls, nested or on other threads, probes put at any
address, and whatever else the process does. A run is one such traffic, in which every call does
its steps while its callee's come in between.
-/
import Intercept.Proofs.Bracketing
import Mathlib.Logic.Relation

namespace Intercept

/-! ### Steps of one call -/

/-- How far a native call has come. -/
inductive NativeStage where
  /-- It is about to look its probe up. -/
  | called
  /-- It is about to take a number. -/
  | probed
  /-- It has events to emit before its callee is called. -/
  | entering (pending : List Event)
  | running
  /-- Its callee has returned, and it has events to emit. -/
  | leaving (pending : List Event)
  | returned (result : Int64)

/-- A native call: what it was made with, how far it has come, and what it has noted so far, which
is the probe that it found, its crossing, and what its callee returned. -/
structure NativeCall where
  address : UInt64
  arguments : List Boundary.Argument
  stage : NativeStage := .called
  probe : Option Boundary.Probe := none
  crossing : Option Boundary.Crossing := none
  answer : Option Int64 := none

/-- The events that a call has to emit after its callee has returned a result. -/
def NativeCall.parting (call : NativeCall) (result : Int64) : List Event :=
  match call.crossing with
  | some crossing => crossing.leave result
  | none => []

/-- That a call takes a step, from a world to another one, with what it emits. -/
inductive NativeCall.Steps (call : NativeCall) (world : World) :
    NativeCall → List Emission → World → Prop where
  | pass (isCalled : call.stage = .called)
      (unprobed : world.boundary.probeAt? call.address = none) :
      Steps call world { call with stage := .running } [] world
  | seek {probe : Boundary.Probe} (isCalled : call.stage = .called)
      (probed : world.boundary.probeAt? call.address = some probe) :
      Steps call world { call with stage := .probed, probe := some probe } [] world
  | number {probe : Boundary.Probe} {crossing noted : Boundary.Crossing} {boundary : Boundary}
      {events : List Event} (isProbed : call.stage = .probed) (found : call.probe = some probe)
      (begun : world.boundary.beginCrossing = (crossing, boundary))
      (entered : probe.enter call.arguments crossing = (events, noted)) :
      Steps call world { call with stage := .entering events, crossing := some noted } []
        { world with boundary }
  | enter {probe : Boundary.Probe} {event : Event} {pending : List Event}
      (isEntering : call.stage = .entering (event :: pending)) (found : call.probe = some probe) :
      Steps call world { call with stage := .entering pending } [⟨probe.emitter, event⟩]
        (world.emit probe.emitter event)
  | start (isEntering : call.stage = .entering []) :
      Steps call world { call with stage := .running } [] world
  /-- The callee returns, with whatever result. -/
  | answer (result : Int64) (isRunning : call.stage = .running) :
      Steps call world
        { call with stage := .leaving (call.parting result), answer := some result } [] world
  | leave {probe : Boundary.Probe} {event : Event} {pending : List Event}
      (isLeaving : call.stage = .leaving (event :: pending)) (found : call.probe = some probe) :
      Steps call world { call with stage := .leaving pending } [⟨probe.emitter, event⟩]
        (world.emit probe.emitter event)
  | finish {result : Int64} (isLeaving : call.stage = .leaving [])
      (answered : call.answer = some result) :
      Steps call world { call with stage := .returned result } [] world

/-! ### Many calls at once -/

/-- The number of the native call that an event is about. -/
def Event.callNumber? : Event → Option UInt64
  | .callEntered number _ | .callReturned number _ _ | .callFrames number _ => some number
  | _ => none

/-- An emission, and the native call that it comes from, if it comes from one. -/
structure Report where
  source : Option Nat
  emission : Emission

/-- A world with native calls, some of them under way, others returned, in the order in which
they were made, and with what has been emitted since a beginning. -/
structure Traffic where
  world : World
  calls : List NativeCall := []
  trace : List Report := []

/-- That something happens in a traffic: a call is made, a call takes a step, a probe is put at
an address, or something else is done that leaves the boundary alone. -/
inductive Traffic.Leads (traffic : Traffic) : Traffic → Prop where
  | made (address : UInt64) (arguments : List Boundary.Argument) :
      Leads traffic { traffic with calls := traffic.calls ++ [{ address, arguments }] }
  | stepped {index : Nat} {call next : NativeCall} {emitted : List Emission} {world : World}
      (present : traffic.calls[index]? = some call)
      (steps : call.Steps traffic.world next emitted world) :
      Leads traffic ⟨world, traffic.calls.set index next,
        traffic.trace ++ emitted.map (Report.mk (some index))⟩
  | attached (address : UInt64) (probe : Boundary.Probe) :
      Leads traffic
        { traffic with
          world :=
            { traffic.world with boundary := traffic.world.boundary.putProbe address probe } }
  | elsewhere {world : World} {emitted : List Emission}
      (aside : world.boundary = traffic.world.boundary)
      (emits : world.sink.emissions = traffic.world.sink.emissions ++ emitted)
      (foreign : ∀ emission ∈ emitted, emission.event.callNumber? = none) :
      Leads traffic ⟨world, traffic.calls, traffic.trace ++ emitted.map (Report.mk none)⟩

/-- That a traffic comes from another one, by whatever happens in whatever order. -/
def Traffic.Reaches : Traffic → Traffic → Prop :=
  Relation.ReflTransGen Traffic.Leads

/-! ### Runs are traffics -/

namespace Traffic

/-- That a traffic from one world to another is possible, whatever calls there are already and
whatever has been emitted. The calls that there are already take no step in it. -/
def Possible (world after : World) : Prop :=
  ∀ calls trace, ∃ others further,
    Reaches ⟨world, calls, trace⟩ ⟨after, calls ++ others, trace ++ further⟩

theorem Possible.refl (world : World) : Possible world world := by
  intro calls trace
  refine ⟨[], [], ?_⟩
  rw [List.append_nil, List.append_nil]
  exact .refl

theorem Possible.trans {world middle after : World} (first : Possible world middle)
    (second : Possible middle after) : Possible world after := by
  intro calls trace
  obtain ⟨others, further, reaches⟩ := first calls trace
  obtain ⟨more, beyond, goesOn⟩ := second (calls ++ others) (trace ++ further)
  refine ⟨others ++ more, further ++ beyond, ?_⟩
  rw [← List.append_assoc, ← List.append_assoc]
  exact reaches.trans goesOn

/-- Whatever leaves the boundary alone and emits no native events is possible. -/
theorem Possible.elsewhere {world after : World} {emitted : List Emission}
    (aside : after.boundary = world.boundary)
    (emits : after.sink.emissions = world.sink.emissions ++ emitted)
    (foreign : ∀ emission ∈ emitted, emission.event.callNumber? = none) :
    Possible world after := by
  intro calls trace
  refine ⟨[], emitted.map (Report.mk none), ?_⟩
  rw [List.append_nil]
  exact .single (.elsewhere aside emits foreign)

/-- That a call can proceed in a traffic, from a world to another one, wherever it stands among
the calls and whatever has been emitted. The other calls take no step in it. -/
def Proceeds (call : NativeCall) (world : World) (next : NativeCall) (after : World) : Prop :=
  ∀ before others trace, ∃ more further,
    Reaches ⟨world, before ++ call :: others, trace⟩
      ⟨after, before ++ next :: (others ++ more), trace ++ further⟩

theorem Proceeds.trans {world middle after : World} {call next last : NativeCall}
    (first : Proceeds call world next middle) (second : Proceeds next middle last after) :
    Proceeds call world last after := by
  intro before others trace
  obtain ⟨more, further, reaches⟩ := first before others trace
  obtain ⟨still, beyond, goesOn⟩ := second before (others ++ more) (trace ++ further)
  refine ⟨more ++ still, further ++ beyond, ?_⟩
  rw [← List.append_assoc, ← List.append_assoc]
  exact reaches.trans goesOn

theorem Proceeds.of_steps {world after : World} {call next : NativeCall}
    {emitted : List Emission} (steps : call.Steps world next emitted after) :
    Proceeds call world next after := by
  intro before others trace
  have present : (before ++ call :: others)[before.length]? = some call := by
    rw [List.getElem?_append_right (Nat.le_refl _), Nat.sub_self]
    rfl
  have stepped : (before ++ call :: others).set before.length next = before ++ next :: others := by
    rw [List.set_append_right _ _ (Nat.le_refl _), Nat.sub_self]
    rfl
  have leads : Leads ⟨world, before ++ call :: others, trace⟩ _ := .stepped present steps
  rw [stepped] at leads
  refine ⟨[], emitted.map (Report.mk (some before.length)), ?_⟩
  rw [List.append_nil]
  exact .single leads

/-- While a call waits, whatever is possible can happen. -/
theorem Proceeds.of_possible {world after : World} (possible : Possible world after)
    (call : NativeCall) : Proceeds call world call after := by
  intro before others trace
  obtain ⟨more, further, reaches⟩ := possible (before ++ call :: others) trace
  refine ⟨more, further, ?_⟩
  rw [← List.cons_append, ← List.append_assoc]
  exact reaches

/-- A call that emits its events one by one emits them all. -/
theorem Proceeds.emitAll {emitter : EmitterId} {call : List Event → NativeCall}
    (steps : ∀ world event pending, (call (event :: pending)).Steps world (call pending)
      [⟨emitter, event⟩] (world.emit emitter event))
    (world : World) (events : List Event) :
    Proceeds (call events) world (call []) (world.emitAll emitter events) := by
  induction events generalizing world with
  | nil => exact .of_possible (.refl world) _
  | cons event rest inductionHypothesis =>
    exact (Proceeds.of_steps (steps world event rest)).trans
      (inductionHypothesis (world.emit emitter event))

theorem Possible.of_proceeds {world after : World} {address : UInt64}
    {arguments : List Boundary.Argument} {last : NativeCall}
    (proceeds : Proceeds { address, arguments } world last after) : Possible world after := by
  intro calls trace
  obtain ⟨more, further, reaches⟩ := proceeds calls [] trace
  exact ⟨last :: more, further, .head (.made address arguments) reaches⟩

/-- A call to an address without a probe returns its callee's result. -/
theorem Proceeds.nativeUnprobed {world after : World} {address : UInt64}
    (unprobed : world.boundary.probeAt? address = none) (possible : Possible world after)
    (arguments : List Boundary.Argument) (result : Int64) :
    Proceeds { address, arguments } world
      { address, arguments, stage := .returned result, answer := some result } after := by
  have passed : Proceeds { address, arguments } world { address, arguments, stage := .running }
      world := .of_steps (.pass rfl unprobed)
  have answered : Proceeds { address, arguments, stage := .running } after
      { address, arguments, stage := .leaving [], answer := some result } after :=
    .of_steps (.answer result rfl)
  have finished : Proceeds
      { address, arguments, stage := .leaving [], answer := some result } after
      { address, arguments, stage := .returned result, answer := some result } after :=
    .of_steps (.finish rfl rfl)
  exact (passed.trans (.of_possible possible _)).trans (answered.trans finished)

/-- A call to an address with a probe returns its callee's result, and what the call shows comes
from this probe. -/
theorem Proceeds.nativeProbed {world after : World} {address : UInt64}
    {arguments : List Boundary.Argument} {probe : Boundary.Probe}
    {crossing noted : Boundary.Crossing} {boundary : Boundary} {events : List Event}
    (probed : world.boundary.probeAt? address = some probe)
    (begun : world.boundary.beginCrossing = (crossing, boundary))
    (entered : probe.enter arguments crossing = (events, noted))
    (possible : Possible ({ world with boundary }.emitAll probe.emitter events) after)
    (result : Int64) :
    Proceeds { address, arguments } world
      ⟨address, arguments, .returned result, some probe, some noted, some result⟩
      (after.emitAll probe.emitter (noted.leave result)) := by
  let entering (pending : List Event) : NativeCall :=
    ⟨address, arguments, .entering pending, some probe, some noted, none⟩
  let leaving (pending : List Event) : NativeCall :=
    ⟨address, arguments, .leaving pending, some probe, some noted, some result⟩
  have sought : Proceeds { address, arguments } world
      ⟨address, arguments, .probed, some probe, none, none⟩ world := .of_steps (.seek rfl probed)
  have numbered : Proceeds ⟨address, arguments, .probed, some probe, none, none⟩ world
      (entering events) { world with boundary } := .of_steps (.number rfl rfl begun entered)
  have shown : Proceeds (entering events) { world with boundary } (entering [])
      ({ world with boundary }.emitAll probe.emitter events) :=
    .emitAll (fun _ _ _ => .enter rfl rfl) _ _
  have started : Proceeds (entering []) ({ world with boundary }.emitAll probe.emitter events)
      ⟨address, arguments, .running, some probe, some noted, none⟩
      ({ world with boundary }.emitAll probe.emitter events) := .of_steps (.start rfl)
  have answered : Proceeds ⟨address, arguments, .running, some probe, some noted, none⟩ after
      (leaving (noted.leave result)) after := .of_steps (.answer result rfl)
  have reported : Proceeds (leaving (noted.leave result)) after (leaving [])
      (after.emitAll probe.emitter (noted.leave result)) :=
    .emitAll (fun _ _ _ => .leave rfl rfl) _ _
  have begins := ((sought.trans numbered).trans shown).trans started
  have ends := (answered.trans reported).trans (.of_steps (.finish rfl rfl))
  exact (begins.trans (.of_possible possible _)).trans ends

/-! ### Tasks are traffics -/

/-- Whatever leaves the boundary alone and emits nothing is possible. -/
theorem Possible.of_silent {world after : World}
    (silent : after.boundary = world.boundary ∧ after.sink.emissions = world.sink.emissions) :
    Possible world after := by
  refine .elsewhere silent.1 (silent.2.trans (List.append_nil _).symm) fun _ member => ?_
  exact absurd member List.not_mem_nil

/-- Emitting events that are not native is possible. -/
theorem Possible.emit (world : World) (emitter : EmitterId) {events : List Event}
    (foreign : ∀ event ∈ events, event.callNumber? = none) :
    Possible world (world.emitAll emitter events) := by
  refine .elsewhere ?_ (world.emissions_emitAll emitter events) fun emission member => ?_
  · rw [World.emitAll_eq]
  · obtain ⟨event, isEvent, rfl⟩ := List.mem_map.mp member
    exact foreign event isEvent

end Traffic

/-- Installing hooks leaves the boundary alone and emits nothing. -/
theorem KeptByHooking.silent (monitor : Monitor) (hook : Hook) (before : World) :
    KeptByHooking monitor hook fun _ world =>
      world.boundary = before.boundary ∧ world.sink.emissions = before.sink.emissions where
  hooked _ holds := holds
  refused holds := holds
  diagnosed holds := holds

theorem Passage.entry_callNumber? (passage : Passage) (arguments : List Value) :
    ∀ event ∈ passage.entry arguments, event.callNumber? = none := by
  intro event member
  rw [entry, Tracer.entryEvents, List.mem_cons] at member
  rcases member with rfl | snapshot
  · rfl
  · split at snapshot
    · rw [List.mem_singleton.mp snapshot]
      rfl
    · exact absurd snapshot List.not_mem_nil

theorem Passage.closing_callNumber? (passage : Passage) :
    passage.closing.callNumber? = none := by
  unfold closing
  cases passage.outcome <;> rfl

/-- Every completed task is a traffic, in which each native call does its steps while those of
its callee come in between. -/
theorem Completes.possible {runtime : RuntimeId} {task : Task} {state after : State}
    {episodes : List Episode} {outcome : Outcome}
    (completes : Completes runtime task state episodes outcome after) :
    Traffic.Possible state.world after.world := by
  induction completes with
  | finish | refused => exact .refl _
  | call _ _ called rest => exact called.trans rest
  | frames _ rest => exact rest
  | spawn _ _ worked rest => exact worked.trans rest
  | hook _ rest =>
    refine .trans (.of_silent ?_) rest
    exact (KeptByHooking.silent _ _ _).hookTarget _ [] ⟨rfl, rfl⟩
  | install _ rest =>
    refine .trans (.of_silent ?_) rest
    exact (KeptByHooking.silent _ _ _).installHook [] _ _ ⟨rfl, rfl⟩
  | define _ rest =>
    refine .trans (.of_silent ?_) rest
    exact ⟨rfl, rfl⟩
  | nativeUnprobed unprobed _ _ called rest =>
    exact (Traffic.Possible.of_proceeds (.nativeUnprobed unprobed called [] 0)).trans rest
  | nativeProbed probed begun entered _ _ called rest =>
    exact (Traffic.Possible.of_proceeds (.nativeProbed probed begun entered called _)).trans rest
  | dispatched _ _ called => exact called
  | plain _ _ ran | straight _ _ _ ran => exact ran
  | @traced _ _ tracer _ arguments _ _ _ _ _ _ _ entered _ settled passage _ _ _ _ _ _
      rewrote forwarded delivered =>
    have opened : Traffic.Possible entered.world
        (entered.world.emitAll tracer.emitter (passage.entry arguments)) :=
      .emit _ _ (passage.entry_callNumber? arguments)
    have closed : Traffic.Possible settled.world
        (settled.world.emitAll tracer.emitter [passage.closing]) :=
      .emit _ _ (List.forall_mem_singleton.mpr passage.closing_callNumber?)
    exact ((rewrote.trans opened).trans forwarded).trans (delivered.trans closed)

/-- A native call that gives a result does so in steps, and returns the result at the end. -/
theorem callNative_proceeds {fuel : Nat} {runtime : RuntimeId} {address : UInt64}
    {arguments : List Boundary.Argument} {callee : Procedure} {result : Int64}
    {state after : State}
    (gave : callNative (run fuel) runtime address arguments callee state =
      some (result, after)) :
    ∃ last : NativeCall, last.stage = .returned result ∧
      Traffic.Proceeds { address, arguments } state.world last after.world := by
  unfold callNative at gave
  split at gave
  case h_1 unprobed =>
    simp only [Option.bind_eq_bind, Option.bind_eq_some_iff, Prod.exists, Option.pure_def,
      Option.some.injEq, Prod.mk.injEq] at gave
    obtain ⟨outcome, finished, ran, rfl, rfl⟩ := gave
    obtain ⟨_, completes⟩ := run_sound fuel _ _ _ _ _ ran
    exact ⟨_, rfl, .nativeUnprobed unprobed completes.possible _ _⟩
  case h_2 probe probed =>
    simp only [Option.bind_eq_bind, Option.bind_eq_some_iff, Prod.exists, Option.pure_def,
      Option.some.injEq, Prod.mk.injEq] at gave
    obtain ⟨outcome, finished, ran, rfl, rfl⟩ := gave
    obtain ⟨_, completes⟩ := run_sound fuel _ _ _ _ _ ran
    exact ⟨_, rfl, .nativeProbed probed rfl rfl completes.possible _⟩

end Intercept
