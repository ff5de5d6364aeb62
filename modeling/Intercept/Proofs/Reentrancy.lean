/-
This file proves when a call of a hooked overload is traced. A tracer looks only for its own
identity on the forwarding stack of the thread. Identities are issued once, so the identity of
a tracer is on the stack exactly if an open call is being forwarded by this very tracer, put
over the same overload of the same runtime. Such a call goes straight to the declared body, as
if nothing were installed; every other call is traced, whatever is forwarding around it.
-/
import Intercept.Proofs.Evolution
import Intercept.Proofs.Moment

namespace Intercept

/-! ### Identities of tracers -/

/-- That a tracer is in use for an overload: it forwards one of some open calls, or it is
installed. -/
def World.Holds (world : World) (calls : List OpenCall) (runtime : RuntimeId)
    (reference : OverloadRef) (tracer : Tracer) : Prop :=
  ⟨runtime, reference, some tracer⟩ ∈ calls ∨
    ∃ overload ∈ (world.registry runtime).overloads,
      overload.reference = reference ∧ overload.installed = some (.traced tracer)

/-- That the identities of all tracers in use have been issued, and each of them once: for one
overload of one runtime, and one tracer over it. -/
structure World.Minted (calls : List OpenCall) (world : World) : Prop where
  pristine : world.Pristine
  issued : ∀ {runtime reference tracer}, world.Holds calls runtime reference tracer →
    tracer.identity < world.nextTracer
  unique : ∀ {runtime reference tracer otherRuntime otherReference otherTracer},
    world.Holds calls runtime reference tracer →
      world.Holds calls otherRuntime otherReference otherTracer →
        tracer.identity = otherTracer.identity →
          runtime = otherRuntime ∧ reference = otherReference ∧ tracer = otherTracer

namespace World

variable {world : World} {calls : List OpenCall}

theorem Holds.of_registry {other : World} (same : other.registry = world.registry)
    {runtime : RuntimeId} {reference : OverloadRef} {tracer : Tracer}
    (holds : other.Holds calls runtime reference tracer) :
    world.Holds calls runtime reference tracer := by
  rw [Holds, same] at holds
  exact holds

/-- A declaration puts no tracer in use. -/
theorem Holds.of_declared {permitted : Body → Prop} {declaring : RuntimeId} {registry : Registry}
    (declares : (world.registry declaring).Declares permitted registry) {runtime : RuntimeId}
    {reference : OverloadRef} {tracer : Tracer}
    (holds : (world.setRegistry declaring registry).Holds calls runtime reference tracer) :
    world.Holds calls runtime reference tracer := by
  rcases holds with forwards | ⟨overload, member, same, installed⟩
  · exact .inl forwards
  · rcases mem_declared declares member with before | ⟨_, _, -, -, rfl⟩
    · exact .inr ⟨overload, before, same, installed⟩
    · cases installed

/-- An installation puts only the fresh tracer in use. -/
theorem Holds.of_hooked {monitor : Monitor} {sought : OverloadRef} {overload : Overload}
    {path : String} {hook : Hook} (pristine : world.Pristine)
    (found : (world.registry monitor.runtime).overload? sought = some overload)
    {runtime : RuntimeId} {reference : OverloadRef} {tracer : Tracer}
    (holds : (world.hooked monitor overload path hook).Holds calls runtime reference tracer) :
    world.Holds calls runtime reference tracer ∨
      runtime = monitor.runtime ∧ reference = overload.reference ∧
        tracer = ⟨world.nextTracer, monitor.emitter, path, hook, overload.declaredBody⟩ := by
  rcases holds with forwards | ⟨after, member, same, installed⟩
  · exact .inl (.inl forwards)
  · rcases mem_hooked (pristine.distinct _) found member with ⟨before, -⟩ | ⟨rfl, rfl⟩
    · exact .inl (.inr ⟨after, before, same, installed⟩)
    · cases installed
      exact .inr ⟨rfl, same.symm, rfl⟩

/-- Open calls may be replaced by others whose tracers are in use all the same. -/
theorem Minted.adopt (minted : world.Minted calls) {others : List OpenCall}
    (held : ∀ {runtime reference tracer}, ⟨runtime, reference, some tracer⟩ ∈ others →
      world.Holds calls runtime reference tracer) : world.Minted others where
  pristine := minted.pristine
  issued holds := minted.issued (holds.elim held .inr)
  unique first second := minted.unique (first.elim held .inr) (second.elim held .inr)

/-- In every run, with open calls around it, identities are issued once. -/
theorem Minted.kept (calls : List OpenCall) : Kept True (World.Minted calls) where
  quiet _ := .inl trivial
  aside := by
    intro world other minted same sameNext sameBoundary
    have reads := registry_congr same
    refine ⟨Pristine.kept.aside minted.pristine same sameNext sameBoundary, fun holds => ?_,
      fun first second => minted.unique (first.of_registry reads) (second.of_registry reads)⟩
    rw [sameNext]
    exact minted.issued (holds.of_registry reads)
  crossed probed begun minted :=
    ⟨Pristine.kept.crossed probed begun minted.pristine, minted.issued, minted.unique⟩
  declared := by
    intro world runtime registry declares minted
    exact ⟨Pristine.kept.declared declares minted.pristine,
      fun holds => minted.issued (holds.of_declared declares),
      fun first second => minted.unique (first.of_declared declares)
        (second.of_declared declares)⟩
  hooked := by
    intro world monitor reference overload path hook _ found minted
    refine ⟨Pristine.kept.hooked trivial found minted.pristine, fun holds => ?_,
      fun first second same => ?_⟩
    · rcases holds.of_hooked minted.pristine found with before | ⟨-, -, rfl⟩
      · exact Nat.lt_succ_of_lt (minted.issued before)
      · exact Nat.lt_succ_self _
    · rcases first.of_hooked minted.pristine found with first | ⟨rfl, rfl, rfl⟩ <;>
      rcases second.of_hooked minted.pristine found with second | ⟨rfl, rfl, rfl⟩
      · exact minted.unique first second same
      · exact absurd same (Nat.ne_of_lt (minted.issued first))
      · exact absurd same.symm (Nat.ne_of_lt (minted.issued second))
      · exact ⟨rfl, rfl, rfl⟩
  refused := by
    intro world _ minted
    exact ⟨Pristine.kept.refused trivial minted.pristine,
      fun holds => Nat.lt_succ_of_lt (minted.issued holds), minted.unique⟩

theorem minted_initial (host : Host) (runtimes : Nat) :
    (State.initial host runtimes).world.Minted [] := by
  have nothing : ∀ {runtime reference tracer},
      ¬ (State.initial host runtimes).world.Holds [] runtime reference tracer := by
    intro runtime reference tracer holds
    rcases holds with forwards | ⟨overload, member, -⟩
    · cases forwards
    · rw [registry_initial] at member
      cases member
  exact ⟨pristine_initial (registry_initial host runtimes), fun holds => absurd holds nothing,
    fun holds => absurd holds nothing⟩

end World

/-! ### Moments of a run -/

/-- That the overload that a task calls is declared. -/
def Task.Present (registry : Registry) : Task → Prop
  | .call overload _ _ => overload ∈ registry.overloads
  | _ => True

/-- What holds at every moment of a run: identities are issued once, the stacks are those of the
open calls, and what is called is declared. -/
structure Moment.Sound (moment : Moment) : Prop where
  minted : moment.state.world.Minted moment.calls
  stacked : moment.Stacked
  present : moment.task.Present (moment.state.world.registry moment.runtime)

namespace World.Minted

variable {world : World} {calls : List OpenCall}

/-- A call that is not being forwarded may be opened. -/
theorem opened (minted : world.Minted calls) (runtime : RuntimeId) (reference : OverloadRef) :
    world.Minted (⟨runtime, reference, none⟩ :: calls) := by
  refine minted.adopt fun member => ?_
  rcases List.mem_cons.mp member with equal | before
  · cases equal
  · exact .inl before

/-- The installed tracer of a declared overload may begin to forward a call of it. -/
theorem forwarded (minted : world.Minted calls) {runtime : RuntimeId} {overload : Overload}
    (member : overload ∈ (world.registry runtime).overloads) {tracer : Tracer}
    (installed : overload.installed = some (.traced tracer)) :
    world.Minted (⟨runtime, overload.reference, some tracer⟩ :: calls) := by
  refine minted.adopt fun isCall => ?_
  rcases List.mem_cons.mp isCall with equal | before
  · cases equal
    exact .inr ⟨overload, member, rfl, installed⟩
  · exact .inl before

/-- A forwarded call may be open without being forwarded any longer. -/
theorem settled {runtime : RuntimeId} {reference : OverloadRef} {tracer : Tracer}
    (minted : world.Minted (⟨runtime, reference, some tracer⟩ :: calls)) :
    world.Minted (⟨runtime, reference, none⟩ :: calls) := by
  refine minted.adopt fun member => ?_
  rcases List.mem_cons.mp member with equal | before
  · cases equal
  · exact .inl (List.mem_cons_of_mem _ before)

end World.Minted

/-- A tracer in force is one that is installed. -/
theorem Overload.installed_of_traced {overload : Overload} {tracer : Tracer}
    (force : overload.bodyInForce = .traced tracer) :
    overload.installed = some (.traced tracer) := by
  unfold bodyInForce at force
  cases given : overload.installed with
  | none =>
    rw [given] at force
    cases force
  | some body =>
    rw [given] at force
    exact congrArg some force

theorem Moment.Sound.of_leads {moment next : Moment} (leads : moment.Leads next)
    (sound : moment.Sound) : next.Sound := by
  have stacked := sound.stacked.of_leads leads
  obtain ⟨minted, -, present⟩ := sound
  have kept := World.Minted.kept moment.calls
  cases leads with
  | call | frames | unprobed => exact ⟨minted, stacked, trivial⟩
  | called completes | unprobedCalled _ completes | spawned completes =>
    exact ⟨completes.keeps kept (.inl trivial) minted, stacked, trivial⟩
  | spawn =>
    refine ⟨minted.adopt fun member => ?_, stacked, trivial⟩
    cases member
  | hook =>
    exact ⟨(kept.byHooking trivial _ _).hookTarget _ [] minted, stacked, trivial⟩
  | install =>
    exact ⟨(kept.byHooking trivial _ _).installHook [] _ _ minted, stacked, trivial⟩
  | define =>
    exact ⟨kept.declared (Registry.declareMethod_declares _ _ _ _ (.inl trivial)) minted, stacked,
      trivial⟩
  | probed probed begun =>
    exact ⟨kept.emitAll _ _ (kept.crossed probed begun minted), stacked, trivial⟩
  | probedCalled probed begun _ completes =>
    have middle := completes.keeps kept (.inl trivial)
      (kept.emitAll _ _ (kept.crossed probed begun minted))
    exact ⟨kept.emitAll _ _ middle, stacked, trivial⟩
  | @dispatched _ callee _ _ _ _ _ _ found =>
    exact ⟨minted, stacked, callee.mem_of_find? found⟩
  | plain | straight | rewriting => exact ⟨minted.opened _ _, stacked, trivial⟩
  | forwarding force _ rewrote =>
    -- The tracer is in use from here on, even if the transform installs another one.
    have adopted := minted.forwarded present (Overload.installed_of_traced force)
    have entered := rewrote.keeps (World.Minted.kept _) (.inl trivial) adopted
    exact ⟨(World.Minted.kept _).emitAll _ _ entered, stacked, trivial⟩
  | settling force _ rewrote forwarded =>
    have adopted := minted.forwarded present (Overload.installed_of_traced force)
    have entered := rewrote.keeps (World.Minted.kept _) (.inl trivial) adopted
    have left := forwarded.keeps (World.Minted.kept _) (.inl trivial)
      ((World.Minted.kept _).emitAll _ _ entered)
    exact ⟨left.settled, stacked, trivial⟩

/-- The identity of a tracer in force is on the forwarding stack exactly if this very tracer
forwards an open call of the same overload. -/
theorem Moment.Sound.busy_iff {runtime : RuntimeId} {overload : Overload} {tracer : Tracer}
    {receiver : Value} {arguments : List Value} {state : State} {calls : List OpenCall}
    {observed : List Observation}
    (sound : Moment.Sound ⟨runtime, .call overload receiver arguments, state, calls, observed⟩)
    (force : overload.bodyInForce = .traced tracer) :
    tracer.identity ∈ state.thread.forwarding ↔
      ⟨runtime, overload.reference, some tracer⟩ ∈ calls := by
  have stack := sound.stacked.forwarding
  have held : state.world.Holds calls runtime overload.reference tracer :=
    .inr ⟨overload, sound.present, rfl, Overload.installed_of_traced force⟩
  constructor
  · intro busy
    rw [stack, List.mem_map] at busy
    obtain ⟨other, isForwarding, same⟩ := busy
    obtain ⟨⟨otherRuntime, reference, _⟩, isOpen, rfl⟩ := List.mem_filterMap.mp isForwarding
    obtain ⟨rfl, rfl, rfl⟩ := sound.minted.unique (.inl isOpen) held same
    exact isOpen
  · intro isOpen
    rw [stack]
    exact List.mem_map_of_mem (List.mem_filterMap.mpr ⟨_, isOpen, rfl⟩)

/-! ### The rule -/

/-- What a tracer emits for a call itself, around what happens in the call. -/
def Episode.ownMarks : Episode → List Mark
  | .traced site passage _ _ _ =>
    (passage.entry site.arguments).map passage.tracer.mark ++
      [passage.tracer.mark passage.closing]
  | _ => []

/-- That the entry of a tracer is emitted for a call itself. -/
def Episode.Enters (episode : Episode) (tracer : Tracer) : Prop :=
  ∃ arguments changed,
    tracer.mark (.entered tracer.path arguments changed) ∈ episode.ownMarks

namespace Overload

/-- That a call goes straight to the declared body: with any fuel it does what a call does while
nothing is installed over the overload. -/
def GoesStraight (overload : Overload) (runtime : RuntimeId) (receiver : Value)
    (arguments : List Value) (state : State) : Prop :=
  ∀ fuel, overload.call (run fuel) runtime receiver arguments state =
    ({ overload with installed := none } : Overload).call (run fuel) runtime receiver arguments
      state

/-- That a call goes through a tracer: with any fuel that rewrites the arguments, the events of
the entry are emitted before anything else happens, then the declared body runs on the rewritten
arguments while the tracer is forwarding, and then the tracer closes the call. -/
def GoesTraced (overload : Overload) (tracer : Tracer) (runtime : RuntimeId) (receiver : Value)
    (arguments : List Value) (state : State) : Prop :=
  ∀ fuel rewritten entered,
    run fuel runtime (tracer.rewriting arguments) (state.pushFrame overload.reference.key) =
        some (rewritten, entered) →
      overload.call (run fuel) runtime receiver arguments state = do
        let events := tracer.entryEvents arguments rewritten.asArguments
          tracer.hook.transformArguments.isSome entered.thread.frames
        let (outcome, left) ← run fuel runtime
          (tracer.declaredBody receiver rewritten.asArguments)
          ((entered.emitAll tracer.emitter events).beginForward tracer.identity)
        let (result, closed) ← tracer.close (run fuel) runtime outcome left.endForward
        return (result, closed.popFrame)

variable {overload : Overload} {tracer : Tracer} {runtime : RuntimeId} {receiver : Value}
  {arguments : List Value} {state : State}

theorem goesStraight (force : overload.bodyInForce = .traced tracer)
    (wraps : tracer.declaredBody = overload.declaredBody)
    (busy : tracer.identity ∈ state.thread.forwarding) :
    overload.GoesStraight runtime receiver arguments state := by
  intro fuel
  have contained : (state.pushFrame overload.reference.key).thread.forwarding.contains
      tracer.identity := List.contains_iff_mem.mpr busy
  rw [Overload.call, Overload.call, force, BodyInForce.run, Tracer.run, if_pos contained, wraps]
  rfl

theorem goesTraced (force : overload.bodyInForce = .traced tracer)
    (idle : tracer.identity ∉ state.thread.forwarding) :
    overload.GoesTraced tracer runtime receiver arguments state := by
  intro fuel rewritten entered rewrote
  have absent : ¬ (state.pushFrame overload.reference.key).thread.forwarding.contains
      tracer.identity := fun contained => idle (List.contains_iff_mem.mp contained)
  rw [Overload.call, force, BodyInForce.run, Tracer.run, if_neg absent,
    forwardedArguments_of_run rewrote]
  simp only [Option.bind_eq_bind, Option.bind_some, Option.bind_assoc]

end Overload

/-- A completed call through a tracer is one episode, and the tracer emits its entry for the
call exactly if it was idle. -/
theorem Completes.enters_iff {runtime : RuntimeId} {overload : Overload} {tracer : Tracer}
    {receiver : Value} {arguments : List Value} {state after : State} {episodes : List Episode}
    {outcome : Outcome} (force : overload.bodyInForce = .traced tracer)
    (completes : Completes runtime (.call overload receiver arguments) state episodes outcome
      after) :
    ∃ episode, episodes = [episode] ∧
      (episode.Enters tracer ↔ tracer.identity ∉ state.thread.forwarding) ∧
      (tracer.identity ∈ state.thread.forwarding → episode.ownMarks = []) := by
  cases completes with
  | plain plain => cases force.symm.trans plain
  | straight traced busy =>
    cases force.symm.trans traced
    refine ⟨_, rfl, ⟨fun enters => ?_, fun idle => absurd busy idle⟩, fun _ => rfl⟩
    obtain ⟨_, _, member⟩ := enters
    cases member
  | traced traced idle isPassage =>
    cases force.symm.trans traced
    refine ⟨_, rfl, ⟨fun _ => idle, fun _ => ?_⟩, fun busy => absurd busy idle⟩
    subst isPassage
    exact ⟨_, _, List.mem_cons_self⟩

/-- A call that reaches a tracer, at whatever moment of whatever run, is traced if and only if
this very tracer is not forwarding an open call of the thread. If it is, the call goes straight
to the declared body, and nothing is emitted for it. Afterwards the thread is as before. -/
theorem traced_iff_not_forwarding {permitted : Operation → Prop} {host : Host} {runtimes : Nat}
    {log : List Installation} {start : State}
    (evolves : Evolves permitted (State.initial host runtimes) log start)
    {first : RuntimeId} {callee : Callee} {receiver : Value} {arguments : List Value}
    {runtime : RuntimeId} {overload : Overload} {passed : Value} {given : List Value}
    {state : State} {calls : List OpenCall} {observed : List Observation}
    (arrives : Moment.Arrives ⟨first, .dispatch callee receiver arguments, start, [], []⟩
      ⟨runtime, .call overload passed given, state, calls, observed⟩)
    {tracer : Tracer} (force : overload.bodyInForce = .traced tracer) :
    (⟨runtime, overload.reference, some tracer⟩ ∈ calls →
      overload.GoesStraight runtime passed given state) ∧
    (⟨runtime, overload.reference, some tracer⟩ ∉ calls →
      overload.GoesTraced tracer runtime passed given state) ∧
    ∀ episodes outcome after,
      Completes runtime (.call overload passed given) state episodes outcome after →
        after.thread = state.thread ∧ ∃ episode, episodes = [episode] ∧
          (episode.Enters tracer ↔ ⟨runtime, overload.reference, some tracer⟩ ∉ calls) ∧
          (⟨runtime, overload.reference, some tracer⟩ ∈ calls → episode.ownMarks = []) := by
  have sound : Moment.Sound ⟨runtime, .call overload passed given, state, calls, observed⟩ := by
    refine arrives.keeps Moment.Sound.of_leads ⟨?_, ⟨?_, ?_⟩, trivial⟩
    · exact evolves.keeps (World.Minted.kept []) (World.minted_initial host runtimes)
    · exact congrArg Thread.frames evolves.thread
    · exact congrArg Thread.forwarding evolves.thread
  have wraps : tracer.declaredBody = overload.declaredBody := by
    obtain ⟨other, same, wraps⟩ := sound.minted.pristine.wraps runtime overload sound.present _
      (Overload.installed_of_traced force)
    cases same
    exact wraps
  have busy := sound.busy_iff force
  refine ⟨fun isOpen => ?_, fun notOpen => ?_, fun episodes outcome after completes => ?_⟩
  · exact Overload.goesStraight force wraps (busy.mpr isOpen)
  · exact Overload.goesTraced force (mt busy.mp notOpen)
  · obtain ⟨episode, same, enters, nothing⟩ := completes.enters_iff force
    rw [busy] at enters nothing
    exact ⟨completes.thread, episode, same, enters, nothing⟩

/-- A body that calls its own method once more. -/
def loopBody : Body
  | .null, _ => .call none "Loop" "run" (.bool true) [] .finish
  | _, _ => .pure .null

/-- A declared overload with this body, and a hook over it. -/
def loopOverload : Overload :=
  ⟨⟨"Loop", "run", ⟨[]⟩⟩, loopBody, some (.traced ⟨1, 0, "Loop.run", {}, loopBody⟩)⟩

/-- The process with this overload. -/
def loopState : State :=
  { world := { registries := [⟨[⟨"Loop", ["run"]⟩], [loopOverload]⟩], nextTracer := 2 } }

/-- The inner call of this method goes straight to its body. -/
theorem traced_iff_not_forwarding_loop :
    ∃ log state calls observed tracer,
      Evolves (fun _ => True) (State.initial {} 1) log loopState ∧
      Moment.Arrives ⟨0, .dispatch (.method "Loop" "run") .null [], loopState, [], []⟩
        ⟨0, .call loopOverload (.bool true) [], state, calls, observed⟩ ∧
      loopOverload.bodyInForce = .traced tracer ∧
      ⟨0, loopOverload.reference, some tracer⟩ ∈ calls ∧
      loopOverload.GoesStraight 0 (.bool true) [] state := by
  have declared : (Operation.declareMethod 0 "Loop" "run" [] loopBody).Leads
      (State.initial {} 1) [] _ := .declareMethod
  have evolves : Evolves (fun _ => True) (State.initial {} 1) _ loopState :=
    .step (.step .start trivial declared) trivial
      (.install : (Operation.install ⟨0, 0⟩ ⟨"Loop", "run", ⟨[]⟩⟩ "Loop.run" {}).Leads _ _ _)
  have dispatches (receiver : Value) {state : State} {calls : List OpenCall}
      {observed : List Observation}
      (same : state.world.registries = loopState.world.registries) :
      Moment.Leads ⟨0, .dispatch (.method "Loop" "run") receiver [], state, calls, observed⟩
        ⟨0, .call loopOverload receiver [], state, calls, observed⟩ := by
    refine .dispatched ?_
    rw [World.registry, same]
    rfl
  have arrives : Moment.Arrives
      ⟨0, .dispatch (.method "Loop" "run") .null [], loopState, [], []⟩ _ :=
    (((Relation.ReflTransGen.single (dispatches .null rfl)).tail
      (.forwarding rfl List.not_mem_nil .finish)).tail .call).tail (dispatches _ rfl)
  exact ⟨_, _, _, _, _, evolves, arrives, rfl, List.mem_cons_self,
    (traced_iff_not_forwarding evolves arrives rfl).1 List.mem_cons_self⟩

end Intercept
