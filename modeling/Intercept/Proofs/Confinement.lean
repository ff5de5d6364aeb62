/-
This file proves that hooks act only where they are installed. Two processes may carry anything on
some overloads, and are hooked in the same way everywhere else. A call that comes to none of these
overloads in one of the processes comes to none of them in the other one either, and it takes the
same course in both, whether it ends or not: the same overloads are called with the same arguments,
the outcome is the same, and the same is emitted. This holds of calls from outside, and of calls
that are made in the midst of others. And what is emitted in a call tells of the call: whatever
carries a path carries that of a tracer that was called, and whatever carries none comes from a
probe.
-/
import Intercept.Proofs.Outside
import Intercept.Proofs.Provenance
import Intercept.Proofs.Sparing

namespace Intercept

/-! ### The course of a request -/

/-- The call that is about to be made at a moment, if one is. -/
def Moment.site? (moment : Moment) : Option Site :=
  match moment.task with
  | .call overload receiver arguments =>
    some ⟨moment.runtime, overload.reference, receiver, arguments⟩
  | _ => none

theorem Moment.Paired.site? {comparison : Comparison} {moment other : Moment}
    (paired : moment.Paired comparison other) : other.site? = moment.site? := by
  obtain ⟨runtime, task, state, calls, observed⟩ := moment
  obtain ⟨_, otherTask, otherState, otherCalls, otherObserved⟩ := other
  obtain ⟨rfl, sameTask, -, -⟩ := paired
  cases sameTask with
  | procedure | dispatch => rfl
  | call related =>
    exact congrArg (fun reference => some (Site.mk _ reference _ _)) related.reference

namespace Request

/-- That a request that is made in a state ends in another one, with an outcome, after calls have
been made and something has been emitted. -/
def Gives (request : Request) (state : State) (outcome : Outcome) (sites : List Site)
    (emitted : List Emission) (after : State) : Prop :=
  ∃ fuel episodes,
    request.callee.call (run fuel) request.runtime request.receiver request.arguments state =
      some (outcome, after) ∧
    Completes request.runtime (.dispatch request.callee request.receiver request.arguments) state
      episodes outcome after ∧
    sitesOf episodes = sites ∧ after.world.sink.emissions = state.world.sink.emissions ++ emitted

/-- That a request that is made in a state comes to a point: a call is about to be made, or none
is, after bodies have observed something and something has been emitted. -/
def Shows (request : Request) (state : State) (site? : Option Site) (observed : List Observation)
    (emitted : List Emission) : Prop :=
  ∃ moment, (request.begun state).Arrives moment ∧ moment.site? = site? ∧
    moment.observed = observed ∧
    moment.state.world.sink.emissions = state.world.sink.emissions ++ emitted

/-- That a request takes the same course in another state: there it ends in the same way, in a
state that is alike outside the overloads that are set apart, and it comes to the same points. -/
structure Follows (request : Request) (apart : RuntimeId → OverloadRef → Prop)
    (state other : State) : Prop where
  ended : ∀ {outcome sites emitted after}, request.Gives state outcome sites emitted after →
    ∃ otherAfter, request.Gives other outcome sites emitted otherAfter ∧
      after.AlikeOutside apart otherAfter
  underway : ∀ {site? observed emitted}, request.Shows state site? observed emitted →
    request.Shows other site? observed emitted

/-- That a call of a request comes to a tracer, and the tracer traces it. -/
def Dispatches (request : Request) (state : State) (tracer : Tracer) : Prop :=
  ∃ moment overload receiver arguments, (request.begun state).Arrives moment ∧
    moment.task = .call overload receiver arguments ∧ overload.bodyInForce = .traced tracer ∧
    tracer.identity ∉ moment.state.thread.forwarding

/-- That a request comes to a call of a native address with a probe. -/
def Crosses (request : Request) (state : State) (probe : Boundary.Probe) : Prop :=
  ∃ moment address arguments callee next, (request.begun state).Arrives moment ∧
    moment.task = .procedure (.native address arguments callee next) ∧
    moment.state.world.boundary.probeAt? address = some probe

/-! ### Requests in states side by side -/

variable {comparison : Comparison} {state other : State}

theorem follows (request : Request) (unique : Relator.BiUnique comparison.renames)
    (paired : state.Paired comparison other)
    (spares : (request.begun state).Spares comparison.apart ∨
      (request.begun other).Spares comparison.apart) :
    request.Follows comparison.apart state other where
  ended := by
    rintro outcome _ emitted after ⟨_, episodes, -, completes, rfl, emits⟩
    obtain ⟨otherEpisodes, otherAfter, otherCompletes, pairedAfter, told⟩ :=
      completes.paired unique .dispatch paired spares
    obtain ⟨bound, ends⟩ := otherCompletes.ends
    exact ⟨otherAfter, ⟨bound, otherEpisodes, ends bound (Nat.le_refl bound), otherCompletes,
      told.sites, paired.world.emits pairedAfter.world emits⟩, pairedAfter.alikeOutside⟩
  underway := by
    rintro _ _ emitted ⟨moment, arrives, rfl, rfl, emits⟩
    obtain ⟨reached, otherArrives, pairedThen⟩ :=
      arrives.paired unique (paired.begun request) spares
    exact ⟨reached, otherArrives, pairedThen.site?, pairedThen.observed,
      paired.world.emits pairedThen.state.world emits⟩

/-- Whatever a request has emitted, whether it has ended or not, it has emitted at a moment of its
run. -/
theorem originates {request : Request} {answer : Answer}
    (serves : Serves state [request] [answer]) :
    ∀ emission ∈ answer.emitted, (request.begun state).Originates emission := by
  have explains : (request.begun state).Explains state.world.sink.emissions
      (state.world.sink.emissions ++ answer.emitted) := by
    cases serves with
    | next gave emits =>
      obtain ⟨_, completes⟩ := Callee.call_completes (run_sound _) _ gave
      exact emits ▸ completes.explains [] []
    | underway arrives emits => exact emits ▸ arrives.explains
  obtain ⟨emitted, adds, originates⟩ := explains
  rwa [List.append_cancel_left adds]

end Request

/-- A call that comes to no overload that is set apart in one of two processes, which are alike
outside these overloads, comes to none in both, and takes the same course in both. And every event
that a call emits either carries the path of a tracer that traced a call on the way, or it is one
of a probe at a native address on the way, and carries no path. -/
theorem hooks_act_where_installed {apart : RuntimeId → OverloadRef → Prop} {state other : State}
    (attainable : state.Attainable) (otherAttainable : other.Attainable)
    (alike : state.AlikeOutside apart other) (request : Request) :
    ((request.begun state).Spares apart ∨ (request.begun other).Spares apart →
      ((request.begun state).Spares apart ∧ (request.begun other).Spares apart) ∧
        request.Follows apart state other ∧ request.Follows apart other state) ∧
    ∀ answer, Serves state [request] [answer] → ∀ emission ∈ answer.emitted,
      (∃ tracer, request.Dispatches state tracer ∧ emission.emitter = tracer.emitter ∧
        emission.event.path? = some tracer.path) ∨
      ∃ probe, request.Crosses state probe ∧ emission.emitter = probe.emitter ∧
        emission.event.path? = none := by
  have unique : Relator.BiUnique (World.Counterparts apart state.world other.world) :=
    World.Counterparts.biUnique attainable.issued.world otherAttainable.issued.world
  have paired := alike.paired attainable.issued otherAttainable.issued
  refine ⟨fun spares => ⟨⟨?_, ?_⟩, ?_, ?_⟩, fun answer serves emission isEmitted => ?_⟩
  · exact .of_paired unique (paired.begun request) spares
  · exact .of_paired (biUnique_flip unique) (paired.symm.begun request) spares.symm
  · exact request.follows unique paired spares
  · exact request.follows (biUnique_flip unique) paired.symm spares.symm
  · obtain ⟨moment, arrives, emits⟩ := Request.originates serves emission isEmitted
    cases emits with
    | traced calls force idle tells =>
      exact .inl ⟨_, ⟨moment, _, _, _, arrives, calls, force, idle⟩, rfl, tells.path?⟩
    | crossed calls probed pathless =>
      exact .inr ⟨_, ⟨moment, _, _, _, _, arrives, calls, probed⟩, rfl, pathless⟩

/-- A body that waves at the end. -/
def wavingBody : Body := fun _ _ => .call none "Desk" "wave" .null [] .finish

/-- A desk at which a greeting ends with a wave. The greeting is hooked, and nothing is installed
over the bell. -/
def bellWorld : World :=
  { registries :=
      [⟨[⟨"Desk", ["greet", "wave", "ring"]⟩],
        [⟨⟨"Desk", "greet", ⟨[]⟩⟩, wavingBody,
            some (.traced ⟨1, 0, "Desk.greet", {}, wavingBody⟩)⟩,
          ⟨⟨"Desk", "wave", ⟨[]⟩⟩, fun _ _ => .pure (.str "bye"), none⟩,
          ⟨⟨"Desk", "ring", ⟨[]⟩⟩, fun _ _ => .pure (.str "ding"), none⟩]⟩]
    nextTracer := 2 }

theorem bellWorld_reachable : bellWorld.Reachable := by
  have declares {state : State} (member : String) (body : Body) :
      (Operation.declareMethod 0 "Desk" member [] body).Leads state [] _ := .declareMethod
  have evolves : Evolves (fun _ => True) (State.initial {} 1) _ { world := bellWorld } :=
    .step (.step (.step (.step .start trivial (declares "greet" wavingBody)) trivial
      (declares "wave" fun _ _ => .pure (.str "bye"))) trivial
      (declares "ring" fun _ _ => .pure (.str "ding"))) trivial
      (.install : (Operation.install ⟨0, 0⟩ ⟨"Desk", "greet", ⟨[]⟩⟩ "Desk.greet" {}).Leads _ _ _)
  exact evolves.reachable

/-- A hook over the bell that hands out another sound does not change what a greeting gives. -/
theorem hooks_act_where_installed_bell :
    let bell : OverloadRef := ⟨"Desk", "ring", ⟨[]⟩⟩
    let request : Request := ⟨0, .method "Desk" "greet", .null, []⟩
    let hook : Hook := ({} : Hook).withResult fun _ => .str "dong"
    let other : State := { world := (bellWorld.installHook ⟨0, 0⟩ bell "Desk.ring" hook).2 }
    (request.begun other).Spares (fun _ reference => reference = bell) ∧
      ∃ after, request.Gives other (.returned (.str "bye"))
        [⟨0, ⟨"Desk", "greet", ⟨[]⟩⟩, .null, []⟩, ⟨0, ⟨"Desk", "wave", ⟨[]⟩⟩, .null, []⟩]
        [⟨0, .entered "Desk.greet" [] none⟩, ⟨0, .left "Desk.greet" "bye" none⟩] after := by
  intro bell request hook other
  have completes : Completes 0 (.dispatch (.method "Desk" "greet") .null []) { world := bellWorld }
      _ _ _ :=
    .dispatched rfl (.traced rfl List.not_mem_nil rfl .finish
      (.call (.dispatched rfl (.plain rfl .finish)) .finish) .finish)
  have spares : (request.begun { world := bellWorld }).Spares
      fun _ reference => reference = bell := by
    refine completes.spares (fun site isSite => ?_) [] []
    rcases List.mem_pair.mp isSite with rfl | rfl <;> decide
  have alike : State.AlikeOutside (fun _ reference => reference = bell) { world := bellWorld }
      other :=
    (World.AlikeOutside.installHook (.refl bellWorld) rfl "Desk.ring" hook).onThread
  have otherReachable : other.world.Reachable := by
    obtain ⟨host, runtimes, becomes⟩ := bellWorld_reachable
    exact ⟨host, runtimes, (World.becomes_byHooking _ _ _).installHook [] _ _ becomes⟩
  obtain ⟨confined, -⟩ := hooks_act_where_installed bellWorld_reachable.attainable
    otherReachable.attainable alike request
  obtain ⟨⟨-, otherSpares⟩, follows, -⟩ := confined (.inl spares)
  obtain ⟨after, gives, -⟩ := follows.ended ⟨8, _, rfl, completes, rfl, rfl⟩
  exact ⟨otherSpares, after, gives⟩

end Intercept
