/-
This file holds the contract of tracers. A call that reaches a tracer which is not forwarding goes
through three stages. First its arguments are rewritten, by the transform of the hook or not at all,
and the entry is emitted. Then the declared body of the overload runs on the rewritten list. At last
a value that it returns is delivered, through the transform of the hook or as it is, and the end is
emitted; a fault is passed on unchanged. The entry and the end show a changed form if and only if
there is a transform, and then what the body gets and what the caller gets. All this holds of calls
in the midst of others as well, and of calls that never end, as far as they come.
-/
import Intercept.Proofs.Outside
import Intercept.Proofs.Overriding

namespace Intercept

/-! ### Tracers over declared bodies -/

namespace World

variable {world after : World}

/-- That every tracer over an overload forwards to the declared body of this overload. -/
structure Wrapped (world : World) : Prop where
  coherent : ∀ runtime, (world.registry runtime).Coherent
  wraps : ∀ (runtime : RuntimeId), ∀ overload ∈ (world.registry runtime).overloads,
    ∀ tracer : Tracer, overload.installed = some (.traced tracer) →
      tracer.declaredBody = overload.declaredBody

theorem Wrapped.of_turns (turns : world.Turns after) (wrapped : world.Wrapped) :
    after.Wrapped := by
  obtain ⟨coherent, wraps⟩ := wrapped
  refine ⟨turns.coherent coherent, fun reader standing isStanding tracer installed => ?_⟩
  cases turns with
  | aside beside =>
    rw [registry_congr beside.registries] at isStanding
    exact wraps reader standing isStanding tracer installed
  | refused => exact wraps reader standing isStanding tracer installed
  | declared extend =>
    rcases mem_declared extend.declares isStanding with isBefore | ⟨_, _, -, -, rfl⟩
    · exact wraps reader standing isBefore tracer installed
    · cases installed
  | @hooked monitor _ _ _ _ found =>
    rcases mem_hooked (coherent monitor.runtime).distinct found isStanding with
      ⟨isBefore, -⟩ | ⟨-, rfl⟩
    · exact wraps reader standing isBefore tracer installed
    · cases installed
      rfl
  | @replaced runtime _ _ _ found =>
    rcases world.registry_setRegistry_cases runtime reader _ with reads | ⟨rfl, reads⟩ <;>
      rw [reads] at isStanding
    · exact wraps reader standing isStanding tracer installed
    · rcases (coherent _).distinct.mem_putBody found isStanding with ⟨isBefore, -⟩ | rfl
      · exact wraps _ standing isBefore tracer installed
      · cases installed

theorem Reachable.wrapped (reachable : world.Reachable) : world.Wrapped := by
  refine reachable.keeps Wrapped.of_turns fun host runtimes =>
    ⟨fun runtime => ?_, fun runtime overload isOverload => ?_⟩
  · rw [registry_initial]
    exact .empty
  · rw [registry_initial] at isOverload
    cases isOverload

theorem Reachable.of_arrives {start moment : Moment} (reachable : start.state.world.Reachable)
    (arrives : start.Arrives moment) : moment.state.world.Reachable := by
  induction arrives with
  | refl => exact reachable
  | tail _ leads inductionHypothesis => exact inductionHypothesis.of_becomes leads.becomes

end World

/-! ### Stages -/

namespace Tracer

/-- What a tracer forwards for the arguments of a caller, and the event that tells so. -/
inductive Forwards (tracer : Tracer) (runtime : RuntimeId) (arguments : List Value)
    (state : State) : List Episode → List Value → State → Event → Prop where
  | unchanged (unset : tracer.hook.transformArguments = none) :
      Forwards tracer runtime arguments state [] arguments state
        (.entered tracer.path (arguments.map Value.render) none)
  | changed {transform : List Value → Procedure} {episodes : List Episode} {answer : Outcome}
      {after : State} (set : tracer.hook.transformArguments = some transform)
      (ran : Completes runtime (.procedure (transform arguments)) state episodes answer after) :
      Forwards tracer runtime arguments state episodes answer.asArguments after
        (.entered tracer.path (arguments.map Value.render)
          (some (answer.asArguments.map Value.render)))

/-- What a tracer delivers to the caller after the end of the declared body, and the event that
tells so. -/
inductive Delivers (tracer : Tracer) (runtime : RuntimeId) (state : State) :
    Outcome → List Episode → Outcome → State → Event → Prop where
  | fault {fault : Fault} :
      Delivers tracer runtime state (.raised fault) [] (.raised fault) state
        (.faulted tracer.path fault.render)
  | unchanged {value : Value} (unset : tracer.hook.transformResult = none) :
      Delivers tracer runtime state (.returned value) [] (.returned value) state
        (.left tracer.path value.render none)
  | changed {value : Value} {transform : Value → Procedure} {episodes : List Episode}
      {answer : Outcome} {after : State} (set : tracer.hook.transformResult = some transform)
      (ran : Completes runtime (.procedure (transform value)) state episodes answer after) :
      Delivers tracer runtime state (.returned value) episodes (.returned answer.asResult) after
        (.left tracer.path value.render (some answer.asResult.render))

/-- The snapshot of the frames, if the hook asks for one. -/
def snapshot (tracer : Tracer) (state : State) : List Event :=
  if tracer.hook.backtrace then [.frames tracer.path (renderFrames state.thread.frames)] else []

/-- The state in which the declared body runs: the entry has been emitted, and the tracer is
forwarding. -/
def started (tracer : Tracer) (entry : Event) (entered : State) : State :=
  (entered.emitAll tracer.emitter (entry :: tracer.snapshot entered)).beginForward tracer.identity

end Tracer

/-- How a call went through a tracer, stage by stage. -/
structure Carriage where
  rewriting : List Episode
  forwarded : List Value
  entered : State
  entry : Event
  within : List Episode
  answer : Outcome
  left : State
  delivering : List Episode
  delivered : Outcome
  settled : State
  closing : Event

namespace Carriage

/-- That a tracer carried a call from a state to a body: each stage goes on from where the one
before it ended. -/
structure Of (carriage : Carriage) (tracer : Tracer) (body : Body) (site : Site)
    (state : State) : Prop where
  forwards : tracer.Forwards site.runtime site.arguments (state.pushFrame site.reference.key)
    carriage.rewriting carriage.forwarded carriage.entered carriage.entry
  runs : Completes site.runtime (.procedure (body site.receiver carriage.forwarded))
    (tracer.started carriage.entry carriage.entered) carriage.within carriage.answer carriage.left
  delivers : tracer.Delivers site.runtime carriage.left.endForward carriage.answer
    carriage.delivering carriage.delivered carriage.settled carriage.closing

/-- What bodies observe: in the middle, the declared body is activated, on the rewritten list. -/
def observations (carriage : Carriage) (site : Site) : List Observation :=
  observationsOf carriage.rewriting ++
    .activated { site with arguments := carriage.forwarded } :: observationsOf carriage.within ++
    observationsOf carriage.delivering

/-- What is emitted: whatever is emitted while the declared body runs lies between the entry and the
end. -/
def emissions (carriage : Carriage) (tracer : Tracer) : List Emission :=
  emissionsOf carriage.rewriting ++
    (carriage.entry :: tracer.snapshot carriage.entered).map (Emission.mk tracer.emitter) ++
    emissionsOf carriage.within ++ emissionsOf carriage.delivering ++
    [⟨tracer.emitter, carriage.closing⟩]

end Carriage

namespace Tracer

variable {tracer : Tracer} {runtime : RuntimeId} {arguments forwarded : List Value}
  {state after : State} {episodes : List Episode} {entry closing : Event}

/-- What is forwarded is what the rewriting of the arguments completes with. -/
theorem forwards_iff : tracer.Forwards runtime arguments state episodes forwarded after entry ↔
    (∃ answer,
      Completes runtime (.procedure (tracer.rewriting arguments)) state episodes answer after ∧
        forwarded = answer.asArguments) ∧
      entry = .entered tracer.path (arguments.map Value.render)
        (if tracer.hook.transformArguments.isSome then some (forwarded.map Value.render)
          else none) := by
  unfold rewriting
  constructor
  · intro forwards
    cases forwards with
    | unchanged unset =>
      rw [unset]
      exact ⟨⟨_, .finish, rfl⟩, rfl⟩
    | changed set ran =>
      rw [set]
      exact ⟨⟨_, ran, rfl⟩, rfl⟩
  · rintro ⟨⟨answer, completes, rfl⟩, rfl⟩
    cases given : tracer.hook.transformArguments with
    | none =>
      rw [given] at completes
      cases completes
      exact .unchanged given
    | some transform =>
      rw [given] at completes
      exact .changed given completes

/-- Functions forward what they give, and nothing happens in them. -/
theorem Forwards.function
    (forwards : tracer.Forwards runtime arguments state episodes forwarded after entry)
    {change : Option (List Value → List Value)} (changes : tracer.hook.transformArguments =
      change.map fun change arguments => .pure (.list (change arguments))) :
    episodes = [] ∧ forwarded = change.getD id arguments := by
  cases forwards with
  | unchanged unset =>
    obtain rfl := Option.map_eq_none_iff.mp (changes.symm.trans unset)
    exact ⟨rfl, rfl⟩
  | changed set ran =>
    obtain ⟨change, rfl, rfl⟩ := Option.map_eq_some_iff.mp (changes.symm.trans set)
    cases ran
    exact ⟨rfl, rfl⟩

/-- What is delivered is what the transform of a value completes with, and a fault as it is. -/
theorem delivers_iff {answer delivered : Outcome} (frames : List String) :
    tracer.Delivers runtime state answer episodes delivered after closing ↔
      ∃ delivery, Completes runtime (.procedure (tracer.settling answer)) state episodes delivery
          after ∧
        delivered = (⟨tracer, forwarded, frames, answer, delivery⟩ : Passage).result ∧
        closing = (⟨tracer, forwarded, frames, answer, delivery⟩ : Passage).closing := by
  simp only [Passage.closing, Passage.result]
  constructor
  · intro delivers
    cases delivers with
    | fault => exact ⟨_, .finish, rfl, rfl⟩
    | unchanged unset =>
      rw [settling, unset]
      exact ⟨_, .finish, rfl, rfl⟩
    | changed set ran =>
      rw [settling, set]
      exact ⟨_, ran, rfl, rfl⟩
  · rintro ⟨delivery, completes, rfl, rfl⟩
    cases answer with
    | raised fault =>
      cases completes
      exact .fault
    | returned value =>
      rw [settling] at completes
      dsimp only
      cases given : tracer.hook.transformResult with
      | none =>
        rw [given] at completes
        cases completes
        exact .unchanged given
      | some transform =>
        rw [given] at completes
        exact .changed given completes

/-- Functions deliver what they give, and nothing happens in them. -/
theorem Delivers.function {answer delivered : Outcome}
    (delivers : tracer.Delivers runtime state answer episodes delivered after closing)
    {settle : Option (Value → Value)} (settles : tracer.hook.transformResult =
      settle.map fun settle value => .pure (settle value)) :
    episodes = [] ∧ delivered = answer.mapValue (settle.getD id) := by
  cases delivers with
  | fault => exact ⟨rfl, rfl⟩
  | unchanged unset =>
    obtain rfl := Option.map_eq_none_iff.mp (settles.symm.trans unset)
    exact ⟨rfl, rfl⟩
  | changed set ran =>
    obtain ⟨settle, rfl, rfl⟩ := Option.map_eq_some_iff.mp (settles.symm.trans set)
    cases ran
    exact ⟨rfl, rfl⟩

end Tracer

/-! ### Calls -/

theorem Tracer.emissions_started (tracer : Tracer) (entry : Event) (entered : State) :
    (tracer.started entry entered).world.sink.emissions = entered.world.sink.emissions ++
      (entry :: tracer.snapshot entered).map (Emission.mk tracer.emitter) :=
  World.emissions_emitAll _ _ _

/-- What has been emitted when the declared body begins. -/
theorem Tracer.Forwards.emissions_started {tracer : Tracer} {site : Site} {state entered : State}
    {rewriting : List Episode} {forwarded : List Value} {entry : Event}
    (forwards : tracer.Forwards site.runtime site.arguments (state.pushFrame site.reference.key)
      rewriting forwarded entered entry) :
    (tracer.started entry entered).world.sink.emissions =
      state.world.sink.emissions ++ emissionsOf rewriting ++
        (entry :: tracer.snapshot entered).map (Emission.mk tracer.emitter) := by
  obtain ⟨⟨_, rewrote, -⟩, -⟩ := Tracer.forwards_iff.mp forwards
  rw [Tracer.emissions_started, rewrote.emissions]
  rfl

namespace Carriage

variable {carriage : Carriage} {tracer : Tracer} {overload : Overload} {runtime : RuntimeId}
  {receiver : Value} {arguments : List Value} {state : State}

/-- If the stages of a call complete, so does the call. -/
theorem Of.completes (force : overload.bodyInForce = .traced tracer)
    (wraps : tracer.declaredBody = overload.declaredBody)
    (idle : tracer.identity ∉ state.thread.forwarding)
    (carried : carriage.Of tracer overload.declaredBody
      ⟨runtime, overload.reference, receiver, arguments⟩ state) :
    ∃ passage : Passage, passage.tracer = tracer ∧ passage.forwarded = carriage.forwarded ∧
      passage.entry arguments = carriage.entry :: tracer.snapshot carriage.entered ∧
      passage.closing = carriage.closing ∧
      Completes runtime (.call overload receiver arguments) state
        [.traced ⟨runtime, overload.reference, receiver, arguments⟩ passage carriage.rewriting
          carriage.within carriage.delivering] carriage.delivered
        (carriage.settled.emit tracer.emitter carriage.closing).popFrame := by
  obtain ⟨forwards, runs, delivers⟩ := carried
  obtain ⟨⟨rewritten, rewrote, forwarded⟩, entry⟩ := Tracer.forwards_iff.mp forwards
  obtain ⟨delivery, delivered, isDelivered, isClosing⟩ :=
    (Tracer.delivers_iff carriage.entered.thread.frames).mp delivers
  let passage : Passage :=
    ⟨tracer, carriage.forwarded, carriage.entered.thread.frames, carriage.answer, delivery⟩
  have isEntry : passage.entry arguments = carriage.entry :: tracer.snapshot carriage.entered := by
    rw [entry]
    rfl
  refine ⟨passage, rfl, rfl, isEntry, isClosing.symm, ?_⟩
  rw [isDelivered, isClosing]
  have isPassage : passage =
      ⟨tracer, rewritten.asArguments, carriage.entered.thread.frames, carriage.answer, delivery⟩ :=
    congrArg (Passage.mk tracer · _ _ _) forwarded
  refine .traced force idle isPassage rewrote ?_ delivered
  rw [isEntry, ← forwarded, wraps]
  exact runs

/-- A call that completes has completed all its stages. -/
theorem exists_of_completes (force : overload.bodyInForce = .traced tracer)
    (wraps : tracer.declaredBody = overload.declaredBody)
    (idle : tracer.identity ∉ state.thread.forwarding) {episodes : List Episode}
    {outcome : Outcome} {after : State}
    (completes : Completes runtime (.call overload receiver arguments) state episodes outcome
      after) :
    ∃ carriage : Carriage, carriage.Of tracer overload.declaredBody
      ⟨runtime, overload.reference, receiver, arguments⟩ state := by
  cases completes with
  | plain plain => cases force.symm.trans plain
  | straight traced busy =>
    cases force.symm.trans traced
    exact absurd busy idle
  | @traced _ _ _ _ _ rewritten outcome delivery rewriting within delivering _ entered left settled
      _ traced _ isPassage rewrote forwarded delivered =>
    cases force.symm.trans traced
    subst isPassage
    rw [wraps] at forwarded
    let passage : Passage :=
      ⟨tracer, rewritten.asArguments, entered.thread.frames, outcome, delivery⟩
    exact ⟨⟨rewriting, rewritten.asArguments, entered, _, within, outcome, left, delivering,
      passage.result, settled, passage.closing⟩,
      Tracer.forwards_iff.mpr ⟨⟨_, rewrote, rfl⟩, rfl⟩, forwarded,
      (Tracer.delivers_iff passage.frames).mpr ⟨delivery, delivered, rfl, rfl⟩⟩

end Carriage

/-! ### The contract -/

/-- What a tracer owes to a call of its overload that comes while it is not forwarding. -/
structure Tracer.Handles (tracer : Tracer) (overload : Overload) (site : Site) (state : State)
    (calls : List OpenCall) (observed : List Observation) : Prop where
  /-- A call that completes has gone through its stages, each one once. The caller gets what was
  delivered, and the stages are all that bodies observe and all that is emitted. -/
  completed : ∀ {episodes : List Episode} {outcome : Outcome} {after : State},
    Completes site.runtime (.call overload site.receiver site.arguments) state episodes outcome
      after → ∃ carriage : Carriage, carriage.Of tracer overload.declaredBody site state ∧
        outcome = carriage.delivered ∧ observationsOf episodes = carriage.observations site ∧
        after.world.sink.emissions = state.world.sink.emissions ++ carriage.emissions tracer ∧
        after.thread = state.thread
  /-- If the stages complete, so does the call, with what was delivered. -/
  completes : ∀ {carriage : Carriage}, carriage.Of tracer overload.declaredBody site state →
    ∃ episodes after, Completes site.runtime (.call overload site.receiver site.arguments) state
      episodes carriage.delivered after
  /-- Transforms that are functions forward and deliver what they give. -/
  functions : ∀ {carriage : Carriage}, carriage.Of tracer overload.declaredBody site state →
    ∀ (change : Option (List Value → List Value)) (settle : Option (Value → Value)),
      (tracer.hook.transformArguments =
        change.map fun change arguments => .pure (.list (change arguments))) →
      (tracer.hook.transformResult = settle.map fun settle value => .pure (settle value)) →
        carriage.rewriting = [] ∧ carriage.delivering = [] ∧
          carriage.forwarded = change.getD id site.arguments ∧
          carriage.delivered = carriage.answer.mapValue (settle.getD id)
  /-- As far as a run may have come with the call, it is rewriting the arguments and has emitted
  nothing of its own, or has emitted the entry and then begun with the declared body, once, on what
  was forwarded. -/
  begun : ∀ {next : Moment},
    Moment.Leads ⟨site.runtime, .call overload site.receiver site.arguments, state, calls, observed⟩
      next →
    next.task = .procedure (tracer.rewriting site.arguments) ∧ next.observed = observed ∧
        next.state.world = state.world ∨
      ∃ rewriting forwarded entered entry within,
        tracer.Forwards site.runtime site.arguments (state.pushFrame site.reference.key) rewriting
          forwarded entered entry ∧
        (within = [] ∧ next.task = .procedure (overload.declaredBody site.receiver forwarded) ∨
          ∃ answer left, Completes site.runtime
              (.procedure (overload.declaredBody site.receiver forwarded))
              (tracer.started entry entered) within answer left ∧
            next.task = .procedure (tracer.settling answer)) ∧
        next.observed = observed ++ observationsOf rewriting ++
          .activated { site with arguments := forwarded } :: observationsOf within ∧
        next.state.world.sink.emissions = state.world.sink.emissions ++ emissionsOf rewriting ++
          (entry :: tracer.snapshot entered).map (Emission.mk tracer.emitter) ++
          emissionsOf within

theorem Tracer.handles {tracer : Tracer} {overload : Overload}
    (force : overload.bodyInForce = .traced tracer)
    (wraps : tracer.declaredBody = overload.declaredBody) {runtime : RuntimeId} {receiver : Value}
    {arguments : List Value} {state : State} (idle : tracer.identity ∉ state.thread.forwarding)
    (calls : List OpenCall) (observed : List Observation) :
    tracer.Handles overload ⟨runtime, overload.reference, receiver, arguments⟩ state calls
      observed where
  completed := by
    intro episodes outcome after completes
    obtain ⟨carriage, carried⟩ := Carriage.exists_of_completes force wraps idle completes
    obtain ⟨passage, rfl, forwarded, entry, closing, asCarried⟩ :=
      carried.completes force wraps idle
    obtain ⟨rfl, rfl, rfl⟩ := asCarried.unique completes
    refine ⟨carriage, carried, rfl, ?_, ?_, completes.thread⟩
    · rw [observationsOf, Episode.observations, forwarded, observationsOf, List.append_nil]
      rfl
    · rw [completes.emissions, emissionsOf_traced, entry, closing]
      rfl
  completes carried := by
    obtain ⟨_, -, -, -, -, completes⟩ := carried.completes force wraps idle
    exact ⟨_, _, completes⟩
  functions carried _ _ changes settles := by
    obtain ⟨nothing, forwarded⟩ := carried.forwards.function changes
    obtain ⟨nothingMore, delivered⟩ := carried.delivers.function settles
    exact ⟨nothing, nothingMore, forwarded, delivered⟩
  begun := by
    intro next leads
    cases leads with
    | plain plain => cases force.symm.trans plain
    | straight traced busy =>
      cases force.symm.trans traced
      exact absurd busy idle
    | rewriting traced =>
      cases force.symm.trans traced
      exact .inl ⟨rfl, rfl, rfl⟩
    | forwarding traced _ rewrote =>
      cases force.symm.trans traced
      have forwards := forwards_iff.mpr ⟨⟨_, rewrote, rfl⟩, rfl⟩
      refine .inr ⟨_, _, _, _, [], forwards, .inl ⟨rfl, by rw [wraps]⟩, rfl, ?_⟩
      rw [emissionsOf_nil, List.append_nil]
      exact forwards.emissions_started
    | settling traced _ rewrote forwarded =>
      cases force.symm.trans traced
      have forwards := forwards_iff.mpr ⟨⟨_, rewrote, rfl⟩, rfl⟩
      rw [wraps] at forwarded
      refine .inr ⟨_, _, _, _, _, forwards, .inr ⟨_, _, forwarded, rfl⟩, rfl, ?_⟩
      rw [← forwards.emissions_started]
      exact forwarded.emissions

/-- Wherever in a run of a process a call reaches a tracer that is not forwarding on the thread, the
tracer handles it: it forwards to the declared body of the overload, once, with the receiver of the
caller and with the rewritten arguments only, and delivers what this body returns. -/
theorem tracers_handle_calls {start : Moment} (reachable : start.state.world.Reachable)
    {runtime : RuntimeId} {callee : Callee} {receiver : Value} {arguments : List Value}
    {state : State} {calls : List OpenCall} {observed : List Observation}
    (arrives : start.Arrives ⟨runtime, .dispatch callee receiver arguments, state, calls, observed⟩)
    {overload : Overload}
    (found : callee.find? (state.world.registry runtime) arguments = some overload)
    {tracer : Tracer} (force : overload.bodyInForce = .traced tracer)
    (idle : tracer.identity ∉ state.thread.forwarding) :
    tracer.declaredBody = overload.declaredBody ∧
    tracer.Handles overload ⟨runtime, overload.reference, receiver, arguments⟩ state calls
      observed ∧
    ∀ episodes outcome after,
      Completes runtime (.dispatch callee receiver arguments) state episodes outcome after ↔
        Completes runtime (.call overload receiver arguments) state episodes outcome after := by
  have wraps := (reachable.of_arrives arrives).wrapped.wraps runtime overload
    (callee.mem_of_find? found) tracer (Overload.installed_of_traced force)
  exact ⟨wraps, Tracer.handles force wraps idle calls observed,
    fun _ _ _ => Completes.dispatch_iff found⟩

/-- A welcome that waves and then returns its arguments. -/
def welcomeBody : Body := fun _ arguments =>
  .call none "Desk" "wave" .null [] fun _ => .pure (.list arguments)

/-- A hook that passes one argument more and doubles the result. -/
def welcomeHook : Hook :=
  (({} : Hook).withArguments fun arguments => .str "Ann" :: arguments).withResult fun value =>
    .list [value, value]

/-- A desk with a welcome under this hook, and a wave under a hook that only traces. -/
def welcomeWorld : World :=
  let wave : Body := fun _ _ => .pure (.str "bye")
  { registries :=
      [⟨[⟨"Desk", ["greet", "wave"]⟩],
        [⟨⟨"Desk", "greet", ⟨[]⟩⟩, welcomeBody,
            some (.traced ⟨1, 0, "Desk.greet", welcomeHook, welcomeBody⟩)⟩,
          ⟨⟨"Desk", "wave", ⟨[]⟩⟩, wave, some (.traced ⟨2, 0, "Desk.wave", {}, wave⟩)⟩]⟩]
    nextTracer := 3 }

theorem welcomeWorld_reachable : welcomeWorld.Reachable := by
  have declares {state : State} (member : String) (body : Body) :
      (Operation.declareMethod 0 "Desk" member [] body).Leads state [] _ := .declareMethod
  have installs {state : State} (member path : String) (hook : Hook) :
      (Operation.install ⟨0, 0⟩ ⟨"Desk", member, ⟨[]⟩⟩ path hook).Leads state _ _ := .install
  have evolves : Evolves (fun _ => True) (State.initial {} 1) _ { world := welcomeWorld } :=
    .step (.step (.step (.step .start trivial (declares "greet" welcomeBody)) trivial
      (declares "wave" fun _ _ => .pure (.str "bye"))) trivial
      (installs "greet" "Desk.greet" welcomeHook)) trivial (installs "wave" "Desk.wave" {})
  exact evolves.reachable

/-- The welcome gets an argument that its caller did not pass, and the wave is traced within it. -/
theorem tracers_handle_calls_welcome :
    let start : Moment :=
      ⟨0, .dispatch (.method "Desk" "greet") .null [], { world := welcomeWorld }, [], []⟩
    ∃ overload tracer episodes after,
      welcomeWorld.Reachable ∧
      Callee.find? (.method "Desk" "greet") (welcomeWorld.registry 0) [] = some overload ∧
      overload.bodyInForce = .traced tracer ∧
      tracer.Handles overload ⟨0, overload.reference, .null, []⟩ { world := welcomeWorld } [] [] ∧
      Completes 0 start.task start.state episodes
        (.returned (.list [.list [.str "Ann"], .list [.str "Ann"]])) after ∧
      after.world.sink.emissions.map Emission.event =
        [.entered "Desk.greet" [] (some ["Ann"]), .entered "Desk.wave" [] none,
          .left "Desk.wave" "bye" none, .left "Desk.greet" "Ann" (some "Ann,Ann")] := by
  intro start
  have reachable : start.state.world.Reachable := welcomeWorld_reachable
  obtain ⟨-, handles, -⟩ := tracers_handle_calls reachable .refl rfl rfl List.not_mem_nil
  have completes : Completes 0 (.dispatch (.method "Desk" "greet") .null [])
      { world := welcomeWorld } _ _ _ :=
    .dispatched rfl (.traced rfl List.not_mem_nil rfl .finish
      (.call (.dispatched rfl (.traced rfl (by decide) rfl .finish .finish .finish)) .finish)
      .finish)
  exact ⟨_, _, _, _, welcomeWorld_reachable, rfl, rfl, handles, completes, rfl⟩

end Intercept
