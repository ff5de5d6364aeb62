/-
This file proves that tracing is transparent. Take declared methods whose bodies install
nothing, and any hooks over them that transform nothing. A call then completes exactly if it
completes without the hooks, with the same outcome, and on the way every body is started with
the same receiver and arguments, in the same order, and reads the same frames. Calls that never
end are covered as well: what bodies have observed at some moment of the one call, they have
observed at some moment of the other one.
-/
import Intercept.Proofs.Evolution
import Intercept.Proofs.Observing

namespace Intercept

/-! ### Declaring and hooking -/

/-- Operations that declare, with bodies that install nothing. -/
def Operation.DeclaresQuietly : Operation → Prop
  | .declareClass _ _ | .declareMember _ _ _ => True
  | .declareMethod _ _ _ _ body => Body.Quiet body
  | _ => False

/-- Operations that install hooks which only trace. -/
def Operation.OnlyTraces : Operation → Prop
  | .install _ _ _ hook | .hookTarget _ _ hook => hook.OnlyTraces
  | .sweepClass _ _ _ => True
  | _ => False

/-- That nothing is installed, and that all declared bodies install nothing. -/
def World.Bare (world : World) : Prop :=
  ∀ runtime, ∀ overload ∈ (world.registry runtime).overloads,
    overload.installed = none ∧ Body.Quiet overload.declaredBody

theorem World.Bare.setRegistry {world : World} (bare : world.Bare) {runtime : RuntimeId}
    {registry : Registry} (declares : (world.registry runtime).Declares Body.Quiet registry) :
    (world.setRegistry runtime registry).Bare := by
  intro reader overload member
  rcases World.mem_declared declares member with before | ⟨_, _, -, quiet, rfl⟩
  · exact bare reader overload before
  · exact ⟨rfl, quiet⟩

theorem Evolves.bare {host : Host} {runtimes : Nat} {log : List Installation} {state : State}
    (declares : Evolves Operation.DeclaresQuietly (State.initial host runtimes) log state) :
    state.world.Bare := by
  induction declares with
  | start =>
    intro runtime overload member
    rw [registry_initial] at member
    cases member
  | step _ allowed leads inductionHypothesis =>
    cases leads with
    | declareClass =>
      exact inductionHypothesis.setRegistry (.classes (Registry.overloads_declareClass _ _))
    | declareMember =>
      exact inductionHypothesis.setRegistry (.classes (Registry.overloads_declareMember _ _ _))
    | declareMethod =>
      exact inductionHypothesis.setRegistry
        (Registry.declareMethod_declares _ _ _ _ allowed)
    | _ => cases allowed

/-- That a world is a declared one with tracing put over it. -/
structure World.TracedOver (declared world : World) : Prop where
  pristine : world.Pristine
  runtimes : world.registries.length = declared.registries.length
  declarations : ∀ runtime,
    (world.registry runtime).declarations = (declared.registry runtime).declarations
  boundary : world.boundary = declared.boundary
  transparent : ∀ runtime, ∀ overload ∈ (world.registry runtime).overloads, overload.Transparent

theorem World.Bare.tracedOver {declared : World} (bare : declared.Bare)
    (pristine : declared.Pristine) : declared.TracedOver declared := by
  refine ⟨pristine, rfl, fun _ => rfl, rfl, fun runtime overload member => ?_⟩
  obtain ⟨nothing, quiet⟩ := bare runtime overload member
  refine ⟨quiet, fun body given => ?_⟩
  rw [nothing] at given
  cases given

/-- A hook that only traces leaves overloads transparent. -/
theorem World.transparent_hooked {world : World} {monitor : Monitor} {reference : OverloadRef}
    {overload : Overload} {path : String} {hook : Hook} (only : hook.OnlyTraces)
    (distinct : (world.registry monitor.runtime).Distinct)
    (transparent : ∀ runtime, ∀ overload ∈ (world.registry runtime).overloads,
      overload.Transparent)
    (found : (world.registry monitor.runtime).overload? reference = some overload)
    {runtime : RuntimeId} {after : Overload}
    (member : after ∈ ((world.hooked monitor overload path hook).registry runtime).overloads) :
    after.Transparent := by
  rcases World.mem_hooked distinct found member with ⟨before, -⟩ | ⟨rfl, rfl⟩
  · exact transparent runtime after before
  · have quiet := (transparent _ overload (Registry.mem_of_overload? found)).quiet
    refine ⟨quiet, fun body given => ?_⟩
    cases given
    exact ⟨_, rfl, rfl, only⟩

theorem World.TracedOver.kept (declared : World) (monitor : Monitor) {hook : Hook}
    (only : hook.OnlyTraces) :
    KeptByHooking monitor hook fun _ world => declared.TracedOver world where
  hooked := by
    intro _ world reference path overload found holds
    refine ⟨World.Pristine.kept.hooked trivial found holds.pristine, ?_, fun runtime => ?_,
      holds.boundary, fun runtime after member => World.transparent_hooked only
        (holds.pristine.distinct _) holds.transparent found member⟩
    · rw [← holds.runtimes, World.hooked, World.setRegistry, List.length_set]
    · rw [World.declarations_hooked found, holds.declarations]
  refused holds :=
    ⟨World.Pristine.kept.refused trivial holds.pristine, holds.runtimes, holds.declarations,
      holds.boundary, holds.transparent⟩
  diagnosed holds :=
    ⟨World.Pristine.kept.aside holds.pristine rfl rfl rfl, holds.runtimes, holds.declarations,
      holds.boundary, holds.transparent⟩

theorem Evolves.tracedOver {declared hooked : State} {log : List Installation}
    (traces : Evolves Operation.OnlyTraces declared log hooked)
    (holds : declared.world.TracedOver declared.world) :
    declared.world.TracedOver hooked.world := by
  induction traces with
  | start => exact holds
  | step _ allowed leads inductionHypothesis =>
    cases leads with
    | install =>
      exact (World.TracedOver.kept _ _ allowed).installHook [] _ _ inductionHypothesis
    | hookTarget =>
      exact (World.TracedOver.kept _ _ allowed).hookTarget _ [] inductionHypothesis
    | @sweepClass _ _ hook =>
      exact World.sweepClass_kept
        (World.TracedOver.kept _ _ hook.withoutTransforms_onlyTraces) _ [] inductionHypothesis
    | _ => cases allowed

/-- Two worlds with tracing put over the same declared one are alike. -/
theorem World.TracedOver.alike {declared world other : World}
    (traced : declared.TracedOver world) (otherTraced : declared.TracedOver other) :
    world.Alike observing other where
  runtimes := traced.runtimes.trans otherTraced.runtimes.symm
  overloads runtime :=
    forall₂_of_declarations
      ((traced.declarations runtime).trans (otherTraced.declarations runtime).symm)
      fun left isLeft right isRight reference declaredBody =>
        ⟨reference, declaredBody, traced.transparent runtime left isLeft,
          otherTraced.transparent runtime right isRight⟩
  boundary := traced.boundary.trans otherTraced.boundary.symm

/-! ### Transparency -/

/-- That a call ends with an outcome, and what bodies observe on the way. -/
def Callee.Observes (callee : Callee) (runtime : RuntimeId) (receiver : Value)
    (arguments : List Value) (state : State) (outcome : Outcome)
    (observations : List Observation) : Prop :=
  ∃ fuel episodes after,
    callee.call (run fuel) runtime receiver arguments state = some (outcome, after) ∧
    Completes runtime (.dispatch callee receiver arguments) state episodes outcome after ∧
    observationsOf episodes = observations

/-- What is observed from a state is observed from every state alike. -/
theorem Callee.Observes.of_alike {callee : Callee} {runtime : RuntimeId} {receiver : Value}
    {arguments : List Value} {state other : State} {outcome : Outcome}
    {observations : List Observation} (alike : state.Alike observing other)
    (observes : callee.Observes runtime receiver arguments state outcome observations) :
    callee.Observes runtime receiver arguments other outcome observations := by
  obtain ⟨_, episodes, after, _, completes, observed⟩ := observes
  obtain ⟨otherEpisodes, otherAfter, otherCompletes, _, same⟩ :=
    observing_lockstep.follows completes .dispatch other alike
  obtain ⟨bound, ends⟩ := otherCompletes.ends
  exact ⟨bound, otherEpisodes, otherAfter, ends bound (Nat.le_refl bound), otherCompletes,
    same.symm.trans observed⟩

/-- A call that ends observes something. -/
theorem Callee.ends_iff_observes {callee : Callee} {runtime : RuntimeId} {receiver : Value}
    {arguments : List Value} {state : State} :
    (∃ fuel, (callee.call (run fuel) runtime receiver arguments state).isSome) ↔
      ∃ outcome observations,
        callee.Observes runtime receiver arguments state outcome observations := by
  constructor
  · rintro ⟨fuel, ends⟩
    obtain ⟨⟨outcome, after⟩, gave⟩ := Option.isSome_iff_exists.mp ends
    obtain ⟨episodes, completes⟩ := Callee.call_completes (run_sound fuel) callee gave
    exact ⟨outcome, _, fuel, episodes, after, gave, completes, rfl⟩
  · rintro ⟨outcome, observations, fuel, episodes, after, gave, -⟩
    exact ⟨fuel, Option.isSome_of_eq_some gave⟩

/-- That bodies have observed something at some moment of a call, whether it ever ends or not. -/
def Callee.Shows (callee : Callee) (runtime : RuntimeId) (receiver : Value)
    (arguments : List Value) (state : State) (observations : List Observation) : Prop :=
  ∃ moment, Moment.Arrives ⟨runtime, .dispatch callee receiver arguments, state, [], []⟩ moment ∧
    moment.observed = observations

/-- What is shown from a state is shown from every state alike. -/
theorem Callee.Shows.of_alike {callee : Callee} {runtime : RuntimeId} {receiver : Value}
    {arguments : List Value} {state other : State} {observations : List Observation}
    (alike : state.Alike observing other)
    (shows : callee.Shows runtime receiver arguments state observations) :
    callee.Shows runtime receiver arguments other observations := by
  obtain ⟨moment, arrives, rfl⟩ := shows
  have begun : Moment.Alike observing
      ⟨runtime, .dispatch callee receiver arguments, state, [], []⟩
      ⟨runtime, .dispatch callee receiver arguments, other, [], []⟩ := ⟨rfl, .dispatch, alike⟩
  obtain ⟨reached, otherArrives, same, -⟩ := observing_shadows.arrives begun rfl arrives
  exact ⟨reached, otherArrives, same.symm⟩

/-- Hooks that only trace change nothing: from any thread, a call ends exactly if it ends
without them, with the same outcome, and bodies observe the same, at the end and on the way. -/
theorem tracing_is_transparent {host : Host} {runtimes : Nat}
    {declarations log : List Installation} {declared hooked : State}
    (declares : Evolves Operation.DeclaresQuietly (State.initial host runtimes) declarations
      declared)
    (traces : Evolves Operation.OnlyTraces declared log hooked) (thread : Thread)
    (runtime : RuntimeId) (callee : Callee) (receiver : Value) (arguments : List Value) :
    ((∃ fuel, (callee.call (run fuel) runtime receiver arguments ⟨hooked.world, thread⟩).isSome) ↔
      ∃ fuel, (callee.call (run fuel) runtime receiver arguments
        ⟨declared.world, thread⟩).isSome) ∧
    (∀ outcome observations,
      callee.Observes runtime receiver arguments ⟨hooked.world, thread⟩ outcome observations ↔
        callee.Observes runtime receiver arguments ⟨declared.world, thread⟩ outcome
          observations) ∧
    ∀ observations,
      callee.Shows runtime receiver arguments ⟨hooked.world, thread⟩ observations ↔
        callee.Shows runtime receiver arguments ⟨declared.world, thread⟩ observations := by
  have bare := declares.bare.tracedOver declares.pristine
  have traced := traces.tracedOver bare
  have alike : (⟨hooked.world, thread⟩ : State).Alike observing ⟨declared.world, thread⟩ :=
    ⟨traced.alike bare, rfl, trivial⟩
  have alikeBack : (⟨declared.world, thread⟩ : State).Alike observing ⟨hooked.world, thread⟩ :=
    ⟨bare.alike traced, rfl, trivial⟩
  refine ⟨?_, fun outcome observations => ⟨.of_alike alike, .of_alike alikeBack⟩,
    fun observations => ⟨.of_alike alike, .of_alike alikeBack⟩⟩
  rw [Callee.ends_iff_observes, Callee.ends_iff_observes]
  exact ⟨fun ⟨outcome, observations, observes⟩ => ⟨outcome, observations, observes.of_alike alike⟩,
    fun ⟨outcome, observations, observes⟩ =>
      ⟨outcome, observations, observes.of_alike alikeBack⟩⟩

/-- A body that gives back its arguments and the frames that it reads. -/
def echoBody : Body := fun _ arguments =>
  .frames fun keys => .pure (.list (arguments ++ keys.map .str))

/-- A method that reads its frames, hooked with a snapshot of them. -/
theorem tracing_is_transparent_echo :
    ∃ declared log hooked,
      Evolves Operation.DeclaresQuietly (State.initial {} 1) [] declared ∧
      Evolves Operation.OnlyTraces declared log hooked ∧
      log.length = 1 ∧
      (Callee.call (.method "Echo" "echo") (run 2) 0 .null [.str "x"] hooked).isSome ∧
      (((∃ fuel, (Callee.call (.method "Echo" "echo") (run fuel) 0 .null [.str "x"]
          ⟨hooked.world, {}⟩).isSome) ↔
        ∃ fuel, (Callee.call (.method "Echo" "echo") (run fuel) 0 .null [.str "x"]
          ⟨declared.world, {}⟩).isSome) ∧
      (∀ outcome observations,
        Callee.Observes (.method "Echo" "echo") 0 .null [.str "x"] ⟨hooked.world, {}⟩ outcome
            observations ↔
          Callee.Observes (.method "Echo" "echo") 0 .null [.str "x"] ⟨declared.world, {}⟩ outcome
            observations) ∧
      ∀ observations,
        Callee.Shows (.method "Echo" "echo") 0 .null [.str "x"] ⟨hooked.world, {}⟩ observations ↔
          Callee.Shows (.method "Echo" "echo") 0 .null [.str "x"] ⟨declared.world, {}⟩
            observations) := by
  have quiet : Operation.DeclaresQuietly (.declareMethod 0 "Echo" "echo" ["String"] echoBody) :=
    fun _ _ => .frames fun _ => .finish
  have declares : Evolves Operation.DeclaresQuietly (State.initial {} 1) ([] ++ []) _ :=
    .step .start quiet .declareMethod
  have only : Operation.OnlyTraces
      (.install ⟨0, 0⟩ ⟨"Echo", "echo", ⟨["String"]⟩⟩ "Echo.echo" { backtrace := true }) :=
    ⟨rfl, rfl⟩
  exact ⟨_, _, _, declares, .step .start only .install, rfl, rfl,
    tracing_is_transparent declares (.step .start only .install) ..⟩

end Intercept
