/-
This file sets two worlds side by side in which the same is declared and the same is probed. All
overloads carry the same in both of them, but for the identities of tracers, except for some that
are set apart: on those, anything may be installed in either world. Whatever is done to one of the
worlds, be it an emission, a declaration or an installation, leaves them side by side if it is
done to the other one too, and it answers the same: where hooks are installed is told by what is
declared, and the identities that both worlds issue next correspond.
-/
import Intercept.Proofs.Effects

namespace Intercept

/-! ### Worlds side by side -/

/-- What worlds are compared up to: which identities of tracers correspond, which overloads are set
apart, and what had been emitted in either world before. -/
structure Comparison where
  renames : Nat → Nat → Prop
  apart : RuntimeId → OverloadRef → Prop
  emitted : List Emission
  otherEmitted : List Emission

/-- The same comparison, the other way around. -/
def Comparison.reversed (comparison : Comparison) : Comparison :=
  ⟨flip comparison.renames, comparison.apart, comparison.otherEmitted, comparison.emitted⟩

/-- Overloads that are the same but for the identity of the tracer over them, or that are set
apart. -/
structure Overload.Paired (comparison : Comparison) (runtime : RuntimeId)
    (overload other : Overload) : Prop where
  reference : other.reference = overload.reference
  declaredBody : other.declaredBody = overload.declaredBody
  installed : ¬ comparison.apart runtime overload.reference →
    Option.Rel (BodyInForce.Renamed comparison.renames) overload.installed other.installed

/-- Registries of a runtime with the same classes, and with overloads side by side. -/
structure Registry.Paired (comparison : Comparison) (runtime : RuntimeId)
    (registry other : Registry) : Prop where
  classes : other.classes = registry.classes
  overloads : List.Forall₂ (Overload.Paired comparison runtime) registry.overloads other.overloads

/-- Worlds side by side: the same has been emitted in both since the comparison began, and the
identities that they will issue correspond. -/
structure World.Paired (comparison : Comparison) (world other : World) : Prop where
  host : other.host = world.host
  boundary : other.boundary = world.boundary
  runtimes : world.registries.length = other.registries.length
  registry : ∀ runtime,
    (world.registry runtime).Paired comparison runtime (other.registry runtime)
  fresh : ∀ later, comparison.renames (world.nextTracer + later) (other.nextTracer + later)
  emitted : ∃ since, world.sink.emissions = comparison.emitted ++ since ∧
    other.sink.emissions = comparison.otherEmitted ++ since

/-- States with worlds side by side, on threads with the same frames. Of two tracers that
correspond, either both are forwarding or none of them is. -/
structure State.Paired (comparison : Comparison) (state other : State) : Prop where
  world : state.world.Paired comparison other.world
  frames : other.thread.frames = state.thread.frames
  forwarding : ∀ {identity otherIdentity}, comparison.renames identity otherIdentity →
    (identity ∈ state.thread.forwarding ↔ otherIdentity ∈ other.thread.forwarding)

/-- Tasks of a runtime that are the same, but for what their overloads carry. -/
inductive Task.Paired (comparison : Comparison) (runtime : RuntimeId) : Task → Task → Prop where
  | procedure {procedure : Procedure} :
      Paired comparison runtime (.procedure procedure) (.procedure procedure)
  | dispatch {callee : Callee} {receiver : Value} {arguments : List Value} :
      Paired comparison runtime (.dispatch callee receiver arguments)
        (.dispatch callee receiver arguments)
  | call {overload other : Overload} {receiver : Value} {arguments : List Value}
      (paired : overload.Paired comparison runtime other) :
      Paired comparison runtime (.call overload receiver arguments)
        (.call other receiver arguments)

/-- Moments side by side: at both of them bodies have observed the same. -/
structure Moment.Paired (comparison : Comparison) (moment other : Moment) : Prop where
  runtime : other.runtime = moment.runtime
  task : moment.task.Paired comparison moment.runtime other.task
  state : moment.state.Paired comparison other.state
  observed : other.observed = moment.observed

variable {comparison : Comparison}

/-- A request that is made in states side by side begins with moments side by side. -/
theorem State.Paired.begun {state other : State} (paired : state.Paired comparison other)
    (request : Request) : (request.begun state).Paired comparison (request.begun other) :=
  ⟨rfl, .dispatch, paired, rfl⟩

/-! ### The other way around -/

theorem BodyInForce.Renamed.symm {renames : Nat → Nat → Prop} {body other : BodyInForce}
    (renamed : body.Renamed renames other) : other.Renamed (flip renames) body := by
  cases renamed with
  | plain => exact .plain
  | @traced tracer identity related =>
    exact .traced (related : flip renames ({ tracer with identity } : Tracer).identity _)

theorem Overload.Paired.symm {runtime : RuntimeId} {overload other : Overload}
    (paired : overload.Paired comparison runtime other) :
    other.Paired comparison.reversed runtime overload := by
  obtain ⟨reference, declaredBody, installed⟩ := paired
  refine ⟨reference.symm, declaredBody.symm, fun spared => ?_⟩
  have related := installed (reference ▸ spared)
  generalize overload.installed = left at related
  generalize other.installed = right at related
  cases related with
  | none => exact .none
  | some renamed => exact .some renamed.symm

theorem World.Paired.symm {world other : World} (paired : world.Paired comparison other) :
    other.Paired comparison.reversed world where
  host := paired.host.symm
  boundary := paired.boundary.symm
  runtimes := paired.runtimes.symm
  registry runtime := ⟨(paired.registry runtime).classes.symm,
    ((paired.registry runtime).overloads.imp fun _ _ related => related.symm).flip⟩
  fresh := paired.fresh
  emitted := by
    obtain ⟨since, emitted, otherEmitted⟩ := paired.emitted
    exact ⟨since, otherEmitted, emitted⟩

theorem State.Paired.symm {state other : State} (paired : state.Paired comparison other) :
    other.Paired comparison.reversed state :=
  ⟨paired.world.symm, paired.frames.symm, fun related => (paired.forwarding related).symm⟩

/-- What confuses no identities confuses none the other way around. -/
theorem biUnique_flip {renames : Nat → Nat → Prop} (unique : Relator.BiUnique renames) :
    Relator.BiUnique (flip renames) :=
  ⟨fun _ _ _ first second => unique.2 first second,
    fun _ _ _ first second => unique.1 first second⟩

/-! ### Overloads that are called -/

namespace Overload.Paired

variable {runtime : RuntimeId} {overload other : Overload}
  (paired : overload.Paired comparison runtime other)

include paired

variable (spared : ¬ comparison.apart runtime overload.reference)

include spared

theorem bodyInForce : overload.bodyInForce.Renamed comparison.renames other.bodyInForce := by
  obtain ⟨-, sameBody, installed⟩ := paired
  have related := installed spared
  rw [Overload.bodyInForce, Overload.bodyInForce, sameBody]
  generalize overload.installed = left at related
  generalize other.installed = right at related
  cases related with
  | none => exact .plain
  | some renamed => exact renamed

theorem plain {body : Body} (force : overload.bodyInForce = .plain body) :
    other.bodyInForce = .plain body := by
  have renamed := paired.bodyInForce spared
  rw [force] at renamed
  generalize other.bodyInForce = otherBody at renamed
  cases renamed
  rfl

theorem traced {tracer : Tracer} (force : overload.bodyInForce = .traced tracer) :
    ∃ identity, comparison.renames tracer.identity identity ∧
      other.bodyInForce = .traced { tracer with identity } := by
  have renamed := paired.bodyInForce spared
  rw [force] at renamed
  generalize other.bodyInForce = otherBody at renamed
  cases renamed with
  | traced corresponds => exact ⟨_, corresponds, rfl⟩

end Overload.Paired

/-! ### Registries -/

namespace Registry.Paired

variable {runtime : RuntimeId} {registry other : Registry}
  (paired : registry.Paired comparison runtime other)

include paired

theorem declarations : other.declarations = registry.declarations := by
  refine (List.forall₂_eq_eq_eq ▸ ?_ : registry.declarations = other.declarations).symm
  refine List.forall₂_map_left_iff.mpr (List.forall₂_map_right_iff.mpr ?_)
  exact paired.overloads.imp fun _ _ related =>
    Prod.ext related.reference.symm related.declaredBody.symm

theorem exists_partner {overload : Overload} (isOverload : overload ∈ registry.overloads) :
    ∃ partner ∈ other.overloads, overload.Paired comparison runtime partner := by
  have related := paired.overloads
  generalize registry.overloads = overloads at isOverload related
  generalize other.overloads = others at related
  induction related with
  | nil => cases isOverload
  | cons first _ inductionHypothesis =>
    rcases List.mem_cons.mp isOverload with rfl | isLater
    · exact ⟨_, List.mem_cons_self, first⟩
    · obtain ⟨partner, isPartner, paired⟩ := inductionHypothesis isLater
      exact ⟨partner, List.mem_cons_of_mem _ isPartner, paired⟩

theorem overload? (reference : OverloadRef) :
    Option.Rel (Overload.Paired comparison runtime) (registry.overload? reference)
      (other.overload? reference) := by
  refine find?_related (fun related => ?_) paired.overloads
  rw [related.reference]

theorem find? (callee : Callee) (arguments : List Value) :
    Option.Rel (Overload.Paired comparison runtime) (callee.find? registry arguments)
      (callee.find? other arguments) := by
  rw [callee.find?_eq, callee.find?_eq]
  refine find?_related (fun related => ?_) paired.overloads
  rw [Function.comp_apply, Function.comp_apply, related.reference]

theorem find?_some {callee : Callee} {arguments : List Value} {overload : Overload}
    (found : callee.find? registry arguments = some overload) :
    ∃ otherOverload, callee.find? other arguments = some otherOverload ∧
      overload.Paired comparison runtime otherOverload := by
  have related := paired.find? callee arguments
  rw [found] at related
  generalize callee.find? other arguments = sought at related
  cases related with
  | some related => exact ⟨_, rfl, related⟩

theorem find?_none {callee : Callee} {arguments : List Value}
    (missing : callee.find? registry arguments = none) :
    callee.find? other arguments = none := by
  have related := isSome_related (paired.find? callee arguments)
  rw [missing] at related
  exact Option.isNone_iff_eq_none.mp (Option.isSome_eq_false_iff.mp related.symm)

theorem declareMember (container member : String) :
    (registry.declareMember container member).Paired comparison runtime
      (other.declareMember container member) where
  classes := by
    have declared : (other.declareClass container).classes =
        (registry.declareClass container).classes := by
      unfold declareClass slotOf?
      rw [paired.classes]
      split
      · exact paired.classes
      · rfl
    exact congrArg (List.map _) declared
  overloads := by
    rw [overloads_declareMember, overloads_declareMember]
    exact paired.overloads

theorem declareMethod (container member : String) (parameters : List String) (body : Body) :
    (other.declareMethod container member parameters body).1 =
        (registry.declareMethod container member parameters body).1 ∧
      (registry.declareMethod container member parameters body).2.Paired comparison runtime
        (other.declareMethod container member parameters body).2 := by
  have same := isSome_related (paired.overload? ⟨container, member, ⟨parameters⟩⟩)
  unfold Registry.declareMethod
  dsimp only
  rw [same]
  split
  · exact ⟨rfl, paired⟩
  · have noted := paired.declareMember container member
    have fresh : Overload.Paired comparison runtime
        ⟨⟨container, member, ⟨parameters⟩⟩, body, none⟩
        ⟨⟨container, member, ⟨parameters⟩⟩, body, none⟩ := ⟨rfl, rfl, fun _ => .none⟩
    exact ⟨rfl, noted.classes, List.rel_append noted.overloads (.cons fresh .nil)⟩

theorem putBody (reference : OverloadRef) {body otherBody : BodyInForce}
    (related : body.Renamed comparison.renames otherBody) :
    (registry.putBody reference body).Paired comparison runtime
      (other.putBody reference otherBody) where
  classes := paired.classes
  overloads := by
    refine List.forall₂_map_left_iff.mpr (List.forall₂_map_right_iff.mpr ?_)
    refine paired.overloads.imp fun overload otherOverload relatedOverloads => ?_
    rw [relatedOverloads.reference]
    split
    · exact ⟨rfl, relatedOverloads.declaredBody, fun _ => .some related⟩
    · exact relatedOverloads

end Registry.Paired

/-! ### Worlds -/

namespace World.Paired

variable {world other : World} (paired : world.Paired comparison other)

include paired

theorem sameSetting : world.SameSetting other where
  classes runtime := (paired.registry runtime).classes
  declarations runtime := (paired.registry runtime).declarations
  host := paired.host

theorem setRegistry (runtime : RuntimeId) {registry otherRegistry : Registry}
    (related : registry.Paired comparison runtime otherRegistry) :
    (world.setRegistry runtime registry).Paired comparison
      (other.setRegistry runtime otherRegistry) where
  host := paired.host
  boundary := paired.boundary
  runtimes := by
    simpa only [World.setRegistry, List.length_set] using paired.runtimes
  registry := by
    intro reader
    by_cases same : reader = runtime
    · subst same
      by_cases present : reader < world.registries.length
      · rw [registry_setRegistry_self _ _ _ present,
          registry_setRegistry_self _ _ _ (paired.runtimes ▸ present)]
        exact related
      · rw [setRegistry_absent _ _ (Nat.le_of_not_lt present),
          setRegistry_absent _ _ (paired.runtimes ▸ Nat.le_of_not_lt present)]
        exact paired.registry reader
    · rw [registry_setRegistry_other _ _ same, registry_setRegistry_other _ _ same]
      exact paired.registry reader
  fresh := paired.fresh
  emitted := paired.emitted

theorem emitAll (emitter : EmitterId) (events : List Event) :
    (world.emitAll emitter events).Paired comparison (other.emitAll emitter events) := by
  obtain ⟨since, emitted, otherEmitted⟩ := paired.emitted
  have more : ∃ since, (world.emitAll emitter events).sink.emissions =
      comparison.emitted ++ since ∧
        (other.emitAll emitter events).sink.emissions = comparison.otherEmitted ++ since := by
    refine ⟨since ++ events.map (Emission.mk emitter), ?_, ?_⟩
    · rw [emissions_emitAll, emitted, List.append_assoc]
    · rw [emissions_emitAll, otherEmitted, List.append_assoc]
  rw [emitAll_eq, other.emitAll_eq]
  exact ⟨paired.host, paired.boundary, paired.runtimes, paired.registry, paired.fresh, more⟩

/-- What is emitted in the one world is emitted in the other one. -/
theorem emits {after otherAfter : World} (pairedAfter : after.Paired comparison otherAfter)
    {emitted : List Emission} (emits : after.sink.emissions = world.sink.emissions ++ emitted) :
    otherAfter.sink.emissions = other.sink.emissions ++ emitted := by
  obtain ⟨since, isSince, isOtherSince⟩ := paired.emitted
  obtain ⟨more, isMore, isOtherMore⟩ := pairedAfter.emitted
  rw [isMore, isSince, List.append_assoc] at emits
  rw [isOtherMore, isOtherSince, List.append_cancel_left emits, List.append_assoc]

theorem onBoundary (boundary : Boundary) :
    ({ world with boundary } : World).Paired comparison { other with boundary } :=
  ⟨paired.host, rfl, paired.runtimes, paired.registry, paired.fresh, paired.emitted⟩

/-- Where both worlds have used up an identity, those that follow correspond. -/
theorem refused :
    ({ world with nextTracer := world.nextTracer + 1 } : World).Paired comparison
      { other with nextTracer := other.nextTracer + 1 } where
  host := paired.host
  boundary := paired.boundary
  runtimes := paired.runtimes
  registry := paired.registry
  fresh later := by
    have corresponds := paired.fresh (later + 1)
    rwa [Nat.add_comm later, ← Nat.add_assoc, ← Nat.add_assoc] at corresponds
  emitted := paired.emitted

theorem hooked (monitor : Monitor) {overload otherOverload : Overload}
    (reference : otherOverload.reference = overload.reference)
    (declaredBody : otherOverload.declaredBody = overload.declaredBody) (path : String)
    (hook : Hook) :
    (world.hooked monitor overload path hook).Paired comparison
      (other.hooked monitor otherOverload path hook) := by
  unfold World.hooked
  rw [reference, declaredBody]
  refine paired.refused.setRegistry _ ((paired.registry _).putBody _ ?_)
  exact .traced (paired.fresh 0)

/-- An installation answers the same in both worlds. -/
theorem installHook (monitor : Monitor) (reference : OverloadRef) (path : String) (hook : Hook) :
    (other.installHook monitor reference path hook).1 =
        (world.installHook monitor reference path hook).1 ∧
      (world.installHook monitor reference path hook).2.Paired comparison
        (other.installHook monitor reference path hook).2 := by
  have related := (paired.registry monitor.runtime).overload? reference
  rcases world.installHook_cases monitor reference path hook with
    ⟨missing, ends⟩ | ⟨overload, found, isSealed, ends⟩ | ⟨overload, found, unsealed, ends⟩ <;>
  rcases other.installHook_cases monitor reference path hook with
    ⟨otherMissing, otherEnds⟩ | ⟨_, otherFound, otherSealed, otherEnds⟩ |
      ⟨_, otherFound, otherUnsealed, otherEnds⟩
  case inl.inl =>
    rw [ends, otherEnds]
    exact ⟨rfl, paired⟩
  case inl.inr.inl | inl.inr.inr =>
    rw [missing, otherFound] at related
    cases related
  case inr.inl.inl | inr.inr.inl =>
    rw [found, otherMissing] at related
    cases related
  case inr.inl.inr.inl =>
    rw [ends, otherEnds]
    exact ⟨rfl, paired.refused⟩
  case inr.inl.inr.inr =>
    rw [paired.host] at otherUnsealed
    exact absurd isSealed otherUnsealed
  case inr.inr.inr.inl =>
    rw [paired.host] at otherSealed
    exact absurd otherSealed unsealed
  case inr.inr.inr.inr =>
    rw [ends, otherEnds]
    rw [found, otherFound] at related
    cases related with
    | some related =>
      exact ⟨rfl, paired.hooked monitor related.reference related.declaredBody path hook⟩

theorem perform (effect : Effect) :
    (world.perform effect).Paired comparison (other.perform effect) := by
  cases effect with
  | hooked monitor overload path hook => exact paired.hooked monitor rfl rfl path hook
  | refused => exact paired.refused
  | diagnosed failure =>
    exact ⟨paired.host, paired.boundary, paired.runtimes, paired.registry, paired.fresh,
      paired.emitted⟩
  | probed attached probe =>
    have put := (paired.onBoundary (world.boundary.putProbe attached.address probe)).emitAll
      probe.emitter [.probeAttached (Exports.labelText attached.modulePath) attached.symbol
        attached.address]
    rw [World.perform, World.perform, paired.boundary]
    exact put

theorem performAll (effects : List Effect) :
    (world.performAll effects).Paired comparison (other.performAll effects) := by
  induction effects generalizing world other with
  | nil => exact paired
  | cons effect rest inductionHypothesis => exact inductionHypothesis (paired.perform effect)

/-- Hooking a target answers the same in both worlds. -/
theorem hookTarget (monitor : Monitor) (name : String) (hook : Hook) :
    (other.hookTarget monitor name hook).1 = (world.hookTarget monitor name hook).1 ∧
      (world.hookTarget monitor name hook).2.Paired comparison
        (other.hookTarget monitor name hook).2 := by
  obtain ⟨effects, acts⟩ := world.exists_acts_hookTarget monitor hook name
  rw [acts.acts (.refl world), acts.acts paired.sameSetting]
  exact ⟨rfl, paired.performAll effects⟩

/-- A thread of its own begins with empty stacks. -/
theorem onThread : ({ world } : State).Paired comparison { world := other } :=
  ⟨paired, rfl, fun _ => iff_of_false List.not_mem_nil List.not_mem_nil⟩

/-- Of two overloads side by side that are not set apart, both are under a tracer or none is. -/
theorem wears {runtime : RuntimeId} {reference : OverloadRef}
    (spared : ¬ comparison.apart runtime reference) {identity : Nat}
    (worn : world.Wears runtime reference identity) :
    ∃ otherIdentity, comparison.renames identity otherIdentity ∧
      other.Wears runtime reference otherIdentity := by
  obtain ⟨overload, isOverload, rfl, tracer, installed, rfl⟩ := worn
  obtain ⟨partner, isPartner, related⟩ := (paired.registry runtime).exists_partner isOverload
  have alike := related.installed spared
  rw [installed] at alike
  generalize otherInstalled : partner.installed = body at alike
  cases alike with
  | some renamed =>
    cases renamed with
    | traced corresponds =>
      exact ⟨_, corresponds, partner, isPartner, related.reference, _, otherInstalled, rfl⟩

end World.Paired

/-! ### States -/

namespace State.Paired

variable {state other : State} (paired : state.Paired comparison other)

include paired

theorem pushFrame {key otherKey : String} (same : otherKey = key) :
    (state.pushFrame key).Paired comparison (other.pushFrame otherKey) :=
  ⟨paired.world, by rw [State.pushFrame, State.pushFrame, paired.frames, same],
    paired.forwarding⟩

theorem popFrame : state.popFrame.Paired comparison other.popFrame :=
  ⟨paired.world, congrArg List.tail paired.frames, paired.forwarding⟩

theorem beginForward (unique : Relator.BiUnique comparison.renames) {identity otherIdentity : Nat}
    (related : comparison.renames identity otherIdentity) :
    (state.beginForward identity).Paired comparison (other.beginForward otherIdentity) where
  world := paired.world
  frames := paired.frames
  forwarding := by
    intro sought otherSought corresponds
    have same : sought = identity ↔ otherSought = otherIdentity := by
      constructor
      · rintro rfl
        exact unique.2 corresponds related
      · rintro rfl
        exact unique.1 corresponds related
    exact List.mem_cons.trans ((or_congr same (paired.forwarding corresponds)).trans
      List.mem_cons.symm)

/-- Where the forwarding that was begun last ends, the stacks are as they were before it. -/
theorem endForward {left otherLeft : State} (related : left.Paired comparison otherLeft)
    {identity otherIdentity : Nat} (restored : left.thread = (state.beginForward identity).thread)
    (otherRestored : otherLeft.thread = (other.beginForward otherIdentity).thread) :
    left.endForward.Paired comparison otherLeft.endForward where
  world := related.world
  frames := related.frames
  forwarding := by
    rw [State.endForward, State.endForward, restored, otherRestored]
    exact paired.forwarding

theorem emitAll (emitter : EmitterId) (events : List Event) :
    (state.emitAll emitter events).Paired comparison (other.emitAll emitter events) :=
  ⟨paired.world.emitAll emitter events, paired.frames, paired.forwarding⟩

theorem emit (emitter : EmitterId) (event : Event) :
    (state.emit emitter event).Paired comparison (other.emit emitter event) :=
  paired.emitAll emitter [event]

theorem onWorld {world otherWorld : World} (related : world.Paired comparison otherWorld) :
    ({ state with world } : State).Paired comparison { other with world := otherWorld } :=
  ⟨related, paired.frames, paired.forwarding⟩

/-- After a thread of its own, the thread goes on with the stacks that it had. -/
theorem backOnThread {finished otherFinished : State}
    (related : finished.Paired comparison otherFinished) :
    ({ finished with thread := state.thread } : State).Paired comparison
      { otherFinished with thread := other.thread } :=
  ⟨related.world, paired.frames, paired.forwarding⟩

theorem onBoundary (boundary : Boundary) :
    ({ state with world := { state.world with boundary } } : State).Paired comparison
      { other with world := { other.world with boundary } } :=
  ⟨paired.world.onBoundary boundary, paired.frames, paired.forwarding⟩

end State.Paired

end Intercept
