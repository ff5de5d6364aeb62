/-
This file compares two processes that may carry anything on some overloads, which are set apart:
nothing, tracers, or tracers whose hooks transform at will. Everything else is hooked in the same
way in both. Tracers need not have the same identities for this, not even over the same overload.
But in a state that a process comes to, identities have been issued, each for one overload. So those
of the tracers over the same overload correspond, none of them is confused with one that is still to
be issued, and the two processes are side by side.
-/
import Intercept.Proofs.Pairing

namespace Intercept

/-! ### States that a process comes to -/

namespace World

variable {world after : World}

theorem Turns.issues (turns : world.Turns after) : world.nextTracer ≤ after.nextTracer := by
  cases turns with
  | aside beside => exact Nat.le_of_eq beside.issued.symm
  | declared | replaced => exact Nat.le_refl _
  | refused | hooked => exact Nat.le_succ _

theorem Becomes.issues (becomes : world.Becomes after) : world.nextTracer ≤ after.nextTracer := by
  induction becomes with
  | refl => exact Nat.le_refl _
  | tail _ turns inductionHypothesis => exact Nat.le_trans inductionHypothesis turns.issues

theorem Issued.of_becomes (issued : world.Issued) (becomes : world.Becomes after) :
    after.Issued := by
  induction becomes with
  | refl => exact issued
  | tail _ turns inductionHypothesis => exact inductionHypothesis.of_turns turns

end World

/-- From one moment of a run to the next, the world changes by single changes. -/
theorem Moment.Leads.becomes {moment next : Moment} (leads : moment.Leads next) :
    moment.state.world.Becomes next.state.world := by
  cases leads with
  | call | frames | spawn | unprobed | dispatched | plain | straight | rewriting => exact .refl
  | called completes | spawned completes | unprobedCalled _ completes =>
    exact completes.becomes .refl
  | hook => exact (World.becomes_byHooking _ _ _).hookTarget _ [] .refl
  | install => exact (World.becomes_byHooking _ _ _).installHook [] _ _ .refl
  | define => exact .single (.declared (.declareMethod _ _ _ _))
  | probed =>
    refine .tail (.single (.aside ?_)) (.aside (.emitAll _ _ _))
    exact ⟨rfl, rfl, rfl⟩
  | probedCalled _ _ _ completes =>
    refine .tail (completes.becomes (.tail (.single (.aside ?_)) (.aside (.emitAll _ _ _))))
      (.aside (.emitAll _ _ _))
    exact ⟨rfl, rfl, rfl⟩
  | forwarding _ _ rewrote =>
    exact (rewrote.becomes .refl).tail (.aside (.emitAll _ _ _))
  | settling _ _ rewrote forwarded =>
    exact forwarded.becomes ((rewrote.becomes .refl).tail (.aside (.emitAll _ _ _)))

/-- That the identities of the tracers over overloads and of those that forward on the thread have
been issued. -/
structure State.Issued (state : State) : Prop where
  world : state.world.Issued
  forwarding : ∀ identity ∈ state.thread.forwarding, identity < state.world.nextTracer

theorem State.Issued.of_becomes {state after : State} (issued : state.Issued)
    (becomes : state.world.Becomes after.world)
    (fewer : after.thread.forwarding ⊆ state.thread.forwarding) : after.Issued where
  world := issued.world.of_becomes becomes
  forwarding identity isForwarding :=
    Nat.lt_of_lt_of_le (issued.forwarding identity (fewer isForwarding)) becomes.issues

/-- That identities have been issued at a moment, and what is called is declared. -/
structure Moment.Issued (moment : Moment) : Prop where
  state : moment.state.Issued
  present : moment.task.Present (moment.state.world.registry moment.runtime)

theorem Moment.Issued.of_leads {moment next : Moment} (leads : moment.Leads next)
    (issued : moment.Issued) : next.Issued := by
  obtain ⟨issued, present⟩ := issued
  have becomes := leads.becomes
  cases leads with
  | call | frames | hook | install | define | unprobed | spawned | probed =>
    exact ⟨issued.of_becomes becomes (List.Subset.refl _), trivial⟩
  | plain | straight | rewriting => exact ⟨issued.of_becomes becomes (List.Subset.refl _), trivial⟩
  | spawn => exact ⟨issued.of_becomes becomes (List.nil_subset _), trivial⟩
  | called completes | unprobedCalled _ completes =>
    refine ⟨issued.of_becomes becomes ?_, trivial⟩
    rw [completes.thread]
    exact List.Subset.refl _
  | probedCalled _ _ _ completes =>
    refine ⟨issued.of_becomes becomes ?_, trivial⟩
    rw [State.emitAll, completes.thread]
    exact List.Subset.refl _
  | @dispatched _ callee _ _ _ _ _ _ found =>
    exact ⟨issued.of_becomes becomes (List.Subset.refl _), callee.mem_of_find? found⟩
  | @forwarding runtime overload tracer _ _ _ _ state _ _ _ force _ rewrote =>
    -- The tracer that begins to forward has been issued before the call.
    have worn : state.world.Wears runtime overload.reference tracer.identity :=
      ⟨overload, present, rfl, tracer, Overload.installed_of_traced force, rfl⟩
    refine ⟨⟨issued.world.of_becomes becomes, fun identity isForwarding => ?_⟩, trivial⟩
    refine Nat.lt_of_lt_of_le ?_ becomes.issues
    rcases List.mem_cons.mp isForwarding with rfl | isEarlier
    · exact issued.world.before worn
    · rw [State.emitAll, rewrote.thread] at isEarlier
      exact issued.forwarding identity isEarlier
  | settling _ _ rewrote forwarded =>
    refine ⟨issued.of_becomes becomes ?_, trivial⟩
    rw [State.endForward, forwarded.thread, State.beginForward, State.emitAll, rewrote.thread]
    exact List.Subset.refl _

/-- That a process comes to a state, on one of its threads: at a moment of a run that begins with a
request. -/
def State.Attainable (state : State) : Prop :=
  ∃ (world : World) (request : Request) (moment : Moment), world.Reachable ∧
    (request.begun { world }).Arrives moment ∧ moment.state = state

theorem State.Attainable.issued {state : State} (attainable : state.Attainable) :
    state.Issued := by
  obtain ⟨world, request, moment, reachable, arrives, rfl⟩ := attainable
  have begun : (request.begun { world }).Issued :=
    ⟨⟨reachable.issued, fun _ isForwarding => nomatch isForwarding⟩, trivial⟩
  exact (arrives.keeps Moment.Issued.of_leads begun).state

/-- A process comes to the states in which calls from outside are made. -/
theorem World.Reachable.attainable {world : World} (reachable : world.Reachable) :
    ({ world } : State).Attainable :=
  ⟨world, ⟨0, .method "" "", .null, []⟩, _, reachable, .refl, rfl⟩

/-! ### States that are alike outside some overloads -/

namespace Registry

/-- The body that is installed over an overload. -/
def bodyOver? (registry : Registry) (reference : OverloadRef) : Option BodyInForce :=
  (registry.overload? reference).bind Overload.installed

theorem Distinct.bodyOver? {registry : Registry} (distinct : registry.Distinct)
    {overload : Overload} (isOverload : overload ∈ registry.overloads) :
    registry.bodyOver? overload.reference = overload.installed := by
  obtain ⟨found, finds⟩ := exists_overload? (List.mem_map_of_mem isOverload)
  obtain rfl := distinct.eq_of_overload? isOverload rfl finds
  exact congrArg (Option.bind · Overload.installed) finds

end Registry

/-- Installed bodies that are the same up to one renaming of identities are so up to another one, if
it renames the identities of tracers. -/
theorem BodyInForce.Renamed.exchange {renames renamesToo : Nat → Nat → Prop}
    {body other : Option BodyInForce}
    (related : Option.Rel (BodyInForce.Renamed renames) body other)
    (corresponds : ∀ {tracer otherTracer}, body = some (.traced tracer) →
      other = some (.traced otherTracer) → renamesToo tracer.identity otherTracer.identity) :
    Option.Rel (BodyInForce.Renamed renamesToo) body other := by
  cases related with
  | none => exact .none
  | some renamed =>
    cases renamed with
    | plain => exact .some .plain
    | traced => exact .some (.traced (corresponds rfl rfl))

/-- That two worlds differ at most in what is installed over overloads that are set apart, in the
identities of tracers, and in what has been emitted and reported. -/
structure World.AlikeOutside (apart : RuntimeId → OverloadRef → Prop) (world other : World) : Prop
    extends world.SameSetting other where
  boundary : other.boundary = world.boundary
  runtimes : world.registries.length = other.registries.length
  hooked : ∀ {runtime reference}, ¬ apart runtime reference →
    Option.Rel (BodyInForce.Renamed fun _ _ => True)
      ((world.registry runtime).bodyOver? reference)
      ((other.registry runtime).bodyOver? reference)

/-- That the tracer over an overload is forwarding on the thread. -/
def State.Forwards (state : State) (runtime : RuntimeId) (reference : OverloadRef) : Prop :=
  ∃ identity ∈ state.thread.forwarding, state.world.Wears runtime reference identity

/-- That two states are alike outside the overloads that are set apart: their worlds are, the
frames of their threads are the same, and so are the tracers over other overloads that forward. -/
structure State.AlikeOutside (apart : RuntimeId → OverloadRef → Prop) (state other : State) :
    Prop where
  world : state.world.AlikeOutside apart other.world
  frames : other.thread.frames = state.thread.frames
  forwarding : ∀ {runtime reference}, ¬ apart runtime reference →
    (state.Forwards runtime reference ↔ other.Forwards runtime reference)

variable {apart : RuntimeId → OverloadRef → Prop}

namespace World

variable {world other : World}

/-- An installation leaves what is over other overloads. -/
theorem bodyOver?_hooked_other (world : World) {monitor : Monitor} {overload : Overload}
    {path : String} {hook : Hook} {runtime : RuntimeId} {reference : OverloadRef}
    (different : runtime = monitor.runtime → reference ≠ overload.reference) :
    ((world.hooked monitor overload path hook).registry runtime).bodyOver? reference =
      (world.registry runtime).bodyOver? reference := by
  rcases World.registry_setRegistry_cases { world with nextTracer := world.nextTracer + 1 }
    monitor.runtime runtime _ with reads | ⟨same, reads⟩ <;> rw [World.hooked, reads]
  · rfl
  · rw [Registry.bodyOver?, Registry.overload?_putBody_other _ _ (different same), same,
      Registry.bodyOver?]

theorem AlikeOutside.refl (world : World) : world.AlikeOutside apart world where
  toSameSetting := .refl world
  boundary := rfl
  runtimes := rfl
  hooked {runtime reference} _ := by
    rcases (world.registry runtime).bodyOver? reference with - | body | tracer
    · exact .none
    · exact .some .plain
    · exact .some (.traced trivial)

/-- What is installed over an overload that is set apart does not matter. -/
theorem AlikeOutside.installHook (alike : world.AlikeOutside apart other) {monitor : Monitor}
    {reference : OverloadRef} (isApart : apart monitor.runtime reference) (path : String)
    (hook : Hook) :
    world.AlikeOutside apart (other.installHook monitor reference path hook).2 := by
  rcases other.installHook_cases monitor reference path hook with
    ⟨-, ends⟩ | ⟨_, -, -, ends⟩ | ⟨overload, found, -, ends⟩ <;> rw [ends]
  · exact alike
  · exact ⟨alike.toSameSetting.trans ⟨.of_registries rfl, rfl⟩, alike.boundary, alike.runtimes,
      alike.hooked⟩
  · refine ⟨alike.toSameSetting.trans (.hooked other monitor overload path hook), alike.boundary,
      ?_, fun {runtime sought} spared => ?_⟩
    · rw [World.hooked, setRegistry, List.length_set]
      exact alike.runtimes
    · rw [other.bodyOver?_hooked_other fun same isReference => spared ?_]
      · exact alike.hooked spared
      · rw [same, isReference, Registry.reference_of_overload? found]
        exact isApart

/-! ### Identities that correspond -/

/-- That two identities are those of the tracers over one overload in two worlds, which is not set
apart, or are issued equally late after the worlds. -/
def Counterparts (apart : RuntimeId → OverloadRef → Prop) (world other : World)
    (identity otherIdentity : Nat) : Prop :=
  (∃ runtime reference, ¬ apart runtime reference ∧ world.Wears runtime reference identity ∧
    other.Wears runtime reference otherIdentity) ∨
  ∃ later, identity = world.nextTracer + later ∧ otherIdentity = other.nextTracer + later

theorem Counterparts.symm {identity otherIdentity : Nat}
    (counterparts : Counterparts apart world other identity otherIdentity) :
    Counterparts apart other world otherIdentity identity := by
  rcases counterparts with
    ⟨runtime, reference, spared, worn, otherWorn⟩ | ⟨later, isLater, isOtherLater⟩
  · exact .inl ⟨runtime, reference, spared, otherWorn, worn⟩
  · exact .inr ⟨later, isOtherLater, isLater⟩

/-- An overload has one tracer over it at most. -/
theorem Issued.eq_of_wears (issued : world.Issued) {runtime : RuntimeId} {reference : OverloadRef}
    {identity otherIdentity : Nat} (worn : world.Wears runtime reference identity)
    (otherWorn : world.Wears runtime reference otherIdentity) : identity = otherIdentity := by
  obtain ⟨overload, isOverload, same, tracer, installed, rfl⟩ := worn
  obtain ⟨another, isAnother, sameReference, otherTracer, otherInstalled, rfl⟩ := otherWorn
  obtain rfl : overload = another :=
    List.inj_on_of_nodup_map (issued.coherent runtime).distinct isOverload isAnother
      (same.trans sameReference.symm)
  cases installed.symm.trans otherInstalled
  rfl

/-- An identity that is over an overload has been issued, so it is none of those to come. -/
theorem Counterparts.leftUnique (issued : world.Issued) (otherIssued : other.Issued) :
    Relator.LeftUnique (Counterparts apart world other) := by
  rintro first second common
    (⟨runtime, reference, -, worn, otherWorn⟩ | ⟨later, rfl, rfl⟩)
    (⟨_, _, -, wornToo, otherWornToo⟩ | ⟨laterToo, rfl, same⟩)
  · obtain ⟨rfl, rfl⟩ := otherIssued.once otherWorn otherWornToo
    exact issued.eq_of_wears worn wornToo
  · have before := otherIssued.before otherWorn
    omega
  · have before := otherIssued.before otherWornToo
    omega
  · omega

theorem Counterparts.biUnique (issued : world.Issued) (otherIssued : other.Issued) :
    Relator.BiUnique (Counterparts apart world other) :=
  ⟨leftUnique issued otherIssued,
    fun _ _ _ first second => leftUnique otherIssued issued first.symm second.symm⟩

/-- Worlds in which identities have been issued once, and that are alike outside some overloads,
are side by side. -/
theorem AlikeOutside.paired (alike : world.AlikeOutside apart other) (issued : world.Issued)
    (otherIssued : other.Issued) :
    world.Paired
      ⟨Counterparts apart world other, apart, world.sink.emissions, other.sink.emissions⟩
      other where
  host := alike.host
  boundary := alike.boundary
  runtimes := alike.runtimes
  registry runtime := by
    refine ⟨alike.classes runtime, forall₂_of_declarations (alike.declarations runtime).symm
      fun left isLeft right isRight reference declaredBody =>
        ⟨reference.symm, declaredBody.symm, fun spared => ?_⟩⟩
    have related := alike.hooked spared
    rw [(issued.coherent runtime).distinct.bodyOver? isLeft, reference,
      (otherIssued.coherent runtime).distinct.bodyOver? isRight] at related
    refine BodyInForce.Renamed.exchange related fun isTraced isOtherTraced =>
      .inl ⟨runtime, left.reference, spared, ?_, ?_⟩
    · exact ⟨left, isLeft, rfl, _, isTraced, rfl⟩
    · exact ⟨right, isRight, reference.symm, _, isOtherTraced, rfl⟩
  fresh later := .inr ⟨later, rfl, rfl⟩
  emitted := ⟨[], (List.append_nil _).symm, (List.append_nil _).symm⟩

variable {comparison : Comparison}

/-- Worlds side by side are alike outside the overloads that are set apart. -/
theorem Paired.alikeOutside (paired : world.Paired comparison other) :
    world.AlikeOutside comparison.apart other where
  toSameSetting := paired.sameSetting
  boundary := paired.boundary
  runtimes := paired.runtimes
  hooked {runtime reference} spared := by
    have related := (paired.registry runtime).overload? reference
    rw [Registry.bodyOver?, Registry.bodyOver?]
    cases found : (world.registry runtime).overload? reference with
    | none =>
      rw [found] at related
      generalize (other.registry runtime).overload? reference = sought at related
      cases related
      exact .none
    | some overload =>
      rw [found] at related
      generalize (other.registry runtime).overload? reference = sought at related
      cases related with
      | some related =>
        rw [← Registry.reference_of_overload? found] at spared
        exact BodyInForce.Renamed.exchange (related.installed spared) fun _ _ => trivial

end World

/-- On threads of their own, nothing forwards in either world. -/
theorem World.AlikeOutside.onThread {world other : World} (alike : world.AlikeOutside apart other) :
    State.AlikeOutside apart { world } { world := other } where
  world := alike
  frames := rfl
  forwarding _ := iff_of_false (fun ⟨_, isForwarding, _⟩ => nomatch isForwarding)
    fun ⟨_, isForwarding, _⟩ => nomatch isForwarding

namespace State

variable {state other : State}

theorem Issued.forwards_iff (issued : state.Issued) {runtime : RuntimeId}
    {reference : OverloadRef} {identity : Nat}
    (worn : state.world.Wears runtime reference identity) :
    state.Forwards runtime reference ↔ identity ∈ state.thread.forwarding := by
  constructor
  · rintro ⟨other, isForwarding, otherWorn⟩
    exact issued.world.eq_of_wears worn otherWorn ▸ isForwarding
  · exact fun isForwarding => ⟨identity, isForwarding, worn⟩

/-- States that are alike outside some overloads are side by side. -/
theorem AlikeOutside.paired (alike : state.AlikeOutside apart other) (issued : state.Issued)
    (otherIssued : other.Issued) :
    state.Paired
      ⟨World.Counterparts apart state.world other.world, apart, state.world.sink.emissions,
        other.world.sink.emissions⟩ other where
  world := alike.world.paired issued.world otherIssued.world
  frames := alike.frames
  forwarding := by
    rintro identity otherIdentity
      (⟨runtime, reference, spared, worn, otherWorn⟩ | ⟨later, rfl, rfl⟩)
    · rw [← issued.forwards_iff worn, ← otherIssued.forwards_iff otherWorn]
      exact alike.forwarding spared
    · refine iff_of_false (fun isForwarding => ?_) fun isForwarding => ?_
      · exact absurd (issued.forwarding _ isForwarding) (Nat.not_lt.mpr (Nat.le_add_right _ _))
      · exact absurd (otherIssued.forwarding _ isForwarding)
          (Nat.not_lt.mpr (Nat.le_add_right _ _))

variable {comparison : Comparison}

theorem Paired.forwards (paired : state.Paired comparison other) {runtime : RuntimeId}
    {reference : OverloadRef} (spared : ¬ comparison.apart runtime reference)
    (forwards : state.Forwards runtime reference) : other.Forwards runtime reference := by
  obtain ⟨identity, isForwarding, worn⟩ := forwards
  obtain ⟨otherIdentity, corresponds, otherWorn⟩ := paired.world.wears spared worn
  exact ⟨otherIdentity, (paired.forwarding corresponds).mp isForwarding, otherWorn⟩

/-- States side by side are alike outside the overloads that are set apart. -/
theorem Paired.alikeOutside (paired : state.Paired comparison other) :
    state.AlikeOutside comparison.apart other where
  world := paired.world.alikeOutside
  frames := paired.frames
  forwarding spared := ⟨paired.forwards spared, paired.symm.forwards spared⟩

end State

end Intercept
