/-
This file proves how far the guard against tracing twice reaches. A tracer that forwards a call is
on the stack of the thread by its identity, and a hook that is installed meanwhile gets a tracer
with an identity of its own. So what a nested call of the same overload meets is either the
forwarding tracer, and then the call goes straight to the declared body, or a tracer that was put
over the overload since the outer call was made. The newer tracer traces the nested call, once,
and goes straight from then on.
-/
import Intercept.Proofs.Reentrancy

namespace Intercept

/-! ### What runs keep, at every moment -/

/-- What installing hooks keeps of a world is kept from one moment of a run to the next. -/
theorem Moment.Leads.keeps {property : World → Prop} (kept : Kept True property)
    {moment next : Moment} (leads : moment.Leads next) (holds : property moment.state.world) :
    property next.state.world := by
  cases leads with
  | call | frames | spawn | unprobed | dispatched | plain | straight | rewriting => exact holds
  | called completes | unprobedCalled _ completes | spawned completes =>
    exact completes.keeps kept (.inl trivial) holds
  | hook => exact (kept.byHooking trivial _ _).hookTarget _ [] holds
  | install => exact (kept.byHooking trivial _ _).installHook [] _ _ holds
  | define => exact kept.declared (Registry.declareMethod_declares _ _ _ _ (.inl trivial)) holds
  | probed probed begun => exact kept.emitAll _ _ (kept.crossed probed begun holds)
  | probedCalled probed begun _ completes =>
    exact kept.emitAll _ _ (completes.keeps kept (.inl trivial)
      (kept.emitAll _ _ (kept.crossed probed begun holds)))
  | forwarding _ _ rewrote =>
    exact kept.emitAll _ _ (rewrote.keeps kept (.inl trivial) holds)
  | settling _ _ rewrote forwarded =>
    exact forwarded.keeps kept (.inl trivial)
      (kept.emitAll _ _ (rewrote.keeps kept (.inl trivial) holds))

theorem Moment.Arrives.keeps_world {property : World → Prop} (kept : Kept True property)
    {start moment : Moment} (arrives : start.Arrives moment)
    (holds : property start.state.world) : property moment.state.world := by
  induction arrives with
  | refl => exact holds
  | tail _ leads inductionHypothesis => exact leads.keeps kept inductionHypothesis

/-- However a process has evolved, a call that is made in it begins soundly. -/
theorem Evolves.sound {permitted : Operation → Prop} {host : Host} {runtimes : Nat}
    {log : List Installation} {start : State}
    (evolves : Evolves permitted (State.initial host runtimes) log start) (runtime : RuntimeId)
    (callee : Callee) (receiver : Value) (arguments : List Value) :
    Moment.Sound ⟨runtime, .dispatch callee receiver arguments, start, [], []⟩ where
  minted := evolves.keeps (World.Minted.kept []) (World.minted_initial host runtimes)
  stacked :=
    ⟨congrArg Thread.frames evolves.thread, congrArg Thread.forwarding evolves.thread⟩
  present := trivial

/-! ### Renewed tracers -/

/-- That an overload carries a tracer that it carried when an identity was about to be issued, or
one that has been put over it since. -/
structure World.Renews (runtime : RuntimeId) (reference : OverloadRef) (tracer : Tracer)
    (issued : Nat) (world : World) : Prop where
  pristine : world.Pristine
  later : issued ≤ world.nextTracer
  declared : reference ∈ (world.registry runtime).overloads.map Overload.reference
  carries : ∀ overload ∈ (world.registry runtime).overloads, overload.reference = reference →
    ∃ current, overload.installed = some (.traced current) ∧
      (current = tracer ∨ issued ≤ current.identity)

namespace World.Renews

variable {runtime : RuntimeId} {reference : OverloadRef} {tracer : Tracer} {issued : Nat}

/-- Whatever a run does, a tracer makes way for newer tracers only. -/
theorem kept (runtime : RuntimeId) (reference : OverloadRef) (tracer : Tracer) (issued : Nat) :
    Kept True (World.Renews runtime reference tracer issued) where
  quiet _ := .inl trivial
  aside := by
    intro world other holds same sameNext sameBoundary
    have reads := World.registry_congr same
    exact ⟨World.Pristine.kept.aside holds.pristine same sameNext sameBoundary,
      sameNext ▸ holds.later, reads ▸ holds.declared, reads ▸ holds.carries⟩
  crossed probed begun holds :=
    ⟨World.Pristine.kept.crossed probed begun holds.pristine, holds.later, holds.declared,
      holds.carries⟩
  declared := by
    intro world declaring registry declares holds
    refine ⟨World.Pristine.kept.declared declares holds.pristine, holds.later,
      World.references_declared declares runtime holds.declared, ?_⟩
    intro overload member same
    rcases World.mem_declared declares member with before | ⟨_, _, free, -, rfl⟩
    · exact holds.carries overload before same
    · cases same
      exact absurd holds.declared (Registry.overload?_eq_none_iff.mp free)
  hooked := by
    intro world monitor sought overload path hook _ found holds
    refine ⟨World.Pristine.kept.hooked trivial found holds.pristine,
      Nat.le_succ_of_le holds.later, ?_, ?_⟩
    · rw [Registry.references_eq, World.declarations_hooked found, ← Registry.references_eq]
      exact holds.declared
    · intro after member same
      rcases World.mem_hooked (holds.pristine.distinct _) found member with
        ⟨before, -⟩ | ⟨-, rfl⟩
      · exact holds.carries after before same
      · exact ⟨_, rfl, .inr holds.later⟩
  refused _ holds :=
    ⟨World.Pristine.kept.refused trivial holds.pristine, Nat.le_succ_of_le holds.later,
      holds.declared, holds.carries⟩

/-- At a call of an overload, the tracer in force is the one that it carries. -/
theorem of_sound {overload : Overload} {receiver : Value} {arguments : List Value}
    {state : State} {calls : List OpenCall} {observed : List Observation}
    (sound : Moment.Sound ⟨runtime, .call overload receiver arguments, state, calls, observed⟩)
    (force : overload.bodyInForce = .traced tracer) :
    state.world.Renews runtime overload.reference tracer state.world.nextTracer where
  pristine := sound.minted.pristine
  later := Nat.le_refl _
  declared := List.mem_map_of_mem sound.present
  carries other member same := by
    have itself := List.inj_on_of_nodup_map (sound.minted.pristine.distinct runtime) member
      sound.present same
    exact ⟨tracer, itself ▸ Overload.installed_of_traced force, .inl rfl⟩

/-- An overload that carries a tracer has it in force. -/
theorem force {world : World} (renews : world.Renews runtime reference tracer issued)
    {overload : Overload} (member : overload ∈ (world.registry runtime).overloads)
    (same : overload.reference = reference) :
    ∃ current, overload.bodyInForce = .traced current ∧
      (current = tracer ∨ issued ≤ current.identity) := by
  obtain ⟨current, installed, newer⟩ := renews.carries overload member same
  exact ⟨current, by rw [Overload.bodyInForce, installed, Option.getD_some], newer⟩

end World.Renews

/-! ### The rule for nested calls -/

/-- That a call which reaches a tracer goes straight to the declared body and leaves no mark of its
own. -/
def Overload.Untraced (overload : Overload) (runtime : RuntimeId) (receiver : Value)
    (arguments : List Value) (state : State) : Prop :=
  overload.GoesStraight runtime receiver arguments state ∧
    ∀ episodes outcome after,
      Completes runtime (.call overload receiver arguments) state episodes outcome after →
        ∃ episode, episodes = [episode] ∧ episode.ownMarks = []

/-- A call whose tracer is forwarding an open call of the overload is not traced. -/
theorem Moment.Sound.untraced {runtime : RuntimeId} {overload : Overload} {tracer : Tracer}
    {receiver : Value} {arguments : List Value} {state : State} {calls : List OpenCall}
    {observed : List Observation}
    (sound : Moment.Sound ⟨runtime, .call overload receiver arguments, state, calls, observed⟩)
    (force : overload.bodyInForce = .traced tracer)
    (isOpen : ⟨runtime, overload.reference, some tracer⟩ ∈ calls) :
    overload.Untraced runtime receiver arguments state := by
  have busy := (sound.busy_iff force).mpr isOpen
  obtain ⟨other, same, wraps⟩ := sound.minted.pristine.wraps runtime overload sound.present _
    (Overload.installed_of_traced force)
  cases same
  refine ⟨Overload.goesStraight force wraps busy, fun episodes outcome after completes => ?_⟩
  obtain ⟨episode, single, -, nothing⟩ := completes.enters_iff force
  exact ⟨episode, single, nothing busy⟩

/-- While a tracer forwards a call, a nested call of the same overload on the same thread goes
straight to the declared body, unless the overload has been hooked again since the outer call was
made. Then it is traced by the newer tracer, if this one is not forwarding on the thread as well. -/
theorem nested_calls_go_straight_unless_renewed {permitted : Operation → Prop} {host : Host}
    {runtimes : Nat} {log : List Installation} {start : State}
    (evolves : Evolves permitted (State.initial host runtimes) log start)
    {first : RuntimeId} {callee : Callee} {receiver : Value} {arguments : List Value}
    {runtime : RuntimeId} {outer : Overload} {outerReceiver : Value}
    {outerArguments : List Value} {state : State} {calls : List OpenCall}
    {observed : List Observation}
    (reaches : Moment.Arrives ⟨first, .dispatch callee receiver arguments, start, [], []⟩
      ⟨runtime, .call outer outerReceiver outerArguments, state, calls, observed⟩)
    {tracer : Tracer} {body : Procedure} {forwarding : State} {seen : List Observation}
    (forwards : Moment.Leads
      ⟨runtime, .call outer outerReceiver outerArguments, state, calls, observed⟩
      ⟨runtime, .procedure body, forwarding, ⟨runtime, outer.reference, some tracer⟩ :: calls,
        seen⟩)
    {inner : Overload} {innerReceiver : Value} {innerArguments : List Value}
    {innerState : State} {innerCalls : List OpenCall} {innerObserved : List Observation}
    (nests : Moment.Arrives
      ⟨runtime, .procedure body, forwarding, ⟨runtime, outer.reference, some tracer⟩ :: calls,
        seen⟩
      ⟨runtime, .call inner innerReceiver innerArguments, innerState, innerCalls, innerObserved⟩)
    (same : inner.reference = outer.reference)
    (still : ⟨runtime, outer.reference, some tracer⟩ ∈ innerCalls) :
    inner.Untraced runtime innerReceiver innerArguments innerState ∨
      ∃ renewed, inner.bodyInForce = .traced renewed ∧
        state.world.nextTracer ≤ renewed.identity ∧
        ⟨runtime, inner.reference, some renewed⟩ ∉ innerCalls ∧
        inner.GoesTraced renewed runtime innerReceiver innerArguments innerState := by
  have outerSound := reaches.keeps Moment.Sound.of_leads (evolves.sound first callee _ _)
  have innerSound := nests.keeps Moment.Sound.of_leads (Moment.Sound.of_leads forwards outerSound)
  have force : outer.bodyInForce = .traced tracer := by
    cases forwards
    assumption
  have kept := World.Renews.kept runtime outer.reference tracer state.world.nextTracer
  have renews := nests.keeps_world kept (forwards.keeps kept (.of_sound outerSound force))
  obtain ⟨current, inForce, newer⟩ := renews.force innerSound.present same
  by_cases isOpen : ⟨runtime, inner.reference, some current⟩ ∈ innerCalls
  · exact .inl (innerSound.untraced inForce isOpen)
  · have isNewer : state.world.nextTracer ≤ current.identity :=
      newer.resolve_left fun isTracer => isOpen (by rwa [isTracer, same])
    exact .inr ⟨current, inForce, isNewer, isOpen,
      Overload.goesTraced inForce (mt (innerSound.busy_iff inForce).mp isOpen)⟩

/-- A body that hooks its own method again and calls it, twice over. -/
def renewBody : Body
  | .null, _ => .install none 0 ⟨"Loop", "run", ⟨[]⟩⟩ "Loop.run" {} fun _ =>
      .call none "Loop" "run" (.bool true) [] .finish
  | .bool true, _ => .call none "Loop" "run" (.bool false) [] .finish
  | _, _ => .pure .null

/-- A tracer over this body. -/
def renewTracer (identity : Nat) : Tracer :=
  ⟨identity, 0, "Loop.run", {}, renewBody⟩

/-- The overload with this body, under such a tracer. -/
def renewOverload (identity : Nat) : Overload :=
  ⟨⟨"Loop", "run", ⟨[]⟩⟩, renewBody, some (.traced (renewTracer identity))⟩

/-- The process with this overload, hooked once. -/
def renewState : State :=
  { world := { registries := [⟨[⟨"Loop", ["run"]⟩], [renewOverload 1]⟩], nextTracer := 2 } }

theorem renewState_evolves :
    ∃ log, Evolves (fun _ => True) (State.initial {} 1) log renewState := by
  have declared : (Operation.declareMethod 0 "Loop" "run" [] renewBody).Leads
      (State.initial {} 1) [] _ := .declareMethod
  exact ⟨_, .step (.step .start trivial declared) trivial
    (.install : (Operation.install ⟨0, 0⟩ ⟨"Loop", "run", ⟨[]⟩⟩ "Loop.run" {}).Leads _ _ _)⟩

/-- The state in which a tracer begins to forward a call. -/
def renewForwarding (state : State) (identity : Nat) : State :=
  ((state.pushFrame (renewOverload identity).reference.key).emitAll 0
    [.entered "Loop.run" [] none]).beginForward identity

theorem renew_forwards {state : State} {identity : Nat} (receiver : Value)
    {calls : List OpenCall} {observed : List Observation}
    (idle : identity ∉ state.thread.forwarding) :
    ∃ seen, Moment.Leads ⟨0, .call (renewOverload identity) receiver [], state, calls, observed⟩
      ⟨0, .procedure (renewBody receiver []), renewForwarding state identity,
        ⟨0, (renewOverload identity).reference, some (renewTracer identity)⟩ :: calls, seen⟩ := by
  have force : (renewOverload identity).bodyInForce = .traced (renewTracer identity) := rfl
  exact ⟨_, .forwarding force idle .finish⟩

/-- The state after the body has hooked its method again. -/
def renewedState : State :=
  let state := renewForwarding renewState 1
  { state with
    world := (state.world.installHook ⟨0, 0⟩ ⟨"Loop", "run", ⟨[]⟩⟩ "Loop.run" {}).2 }

theorem renew_nests {calls : List OpenCall} {observed : List Observation} :
    Moment.Arrives
      ⟨0, .procedure (renewBody .null []), renewForwarding renewState 1, calls, observed⟩
      ⟨0, .call (renewOverload 2) (.bool true) [], renewedState, calls, observed⟩ :=
  ((Relation.ReflTransGen.single .install).tail .call).tail (.dispatched rfl)

/-- A nested call is traced although a tracer is forwarding the outer call of the same overload:
the body has hooked its own method again. -/
theorem renewed_tracer_traces_nested_call :
    ∃ log seen calls observed episode outcome after,
      Evolves (fun _ => True) (State.initial {} 1) log renewState ∧
      Moment.Arrives ⟨0, .dispatch (.method "Loop" "run") .null [], renewState, [], []⟩
        ⟨0, .call (renewOverload 1) .null [], renewState, [], []⟩ ∧
      Moment.Leads ⟨0, .call (renewOverload 1) .null [], renewState, [], []⟩
        ⟨0, .procedure (renewBody .null []), renewForwarding renewState 1,
          [⟨0, (renewOverload 1).reference, some (renewTracer 1)⟩], seen⟩ ∧
      Moment.Arrives
        ⟨0, .procedure (renewBody .null []), renewForwarding renewState 1,
          [⟨0, (renewOverload 1).reference, some (renewTracer 1)⟩], seen⟩
        ⟨0, .call (renewOverload 2) (.bool true) [], renewedState, calls, observed⟩ ∧
      (renewOverload 2).reference = (renewOverload 1).reference ∧
      ⟨0, (renewOverload 1).reference, some (renewTracer 1)⟩ ∈ calls ∧
      Completes 0 (.call (renewOverload 2) (.bool true) []) renewedState [episode] outcome after ∧
      episode.Enters (renewTracer 2) ∧
      ¬ (renewOverload 2).Untraced 0 (.bool true) [] renewedState := by
  obtain ⟨log, evolves⟩ := renewState_evolves
  have free : 1 ∉ renewState.thread.forwarding := List.not_mem_nil
  obtain ⟨seen, forwards⟩ := renew_forwards .null free
  obtain ⟨episodes, completes⟩ := Task.completes
    (show Task.perform 9 0 (.call (renewOverload 2) (.bool true) []) renewedState = some _ from rfl)
  obtain ⟨episode, rfl, enters, -⟩ := completes.enters_iff rfl
  have idle : (renewTracer 2).identity ∉ renewedState.thread.forwarding := by decide
  have isEntered := enters.mpr idle
  refine ⟨log, seen, _, _, episode, _, _, evolves, .single (.dispatched rfl), forwards,
    renew_nests, rfl, List.mem_cons_self, completes, isEntered, fun untraced => ?_⟩
  obtain ⟨other, same, unmarked⟩ := untraced.2 _ _ _ completes
  obtain ⟨arguments, changed, isMark⟩ := isEntered
  cases same
  rw [unmarked] at isMark
  cases isMark

theorem renew_nests_again {calls : List OpenCall} {observed : List Observation} :
    Moment.Arrives
      ⟨0, .procedure (renewBody (.bool true) []), renewForwarding renewedState 2, calls, observed⟩
      ⟨0, .call (renewOverload 2) (.bool false) [], renewForwarding renewedState 2, calls,
        observed⟩ :=
  (Relation.ReflTransGen.single .call).tail (.dispatched rfl)

/-- One call further inside, the newer tracer is forwarding as well, and the call goes straight to
the body. -/
theorem nested_calls_go_straight_unless_renewed_loop :
    ∃ log seen state calls observed,
      Evolves (fun _ => True) (State.initial {} 1) log renewState ∧
      Moment.Arrives ⟨0, .dispatch (.method "Loop" "run") .null [], renewState, [], []⟩
        ⟨0, .call (renewOverload 1) .null [], renewState, [], []⟩ ∧
      Moment.Leads ⟨0, .call (renewOverload 1) .null [], renewState, [], []⟩
        ⟨0, .procedure (renewBody .null []), renewForwarding renewState 1,
          [⟨0, (renewOverload 1).reference, some (renewTracer 1)⟩], seen⟩ ∧
      Moment.Arrives
        ⟨0, .procedure (renewBody .null []), renewForwarding renewState 1,
          [⟨0, (renewOverload 1).reference, some (renewTracer 1)⟩], seen⟩
        ⟨0, .call (renewOverload 2) (.bool false) [], state, calls, observed⟩ ∧
      (renewOverload 2).reference = (renewOverload 1).reference ∧
      ⟨0, (renewOverload 1).reference, some (renewTracer 1)⟩ ∈ calls ∧
      (renewOverload 2).Untraced 0 (.bool false) [] state := by
  obtain ⟨log, evolves⟩ := renewState_evolves
  have free : 1 ∉ renewState.thread.forwarding := List.not_mem_nil
  obtain ⟨seen, forwards⟩ := renew_forwards .null free
  have idle : 2 ∉ renewedState.thread.forwarding := by decide
  obtain ⟨_, again⟩ := renew_forwards (.bool true) idle
  have reaches : Moment.Arrives ⟨0, .dispatch (.method "Loop" "run") .null [], renewState, [], []⟩
      ⟨0, .call (renewOverload 1) .null [], renewState, [], []⟩ := .single (.dispatched rfl)
  have nests := (renew_nests.tail again).trans renew_nests_again
  have still := List.mem_cons_of_mem
    (⟨0, (renewOverload 2).reference, some (renewTracer 2)⟩ : OpenCall)
    (List.mem_singleton_self
      (⟨0, (renewOverload 1).reference, some (renewTracer 1)⟩ : OpenCall))
  refine ⟨log, seen, _, _, _, evolves, reaches, forwards, nests, rfl, still, ?_⟩
  refine (nested_calls_go_straight_unless_renewed evolves reaches forwards nests rfl
    still).resolve_right ?_
  rintro ⟨renewed, force, -, notOpen, -⟩
  cases force
  exact notOpen List.mem_cons_self

end Intercept
