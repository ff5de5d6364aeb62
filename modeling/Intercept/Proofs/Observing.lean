/-
This file compares runs by what bodies observe: with which receivers and arguments they are
started, in which order, and which frames they read. A tracer that transforms nothing goes
through the declared body in the same frame whether it is forwarding already or not, so bodies
cannot tell whether overloads have such tracers over them.
-/
import Intercept.Proofs.Shadowing

namespace Intercept

/-! ### Hooks that only trace -/

theorem Tracer.rewriting_of_onlyTraces {tracer : Tracer} (only : tracer.hook.OnlyTraces)
    (arguments : List Value) :
    tracer.rewriting arguments = .finish (.returned (.list arguments)) := by
  rw [rewriting, only.arguments]
  rfl

theorem Tracer.settling_of_onlyTraces {tracer : Tracer} (only : tracer.hook.OnlyTraces)
    (outcome : Outcome) : tracer.settling outcome = .finish outcome := by
  cases outcome with
  | returned value =>
    rw [settling, only.result]
    rfl
  | raised fault => rfl

/-- After a settlement that changes nothing, the caller gets what the declared body gave. -/
theorem Passage.result_of_delivery {passage : Passage}
    (delivers : passage.delivery = passage.outcome) : passage.result = passage.outcome := by
  cases ends : passage.outcome with
  | returned value =>
    rw [result, ends, delivers, ends]
    rfl
  | raised fault => rw [result, ends]

/-! ### Transparent overloads -/

/-- That the declared body of an overload installs nothing, and that whatever is installed over
it only traces. -/
structure Overload.Transparent (overload : Overload) : Prop where
  quiet : Body.Quiet overload.declaredBody
  installed : ∀ body ∈ overload.installed, ∃ tracer,
    body = .traced tracer ∧ tracer.declaredBody = overload.declaredBody ∧
      tracer.hook.OnlyTraces

/-- Runs are compared by what bodies observe, between transparent overloads with the same
declared body. The forwarding stacks may differ. -/
def observing : Likeness where
  overloads overload other :=
    overload.reference = other.reference ∧ overload.declaredBody = other.declaredBody ∧
      overload.Transparent ∧ other.Transparent
  forwarding _ _ := True
  told episodes others := observationsOf episodes = observationsOf others

namespace Overload.Transparent

variable {overload : Overload}

theorem bodyInForce_cases (transparent : overload.Transparent) :
    overload.bodyInForce = .plain overload.declaredBody ∨
      ∃ tracer, overload.bodyInForce = .traced tracer ∧
        tracer.declaredBody = overload.declaredBody ∧ tracer.hook.OnlyTraces := by
  unfold bodyInForce
  cases given : overload.installed with
  | none => exact .inl rfl
  | some body =>
    obtain ⟨tracer, rfl, wraps, only⟩ := transparent.installed body given
    exact .inr ⟨tracer, rfl, wraps, only⟩

theorem plain_eq (transparent : overload.Transparent) {body : Body}
    (force : overload.bodyInForce = .plain body) : body = overload.declaredBody := by
  rcases transparent.bodyInForce_cases with plain | ⟨tracer, traced, -⟩
  · cases force.symm.trans plain
    rfl
  · cases force.symm.trans traced

theorem traced_eq (transparent : overload.Transparent) {tracer : Tracer}
    (force : overload.bodyInForce = .traced tracer) :
    tracer.declaredBody = overload.declaredBody ∧ tracer.hook.OnlyTraces := by
  rcases transparent.bodyInForce_cases with plain | ⟨other, traced, facts⟩
  · cases force.symm.trans plain
  · cases force.symm.trans traced
    exact facts

theorem bodyInForce_quiet (transparent : overload.Transparent) :
    overload.bodyInForce.Quiet := by
  rcases transparent.bodyInForce_cases with plain | ⟨tracer, traced, wraps, only⟩
  · rw [plain]
    exact transparent.quiet
  · rw [traced]
    exact ⟨only.quiet, wraps ▸ transparent.quiet⟩

end Overload.Transparent

/-! ### Calls of transparent overloads -/

/-- What tracers do to a state does not matter. -/
theorem observing_beginForward {state other : State} (alike : state.Alike observing other)
    (emitter : EmitterId) (events : List Event) (identity : Nat) :
    ((state.emitAll emitter events).beginForward identity).Alike observing other :=
  ⟨(alike.emitAll emitter 0 events []).world, alike.frames, trivial⟩

theorem observing_beginForward_right {state other : State} (alike : state.Alike observing other)
    (emitter : EmitterId) (events : List Event) (identity : Nat) :
    state.Alike observing ((other.emitAll emitter events).beginForward identity) :=
  ⟨(alike.emitAll 0 emitter [] events).world, alike.frames, trivial⟩

/-- A call of a transparent overload follows whatever its declared body follows, and tells one
activation more. -/
theorem Overload.Transparent.call_follows {overload : Overload}
    (transparent : overload.Transparent) {runtime : RuntimeId} {receiver : Value}
    {arguments : List Value} {state after : State} {within episodes : List Episode}
    {outcome : Outcome}
    (follows : observing.Follows runtime (.procedure (overload.declaredBody receiver arguments))
      (state.pushFrame overload.reference.key) within outcome after)
    (told : observationsOf episodes =
      .activated ⟨runtime, overload.reference, receiver, arguments⟩ :: observationsOf within) :
    observing.Follows runtime (.call overload receiver arguments) state episodes outcome
      after.popFrame := by
  intro other alike
  have pushed : (state.pushFrame overload.reference.key).Alike observing
      (other.pushFrame overload.reference.key) := alike.pushFrame rfl
  rcases transparent.bodyInForce_cases with plain | ⟨tracer, traced, wraps, only⟩
  · obtain ⟨inner, left, ran, alike, same⟩ := follows _ pushed
    refine ⟨_, _, .plain plain ran, alike.popFrame, ?_⟩
    show observationsOf episodes = .activated _ :: observationsOf inner ++ observationsOf []
    rw [told, observationsOf, List.append_nil]
    exact congrArg _ same
  · by_cases busy : tracer.identity ∈ other.thread.forwarding
    · obtain ⟨inner, left, ran, alike, same⟩ := follows _ pushed
      rw [← wraps] at ran
      refine ⟨_, _, .straight traced busy ran, alike.popFrame, ?_⟩
      show observationsOf episodes = .activated _ :: observationsOf inner ++ observationsOf []
      rw [told, observationsOf, List.append_nil]
      exact congrArg _ same
    · let passage : Passage :=
        ⟨tracer, arguments, (other.pushFrame overload.reference.key).thread.frames, outcome,
          outcome⟩
      obtain ⟨inner, left, ran, alike, same⟩ := follows _
        (observing_beginForward_right pushed tracer.emitter (passage.entry arguments)
          tracer.identity)
      rw [← wraps] at ran
      have rewrote : Completes runtime (.procedure (tracer.rewriting arguments))
          (other.pushFrame overload.reference.key) [] (.returned (.list arguments))
          (other.pushFrame overload.reference.key) := by
        rw [tracer.rewriting_of_onlyTraces only]
        exact .finish
      have delivered : Completes runtime (.procedure (tracer.settling outcome)) left.endForward
          [] outcome left.endForward := by
        rw [tracer.settling_of_onlyTraces only]
        exact .finish
      have completes : Completes runtime (.call overload receiver arguments) other
          [.traced ⟨runtime, overload.reference, receiver, arguments⟩ passage [] inner []]
          passage.result (left.endForward.emit tracer.emitter passage.closing).popFrame :=
        .traced traced busy rfl rewrote ran delivered
      have unchanged : passage.result = outcome := Passage.result_of_delivery rfl
      rw [unchanged] at completes
      refine ⟨_, _, completes, ?_, ?_⟩
      · exact ⟨(alike.world.emitAll 0 tracer.emitter [] [passage.closing]),
          congrArg List.tail alike.frames, trivial⟩
      · show observationsOf episodes = (.activated _ :: observationsOf inner ++ []) ++ []
        rw [told, List.append_nil, List.append_nil]
        exact congrArg _ same

/-- A passage through a tracer that only traces adds nothing to what is forwarded. -/
theorem Passage.forwarded_follows {passage : Passage} (only : passage.tracer.hook.OnlyTraces)
    {runtime : RuntimeId} {work : Procedure} {arguments : List Value} {rewritten : Outcome}
    {rewriting within delivering : List Episode} {pushed entered left settled other : State}
    {events : List Event}
    (rewrote : observing.Follows runtime (.procedure (passage.tracer.rewriting arguments)) pushed
      rewriting rewritten entered)
    (forwarded : observing.Follows runtime (.procedure work)
      ((entered.emitAll passage.tracer.emitter events).beginForward passage.tracer.identity)
      within passage.outcome left)
    (delivered : observing.Follows runtime
      (.procedure (passage.tracer.settling passage.outcome)) left.endForward delivering
      passage.delivery settled)
    (alike : pushed.Alike observing other) :
    rewritten = .returned (.list arguments) ∧ passage.delivery = passage.outcome ∧
      observationsOf rewriting = [] ∧ observationsOf delivering = [] ∧
      observing.Follows runtime (.procedure work) pushed within passage.outcome settled := by
  rw [passage.tracer.rewriting_of_onlyTraces only] at rewrote
  rw [passage.tracer.settling_of_onlyTraces only] at delivered
  -- One state alike is enough to see that both transforms are nothing but an end.
  obtain ⟨isRewritten, entering, toldRewriting⟩ := rewrote.finish alike
  obtain ⟨_, leftOther, _, leaving, _⟩ := forwarded _ (observing_beginForward entering _ _ _)
  have ended : left.endForward.Alike observing leftOther :=
    ⟨leaving.world, leaving.frames, trivial⟩
  obtain ⟨delivers, _, toldDelivering⟩ := delivered.finish ended
  refine ⟨isRewritten, delivers, toldRewriting, toldDelivering, ?_⟩
  intro other alike
  obtain ⟨-, entering, -⟩ := rewrote.finish alike
  obtain ⟨_, leftOther, ran, leaving, same⟩ :=
    forwarded _ (observing_beginForward entering _ _ _)
  have ended : left.endForward.Alike observing leftOther :=
    ⟨leaving.world, leaving.frames, trivial⟩
  obtain ⟨-, settling, -⟩ := delivered.finish ended
  exact ⟨_, _, ran, settling, same⟩

/-! ### Runs in lockstep -/

/-- Single calls keep what bodies observe. -/
theorem observing_lockstep : observing.Lockstep where
  reference related := related.1
  quiet related := related.2.2.1.bodyInForce_quiet
  fresh := by
    intro reference body quiet
    have transparent : Overload.Transparent ⟨reference, body, none⟩ := by
      refine ⟨quiet, fun installed given => ?_⟩
      cases given
    exact ⟨rfl, rfl, transparent, transparent⟩
  idle := trivial
  nothing := rfl
  append first second := by
    show observationsOf _ = observationsOf _
    rw [observationsOf_append, observationsOf_append, first, second]
  framesRead := rfl
  spawned work := congrArg (· ++ []) work
  crossed within := congrArg (· ++ []) within
  plain := by
    intro runtime overload other body receiver arguments state within outcome after related force
      ran
    obtain ⟨reference, declaredBody, left, right⟩ := related
    rw [left.plain_eq force, declaredBody, reference] at ran
    refine right.call_follows ran ?_
    show .activated _ :: observationsOf within ++ observationsOf [] = _
    rw [observationsOf, List.append_nil, reference]
  straight := by
    intro runtime overload other tracer receiver arguments state within outcome after related
      force _ ran
    obtain ⟨reference, declaredBody, left, right⟩ := related
    rw [(left.traced_eq force).1, declaredBody, reference] at ran
    refine right.call_follows ran ?_
    show .activated _ :: observationsOf within ++ observationsOf [] = _
    rw [observationsOf, List.append_nil, reference]
  traced := by
    intro runtime overload other receiver arguments rewritten rewriting within delivering state
      entered left settled passage related force _ isForwarded _ rewrote forwarded delivered
    obtain ⟨reference, declaredBody, hooked, right⟩ := related
    obtain ⟨wraps, only⟩ := hooked.traced_eq force
    rw [wraps, declaredBody] at forwarded
    intro otherState alike
    obtain ⟨isRewritten, delivers, toldRewriting, toldDelivering, ran⟩ :=
      Passage.forwarded_follows only rewrote forwarded delivered (alike.pushFrame rfl)
    have unchanged : passage.forwarded = arguments := by
      rw [isForwarded, isRewritten]
      rfl
    have told : observationsOf
        [.traced ⟨runtime, overload.reference, receiver, arguments⟩ passage rewriting within
          delivering] =
        .activated ⟨runtime, other.reference, receiver, arguments⟩ :: observationsOf within := by
      simp only [observationsOf, Episode.observations, toldRewriting, toldDelivering, unchanged,
        reference, List.nil_append, List.append_nil]
    rw [unchanged, reference] at ran
    rw [Passage.result_of_delivery delivers]
    obtain ⟨_, _, completes, leaving, same⟩ := right.call_follows ran told otherState alike
    exact ⟨_, _, completes,
      ⟨leaving.world.emitAll passage.tracer.emitter 0 [passage.closing] [], leaving.frames,
        trivial⟩, same⟩

/-! ### Runs moment by moment -/

/-- A call of a transparent overload leads into its declared body, alike to every state that is
entered in the same frames, and one activation more has been observed. -/
theorem Overload.Transparent.leads {overload : Overload} (transparent : overload.Transparent)
    (runtime : RuntimeId) {receiver : Value} {arguments : List Value} {entered other : State}
    (alike : entered.Alike observing (other.pushFrame overload.reference.key))
    (calls otherCalls : List OpenCall) (observed : List Observation) :
    ∃ reached,
      Moment.Leads ⟨runtime, .call overload receiver arguments, other, otherCalls, observed⟩
        reached ∧
      observed ++ [.activated ⟨runtime, overload.reference, receiver, arguments⟩] =
        reached.observed ∧
      Moment.Alike observing
        ⟨runtime, .procedure (overload.declaredBody receiver arguments), entered, calls,
          observed ++ [.activated ⟨runtime, overload.reference, receiver, arguments⟩]⟩
        reached := by
  have quiet := transparent.quiet receiver arguments
  rcases transparent.bodyInForce_cases with plain | ⟨tracer, traced, wraps, only⟩
  · exact ⟨_, .plain plain, rfl, rfl, .procedure quiet, alike⟩
  · rw [← wraps] at quiet ⊢
    by_cases busy : tracer.identity ∈ other.thread.forwarding
    · exact ⟨_, .straight traced busy, rfl, rfl, .procedure quiet, alike⟩
    · have rewrote : Completes runtime (.procedure (tracer.rewriting arguments))
          (other.pushFrame overload.reference.key) [] (.returned (.list arguments))
          (other.pushFrame overload.reference.key) := by
        rw [tracer.rewriting_of_onlyTraces only]
        exact .finish
      refine ⟨_, .forwarding traced busy rewrote, ?_, rfl, .procedure quiet,
        observing_beginForward_right alike _ _ _⟩
      show observed ++ _ = observed ++ observationsOf [] ++ _
      rw [observationsOf, List.append_nil]
      rfl

/-- Single calls that are under way keep what bodies observe. -/
theorem observing_shadows :
    observing.Shadows fun account other => account.observed = other.observed where
  lockstep := observing_lockstep
  agreement :=
    ⟨fun agrees observed _ => congrArg (· ++ observed) agrees,
      fun agrees told => congrArg₂ (· ++ ·) agrees told⟩
  call := by
    intro runtime overload other receiver arguments calls otherCalls observed otherObserved next
      state otherState related alike agrees leads
    obtain ⟨reference, declaredBody, left, right⟩ := related
    obtain rfl : observed = otherObserved := agrees
    have pushed : (state.pushFrame other.reference.key).Alike observing
        (otherState.pushFrame other.reference.key) := alike.pushFrame rfl
    cases leads with
    | plain force =>
      rw [left.plain_eq force, declaredBody, reference]
      obtain ⟨reached, leads, same, alike⟩ := right.leads runtime pushed _ otherCalls observed
      exact ⟨reached, .single leads, same, .inl alike⟩
    | straight force =>
      rw [(left.traced_eq force).1, declaredBody, reference]
      obtain ⟨reached, leads, same, alike⟩ := right.leads runtime pushed _ otherCalls observed
      exact ⟨reached, .single leads, same, .inl alike⟩
    | rewriting force =>
      -- The other run has nothing to do here; it stays where it is.
      exact ⟨_, .refl, rfl, .inr ⟨_, congrArg Task.procedure
        (Tracer.rewriting_of_onlyTraces (left.traced_eq force).2 arguments)⟩⟩
    | @forwarding _ _ tracer _ _ _ _ _ _ _ _ force _ rewrote =>
      obtain ⟨wraps, only⟩ := left.traced_eq force
      rw [tracer.rewriting_of_onlyTraces only] at rewrote
      cases rewrote
      rw [wraps, declaredBody, reference, observationsOf, List.append_nil]
      obtain ⟨reached, leads, same, alike⟩ :=
        right.leads runtime (observing_beginForward pushed _ _ _) _ otherCalls observed
      exact ⟨reached, .single leads, same, .inl alike⟩
    | @settling _ _ tracer _ _ _ outcome _ within _ _ _ _ _ force _ rewrote forwarded =>
      obtain ⟨wraps, only⟩ := left.traced_eq force
      rw [tracer.rewriting_of_onlyTraces only] at rewrote
      cases rewrote
      rw [wraps, declaredBody, reference] at forwarded
      obtain ⟨reached, leads, same, alike⟩ :=
        right.leads runtime (observing_beginForward pushed _ _ _) calls otherCalls observed
      obtain ⟨inner, _, completes, -, told⟩ :=
        observing_lockstep.follows forwarded alike.task reached.state alike.state
      have here : runtime = reached.runtime := alike.runtime
      rw [here] at completes
      obtain ⟨ended, ends, tells⟩ := completes.arrives reached.calls reached.observed
      refine ⟨ended, .head leads ends, ?_, .inr ⟨outcome, congrArg Task.procedure
        (tracer.settling_of_onlyTraces only outcome)⟩⟩
      have told : observationsOf within = observationsOf inner := told
      show observed ++ observationsOf [] ++ .activated _ :: observationsOf within = ended.observed
      rw [tells, ← same, ← told, reference, observationsOf, List.append_nil, List.append_assoc,
        List.singleton_append]

end Intercept
