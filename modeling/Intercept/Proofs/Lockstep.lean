/-
This file compares two runs of the same procedures. The two worlds have the same overloads in
the same order, but the bodies in force may differ; a likeness says which bodies may stand
against each other, which forwarding stacks, and which accounts of what happened. A likeness is
kept in lockstep if it is kept by single calls, whenever the bodies that run inside them keep
it. Procedures that install no hooks then keep it over whole runs: where the one completes, the
other completes with the same outcome, and their accounts are alike.
-/
import Intercept.Proofs.Quiet
import Intercept.Proofs.Registry
import Mathlib.Data.List.Forall2

namespace Intercept

/-! ### Likenesses -/

/-- What may stand against each other in two runs: overloads, forwarding stacks, and accounts of
what happened. -/
structure Likeness where
  overloads : Overload → Overload → Prop
  forwarding : List Nat → List Nat → Prop
  told : List Episode → List Episode → Prop

/-- Worlds with alike overloads in the same order, and the same boundary. -/
structure World.Alike (likeness : Likeness) (world other : World) : Prop where
  runtimes : world.registries.length = other.registries.length
  overloads : ∀ runtime,
    List.Forall₂ likeness.overloads (world.registry runtime).overloads
      (other.registry runtime).overloads
  boundary : world.boundary = other.boundary

/-- States with alike worlds, the same frames, and alike forwarding stacks. -/
structure State.Alike (likeness : Likeness) (state other : State) : Prop where
  world : state.world.Alike likeness other.world
  frames : state.thread.frames = other.thread.frames
  forwarding : likeness.forwarding state.thread.forwarding other.thread.forwarding

/-- Tasks that do the same: quiet procedures, calls by a name, and calls of alike overloads. -/
inductive Task.Alike (likeness : Likeness) : Task → Task → Prop where
  | procedure {procedure : Procedure} (quiet : procedure.Quiet) :
      Alike likeness (.procedure procedure) (.procedure procedure)
  | dispatch {callee : Callee} {receiver : Value} {arguments : List Value} :
      Alike likeness (.dispatch callee receiver arguments) (.dispatch callee receiver arguments)
  | call {overload other : Overload} {receiver : Value} {arguments : List Value}
      (related : likeness.overloads overload other) :
      Alike likeness (.call overload receiver arguments) (.call other receiver arguments)

/-- That a task follows an account: from every state alike to the one that the account starts
in, it completes with the same outcome, in a state alike, and its own account is alike. -/
def Likeness.Follows (likeness : Likeness) (runtime : RuntimeId) (task : Task) (state : State)
    (episodes : List Episode) (outcome : Outcome) (after : State) : Prop :=
  ∀ otherState, state.Alike likeness otherState →
    ∃ otherEpisodes otherAfter,
      Completes runtime task otherState otherEpisodes outcome otherAfter ∧
      after.Alike likeness otherAfter ∧ likeness.told episodes otherEpisodes

/-- That a likeness is kept by single calls, whenever what runs inside them keeps it. -/
structure Likeness.Lockstep (likeness : Likeness) : Prop where
  reference : ∀ {overload other}, likeness.overloads overload other →
    overload.reference = other.reference
  quiet : ∀ {overload other}, likeness.overloads overload other → overload.bodyInForce.Quiet
  fresh : ∀ {reference body}, Body.Quiet body →
    likeness.overloads ⟨reference, body, none⟩ ⟨reference, body, none⟩
  idle : likeness.forwarding [] []
  nothing : likeness.told [] []
  append : ∀ {first otherFirst second otherSecond}, likeness.told first otherFirst →
    likeness.told second otherSecond →
      likeness.told (first ++ second) (otherFirst ++ otherSecond)
  framesRead : ∀ {keys}, likeness.told [.framesRead keys] [.framesRead keys]
  spawned : ∀ {work otherWork}, likeness.told work otherWork →
    likeness.told [.spawned work] [.spawned otherWork]
  crossed : ∀ {emitter entry within otherWithin leave}, likeness.told within otherWithin →
    likeness.told [.crossed emitter entry within leave]
      [.crossed emitter entry otherWithin leave]
  plain : ∀ {runtime overload other body receiver arguments state within outcome after},
    likeness.overloads overload other → overload.bodyInForce = .plain body →
    likeness.Follows runtime (.procedure (body receiver arguments))
      (state.pushFrame overload.reference.key) within outcome after →
    likeness.Follows runtime (.call other receiver arguments) state
      [.plain ⟨runtime, overload.reference, receiver, arguments⟩ within outcome] outcome
      after.popFrame
  straight : ∀ {runtime overload other tracer receiver arguments state within outcome after},
    likeness.overloads overload other → overload.bodyInForce = .traced tracer →
    tracer.identity ∈ state.thread.forwarding →
    likeness.Follows runtime (.procedure (tracer.declaredBody receiver arguments))
      (state.pushFrame overload.reference.key) within outcome after →
    likeness.Follows runtime (.call other receiver arguments) state
      [.straight ⟨runtime, overload.reference, receiver, arguments⟩ tracer within outcome]
      outcome after.popFrame
  traced : ∀ {runtime overload other receiver arguments rewritten rewriting within delivering}
      {state entered left settled : State} {passage : Passage},
    likeness.overloads overload other → overload.bodyInForce = .traced passage.tracer →
    passage.tracer.identity ∉ state.thread.forwarding →
    passage.forwarded = rewritten.asArguments → passage.frames = entered.thread.frames →
    likeness.Follows runtime (.procedure (passage.tracer.rewriting arguments))
      (state.pushFrame overload.reference.key) rewriting rewritten entered →
    likeness.Follows runtime
      (.procedure (passage.tracer.declaredBody receiver passage.forwarded))
      ((entered.emitAll passage.tracer.emitter (passage.entry arguments)).beginForward
        passage.tracer.identity) within passage.outcome left →
    likeness.Follows runtime (.procedure (passage.tracer.settling passage.outcome))
      left.endForward delivering passage.delivery settled →
    likeness.Follows runtime (.call other receiver arguments) state
      [.traced ⟨runtime, overload.reference, receiver, arguments⟩ passage rewriting within
        delivering]
      passage.result (settled.emit passage.tracer.emitter passage.closing).popFrame

theorem Likeness.Follows.finish {likeness : Likeness} {runtime : RuntimeId}
    {answer outcome : Outcome} {state after other : State} {episodes : List Episode}
    (follows : likeness.Follows runtime (.procedure (.finish answer)) state episodes outcome after)
    (alike : state.Alike likeness other) :
    outcome = answer ∧ after.Alike likeness other ∧ likeness.told episodes [] := by
  obtain ⟨_, _, completes, alike, told⟩ := follows other alike
  cases completes
  exact ⟨rfl, alike, told⟩

/-! ### States stay alike -/

section Alike

variable {likeness : Likeness}

namespace World.Alike

variable {world other : World}

theorem emitAll (alike : world.Alike likeness other) (emitter otherEmitter : EmitterId)
    (events otherEvents : List Event) :
    (world.emitAll emitter events).Alike likeness (other.emitAll otherEmitter otherEvents) := by
  rw [emitAll_eq world, emitAll_eq other]
  exact ⟨alike.runtimes, alike.overloads, alike.boundary⟩

theorem setRegistry (alike : world.Alike likeness other) (runtime : RuntimeId)
    {registry otherRegistry : Registry}
    (related : List.Forall₂ likeness.overloads registry.overloads otherRegistry.overloads) :
    (world.setRegistry runtime registry).Alike likeness
      (other.setRegistry runtime otherRegistry) where
  runtimes := by
    simpa only [World.setRegistry, List.length_set] using alike.runtimes
  overloads := by
    intro reader
    by_cases same : reader = runtime
    · subst same
      by_cases present : reader < world.registries.length
      · rw [registry_setRegistry_self _ _ _ present,
          registry_setRegistry_self _ _ _ (alike.runtimes ▸ present)]
        exact related
      · rw [setRegistry_absent _ _ (Nat.le_of_not_lt present),
          setRegistry_absent _ _ (alike.runtimes ▸ Nat.le_of_not_lt present)]
        exact alike.overloads reader
    · rw [registry_setRegistry_other _ _ same, registry_setRegistry_other _ _ same]
      exact alike.overloads reader
  boundary := alike.boundary

end World.Alike

namespace State.Alike

variable {state other : State}

theorem pushFrame (alike : state.Alike likeness other) {key otherKey : String}
    (same : key = otherKey) : (state.pushFrame key).Alike likeness (other.pushFrame otherKey) where
  world := alike.world
  frames := by
    rw [State.pushFrame, State.pushFrame, alike.frames, same]
  forwarding := alike.forwarding

theorem popFrame (alike : state.Alike likeness other) :
    state.popFrame.Alike likeness other.popFrame where
  world := alike.world
  frames := congrArg List.tail alike.frames
  forwarding := alike.forwarding

theorem emitAll (alike : state.Alike likeness other) (emitter otherEmitter : EmitterId)
    (events otherEvents : List Event) :
    (state.emitAll emitter events).Alike likeness (other.emitAll otherEmitter otherEvents) where
  world := alike.world.emitAll emitter otherEmitter events otherEvents
  frames := alike.frames
  forwarding := alike.forwarding

theorem emit (alike : state.Alike likeness other) (emitter otherEmitter : EmitterId)
    (event otherEvent : Event) :
    (state.emit emitter event).Alike likeness (other.emit otherEmitter otherEvent) :=
  alike.emitAll emitter otherEmitter [event] [otherEvent]

theorem onThread (alike : state.Alike likeness other) {thread otherThread : Thread}
    (frames : thread.frames = otherThread.frames)
    (forwarding : likeness.forwarding thread.forwarding otherThread.forwarding) :
    ({ state with thread } : State).Alike likeness { other with thread := otherThread } :=
  ⟨alike.world, frames, forwarding⟩

theorem onBoundary (alike : state.Alike likeness other) (boundary : Boundary) :
    ({ state with world := { state.world with boundary } } : State).Alike likeness
      { other with world := { other.world with boundary } } :=
  ⟨⟨alike.world.runtimes, alike.world.overloads, rfl⟩, alike.frames, alike.forwarding⟩

end State.Alike

end Alike

/-- Where the same is declared, it is enough to relate overloads with the same declaration. -/
theorem forall₂_of_declarations {related : Overload → Overload → Prop}
    {registry other : Registry} (same : registry.declarations = other.declarations)
    (relate : ∀ left ∈ registry.overloads, ∀ right ∈ other.overloads,
      left.reference = right.reference → left.declaredBody = right.declaredBody →
        related left right) :
    List.Forall₂ related registry.overloads other.overloads := by
  unfold Registry.declarations at same
  generalize registry.overloads = lefts at same relate
  generalize other.overloads = rights at same relate
  induction lefts generalizing rights with
  | nil =>
    rw [List.map_nil, eq_comm, List.map_eq_nil_iff] at same
    rw [same]
    exact .nil
  | cons left lefts inductionHypothesis =>
    cases rights with
    | nil => cases same
    | cons right rights =>
      rw [List.map_cons, List.map_cons, List.cons.injEq, Prod.mk.injEq] at same
      obtain ⟨⟨reference, declaredBody⟩, rest⟩ := same
      exact .cons
        (relate left (List.mem_cons_self ..) right (List.mem_cons_self ..) reference declaredBody)
        (inductionHypothesis rights rest fun left isLeft right isRight =>
          relate left (List.mem_cons_of_mem _ isLeft) right (List.mem_cons_of_mem _ isRight))

/-! ### Alike worlds answer alike -/

/-- Where a search in related lists agrees on related items, it finds related items. -/
theorem find?_related {Item Other : Type} {related : Item → Other → Prop}
    {accepts : Item → Bool} {acceptsOther : Other → Bool} {items : List Item}
    {others : List Other}
    (agree : ∀ {item other}, related item other → accepts item = acceptsOther other)
    (alike : List.Forall₂ related items others) :
    Option.Rel related (items.find? accepts) (others.find? acceptsOther) := by
  induction alike with
  | nil => exact .none
  | @cons item other _ _ first _ inductionHypothesis =>
    rw [List.find?_cons, List.find?_cons, ← agree first]
    cases accepts item with
    | true => exact .some first
    | false => exact inductionHypothesis

theorem isSome_related {Item Other : Type} {related : Item → Other → Prop}
    {found : Option Item} {otherFound : Option Other}
    (alike : Option.Rel related found otherFound) : found.isSome = otherFound.isSome := by
  cases alike <;> rfl

namespace Likeness.Lockstep

variable {likeness : Likeness}

theorem overload?_alike (lockstep : likeness.Lockstep) {registry other : Registry}
    (alike : List.Forall₂ likeness.overloads registry.overloads other.overloads)
    (reference : OverloadRef) :
    Option.Rel likeness.overloads (registry.overload? reference)
      (other.overload? reference) := by
  refine find?_related (fun related => ?_) alike
  rw [lockstep.reference related]

theorem find?_alike (lockstep : likeness.Lockstep) {registry other : Registry}
    (alike : List.Forall₂ likeness.overloads registry.overloads other.overloads)
    (callee : Callee) (arguments : List Value) :
    Option.Rel likeness.overloads (callee.find? registry arguments)
      (callee.find? other arguments) := by
  cases callee with
  | method container member =>
    simp only [Callee.find?, Registry.select?, Registry.memberOverloads, List.find?_filter]
    refine find?_related (fun related => ?_) alike
    rw [lockstep.reference related]
  | exactly reference => exact lockstep.overload?_alike alike reference

theorem declareMethod_alike (lockstep : likeness.Lockstep) {registry other : Registry}
    (alike : List.Forall₂ likeness.overloads registry.overloads other.overloads)
    (container member : String) (parameters : List String) {body : Body}
    (quiet : Body.Quiet body) :
    (registry.declareMethod container member parameters body).1 =
        (other.declareMethod container member parameters body).1 ∧
      List.Forall₂ likeness.overloads
        (registry.declareMethod container member parameters body).2.overloads
        (other.declareMethod container member parameters body).2.overloads := by
  have answers := lockstep.overload?_alike alike ⟨container, member, ⟨parameters⟩⟩
  rcases registry.declareMethod_cases container member parameters body with
    ⟨declared, ends⟩ | ⟨free, answer, appended⟩ <;>
  rcases other.declareMethod_cases container member parameters body with
    ⟨otherDeclared, otherEnds⟩ | ⟨otherFree, otherAnswer, otherAppended⟩
  · rw [ends, otherEnds]
    exact ⟨rfl, alike⟩
  · rw [isSome_related answers, otherFree] at declared
    cases declared
  · rw [← isSome_related answers, free] at otherDeclared
    cases otherDeclared
  · refine ⟨answer.trans otherAnswer.symm, ?_⟩
    rw [appended, otherAppended]
    exact List.rel_append alike (.cons (lockstep.fresh quiet) .nil)

/-! ### Whole runs -/

theorem told_cons (lockstep : likeness.Lockstep) {episode other : Episode}
    {rest otherRest : List Episode} (first : likeness.told [episode] [other])
    (others : likeness.told rest otherRest) :
    likeness.told (episode :: rest) (other :: otherRest) :=
  lockstep.append first others

/-- A likeness that is kept by single calls is kept by whole runs of procedures that install
nothing. -/
theorem follows (lockstep : likeness.Lockstep) {runtime : RuntimeId} {task other : Task}
    {state after : State} {episodes : List Episode} {outcome : Outcome}
    (completes : Completes runtime task state episodes outcome after)
    (same : task.Alike likeness other) :
    likeness.Follows runtime other state episodes outcome after := by
  induction completes generalizing other with
  | finish =>
    cases same
    intro otherState alike
    exact ⟨[], otherState, .finish, alike, lockstep.nothing⟩
  | call _ _ called rest =>
    cases same with
    | procedure quiet =>
      cases quiet with
      | call quietRest =>
        intro otherState alike
        obtain ⟨_, _, called, alike, toldCall⟩ := called .dispatch otherState alike
        obtain ⟨_, _, rest, alike, toldRest⟩ := rest (.procedure (quietRest _)) _ alike
        exact ⟨_, _, .call called rest, alike, lockstep.append toldCall toldRest⟩
  | @frames _ next _ _ state _ _ rest =>
    cases same with
    | procedure quiet =>
      cases quiet with
      | frames quietRest =>
        intro otherState alike
        obtain ⟨_, _, rest, alikeAfter, toldRest⟩ :=
          rest (.procedure (quietRest _)) otherState alike
        rw [alike.frames] at rest
        refine ⟨_, _, .frames rest, alikeAfter, ?_⟩
        rw [alike.frames]
        exact lockstep.told_cons lockstep.framesRead toldRest
  | spawn _ _ worked rest =>
    cases same with
    | procedure quiet =>
      cases quiet with
      | spawn quietWork quietRest =>
        intro otherState alike
        obtain ⟨_, _, worked, alikeWorld, toldWork⟩ :=
          worked (.procedure quietWork) _ (alike.onThread rfl lockstep.idle)
        obtain ⟨_, _, rest, alike, toldRest⟩ := rest (.procedure (quietRest _)) _
          (alikeWorld.onThread alike.frames alike.forwarding)
        exact ⟨_, _, .spawn worked rest, alike,
          lockstep.told_cons (lockstep.spawned toldWork) toldRest⟩
  | hook | install =>
    cases same with
    | procedure quiet => cases quiet
  | define _ rest =>
    cases same with
    | procedure quiet =>
      cases quiet with
      | define quietBody quietRest =>
        intro otherState alike
        obtain ⟨answers, declared⟩ :=
          lockstep.declareMethod_alike (alike.world.overloads _) _ _ _ quietBody
        obtain ⟨_, _, rest, alike, toldRest⟩ := rest (.procedure (quietRest _))
          { otherState with world := otherState.world.setRegistry _ _ }
          ⟨alike.world.setRegistry _ declared, alike.frames, alike.forwarding⟩
        rw [answers] at rest
        exact ⟨_, _, .define rest, alike, toldRest⟩
  | nativeUnprobed unprobed _ _ called rest =>
    cases same with
    | procedure quiet =>
      cases quiet with
      | native quietCallee quietRest =>
        intro otherState alike
        rw [alike.world.boundary] at unprobed
        obtain ⟨_, _, called, alike, toldCall⟩ := called (.procedure quietCallee) _ alike
        obtain ⟨_, _, rest, alike, toldRest⟩ := rest (.procedure (quietRest _)) _ alike
        exact ⟨_, _, .nativeUnprobed unprobed called rest, alike,
          lockstep.append toldCall toldRest⟩
  | nativeProbed probed begun entered _ _ called rest =>
    cases same with
    | procedure quiet =>
      cases quiet with
      | native quietCallee quietRest =>
        intro otherState alike
        rw [alike.world.boundary] at probed begun
        obtain ⟨_, _, called, alike, toldCall⟩ := called (.procedure quietCallee) _
          ((alike.onBoundary _).emitAll _ _ _ _)
        obtain ⟨_, _, rest, alike, toldRest⟩ := rest (.procedure (quietRest _)) _
          (alike.emitAll _ _ _ _)
        exact ⟨_, _, .nativeProbed probed begun entered called rest, alike,
          lockstep.told_cons (lockstep.crossed toldCall) toldRest⟩
  | @dispatched runtime callee _ arguments overload _ _ _ _ found _ called =>
    cases same
    intro otherState alike
    have answers := lockstep.find?_alike (alike.world.overloads runtime) callee arguments
    rw [found] at answers
    generalize foundOther : callee.find? (otherState.world.registry runtime) arguments = other
      at answers
    cases answers with
    | some related =>
      obtain ⟨_, _, called, alike, told⟩ := called (.call related) otherState alike
      exact ⟨_, _, .dispatched foundOther called, alike, told⟩
  | @refused runtime callee _ arguments _ missing =>
    cases same
    intro otherState alike
    have answers := lockstep.find?_alike (alike.world.overloads runtime) callee arguments
    rw [missing] at answers
    generalize foundOther : callee.find? (otherState.world.registry runtime) arguments = other
      at answers
    cases answers
    exact ⟨[], otherState, .refused foundOther, alike, lockstep.nothing⟩
  | plain force _ ran =>
    cases same with
    | call related =>
      have quiet : Body.Quiet _ := force ▸ lockstep.quiet related
      exact lockstep.plain related force (ran (.procedure (quiet _ _)))
  | straight force busy _ ran =>
    cases same with
    | call related =>
      have quiet : Tracer.Quiet _ := force ▸ lockstep.quiet related
      exact lockstep.straight related force busy (ran (.procedure (quiet.declaredBody _ _)))
  | traced force idle isPassage _ _ _ rewrote forwarded delivered =>
    cases same with
    | call related =>
      have quiet : Tracer.Quiet _ := force ▸ lockstep.quiet related
      subst isPassage
      exact lockstep.traced related force idle rfl rfl (rewrote (.procedure (quiet.rewriting _)))
        (forwarded (.procedure (quiet.declaredBody _ _)))
        (delivered (.procedure (quiet.settling _)))

end Likeness.Lockstep

end Intercept
