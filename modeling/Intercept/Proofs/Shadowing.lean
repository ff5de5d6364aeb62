/-
This file follows one run by another, moment by moment, so that runs are compared whether they
end or not. What can be told of a run so far is its account: what bodies have observed, and what
has been emitted. If single calls that are under way keep a likeness, and accounts that agree,
then wherever one run comes, a run from an alike moment comes to a moment whose account agrees.
-/
import Intercept.Proofs.Bracketing
import Intercept.Proofs.Lockstep
import Intercept.Proofs.Moment

namespace Intercept

/-! ### Accounts -/

/-- What can be told of a run so far: what bodies have observed, and what has been emitted. -/
structure Account where
  observed : List Observation
  emitted : List Emission

/-- An account with more told after it. -/
def Account.further (account : Account) (observed : List Observation)
    (emitted : List Emission) : Account :=
  ⟨account.observed ++ observed, account.emitted ++ emitted⟩

/-- What can be told at a moment. -/
def Moment.account (moment : Moment) : Account :=
  ⟨moment.observed, moment.state.world.sink.emissions⟩

/-- A task that completes tells its episodes further. -/
theorem Completes.account {runtime : RuntimeId} {task : Task} {state after : State}
    {episodes : List Episode} {outcome : Outcome}
    (completes : Completes runtime task state episodes outcome after)
    (observed : List Observation) :
    Account.further ⟨observed, state.world.sink.emissions⟩ (observationsOf episodes)
        (emissionsOf episodes) =
      ⟨observed ++ observationsOf episodes, after.world.sink.emissions⟩ := by
  rw [completes.emissions]
  rfl

/-- A task that completes comes to a moment at which everything has been observed that its
episodes tell. -/
theorem Completes.arrives {runtime : RuntimeId} {task : Task} {state after : State}
    {episodes : List Episode} {outcome : Outcome}
    (completes : Completes runtime task state episodes outcome after) (calls : List OpenCall)
    (observed : List Observation) :
    ∃ moment, Moment.Arrives ⟨runtime, task, state, calls, observed⟩ moment ∧
      moment.observed = observed ++ observationsOf episodes := by
  induction completes generalizing calls observed with
  | finish | refused => exact ⟨_, .refl, (List.append_nil observed).symm⟩
  | call called _ _ rest =>
    obtain ⟨moment, arrives, tells⟩ := rest calls (observed ++ observationsOf _)
    refine ⟨moment, .head (.called called) arrives, ?_⟩
    rw [tells, observationsOf_append, List.append_assoc]
  | frames _ rest =>
    obtain ⟨moment, arrives, tells⟩ := rest calls (observed ++ [.framesRead _])
    refine ⟨moment, .head .frames arrives, ?_⟩
    rw [tells, observationsOf, Episode.observations, List.append_assoc]
  | spawn worked _ _ rest =>
    obtain ⟨moment, arrives, tells⟩ := rest calls (observed ++ observationsOf _)
    refine ⟨moment, .head (.spawned worked) arrives, ?_⟩
    rw [tells, observationsOf, Episode.observations, List.append_assoc]
  | hook _ rest =>
    obtain ⟨moment, arrives, tells⟩ := rest calls observed
    exact ⟨moment, .head .hook arrives, tells⟩
  | install _ rest =>
    obtain ⟨moment, arrives, tells⟩ := rest calls observed
    exact ⟨moment, .head .install arrives, tells⟩
  | define _ rest =>
    obtain ⟨moment, arrives, tells⟩ := rest calls observed
    exact ⟨moment, .head .define arrives, tells⟩
  | nativeUnprobed unprobed called _ _ rest =>
    obtain ⟨moment, arrives, tells⟩ := rest calls (observed ++ observationsOf _)
    refine ⟨moment, .head (.unprobedCalled unprobed called) arrives, ?_⟩
    rw [tells, observationsOf_append, List.append_assoc]
  | nativeProbed probed begun entered called _ _ rest =>
    obtain ⟨moment, arrives, tells⟩ := rest calls (observed ++ observationsOf _)
    refine ⟨moment, .head (.probedCalled probed begun entered called) arrives, ?_⟩
    rw [tells, observationsOf, Episode.observations, List.append_assoc]
  | dispatched found _ called =>
    obtain ⟨moment, arrives, tells⟩ := called calls observed
    exact ⟨moment, .head (.dispatched found) arrives, tells⟩
  | plain force _ ran =>
    obtain ⟨moment, arrives, tells⟩ := ran (⟨_, _, none⟩ :: calls) (observed ++ [.activated _])
    refine ⟨moment, .head (.plain force) arrives, ?_⟩
    rw [tells, observationsOf, Episode.observations, observationsOf, List.append_nil,
      List.append_assoc, List.singleton_append]
  | straight force busy _ ran =>
    obtain ⟨moment, arrives, tells⟩ := ran (⟨_, _, none⟩ :: calls) (observed ++ [.activated _])
    refine ⟨moment, .head (.straight force busy) arrives, ?_⟩
    rw [tells, observationsOf, Episode.observations, observationsOf, List.append_nil,
      List.append_assoc, List.singleton_append]
  | traced force idle isPassage rewrote forwarded _ _ _ delivered =>
    subst isPassage
    obtain ⟨moment, arrives, tells⟩ := delivered (⟨_, _, none⟩ :: calls)
      (observed ++ observationsOf _ ++ .activated _ :: observationsOf _)
    refine ⟨moment, .head (.settling force idle rewrote forwarded) arrives, ?_⟩
    rw [tells, observationsOf, Episode.observations, observationsOf, List.append_nil]
    simp only [List.append_assoc]

/-! ### Accounts that agree -/

/-- That accounts which agree do so after more of the same, and after what is alike. -/
structure Likeness.Agreement (likeness : Likeness) (agree : Account → Account → Prop) :
    Prop where
  same : ∀ {account other}, agree account other → ∀ observed emitted,
    agree (account.further observed emitted) (other.further observed emitted)
  told : ∀ {account other episodes others}, agree account other → likeness.told episodes others →
    agree (account.further (observationsOf episodes) (emissionsOf episodes))
      (other.further (observationsOf others) (emissionsOf others))

namespace Likeness.Agreement

variable {likeness : Likeness} {agree : Account → Account → Prop}
  {observed otherObserved : List Observation}

/-- Accounts agree after the same has been observed. -/
theorem observing (agreement : likeness.Agreement agree) {emitted otherEmitted : List Emission}
    (more : List Observation)
    (agrees : agree ⟨observed, emitted⟩ ⟨otherObserved, otherEmitted⟩) :
    agree ⟨observed ++ more, emitted⟩ ⟨otherObserved ++ more, otherEmitted⟩ := by
  have further := agreement.same agrees more []
  rwa [Account.further, Account.further, List.append_nil, List.append_nil] at further

/-- Accounts agree after the same has been emitted. -/
theorem emitting (agreement : likeness.Agreement agree) {world other : World}
    (emitter : EmitterId) (events : List Event)
    (agrees : agree ⟨observed, world.sink.emissions⟩ ⟨otherObserved, other.sink.emissions⟩) :
    agree ⟨observed, (world.emitAll emitter events).sink.emissions⟩
      ⟨otherObserved, (other.emitAll emitter events).sink.emissions⟩ := by
  have further := agreement.same agrees [] (events.map (Emission.mk emitter))
  rwa [Account.further, Account.further, List.append_nil, List.append_nil,
    ← World.emissions_emitAll, ← World.emissions_emitAll] at further

/-- Accounts agree after tasks that complete alike. -/
theorem completing (agreement : likeness.Agreement agree) {runtime : RuntimeId}
    {task otherTask : Task} {state after otherState otherAfter : State}
    {episodes others : List Episode} {outcome : Outcome}
    (completes : Completes runtime task state episodes outcome after)
    (otherCompletes : Completes runtime otherTask otherState others outcome otherAfter)
    (told : likeness.told episodes others)
    (agrees : agree ⟨observed, state.world.sink.emissions⟩
      ⟨otherObserved, otherState.world.sink.emissions⟩) :
    agree ⟨observed ++ observationsOf episodes, after.world.sink.emissions⟩
      ⟨otherObserved ++ observationsOf others, otherAfter.world.sink.emissions⟩ := by
  rw [← completes.account observed, ← otherCompletes.account otherObserved]
  exact agreement.told agrees told

end Likeness.Agreement

/-! ### Whole runs, moment by moment -/

/-- Moments of the same runtime with tasks that do the same, in alike states. -/
structure Moment.Alike (likeness : Likeness) (moment other : Moment) : Prop where
  runtime : moment.runtime = other.runtime
  task : moment.task.Alike likeness other.task
  state : moment.state.Alike likeness other.state

/-- That a run comes to a moment whose account agrees with the one of a given moment. The two
moments are alike, unless nothing is left to be done at the given one. -/
def Moment.Shadowed (likeness : Likeness) (agree : Account → Account → Prop)
    (moment start : Moment) : Prop :=
  ∃ reached, start.Arrives reached ∧ agree moment.account reached.account ∧
    (moment.Alike likeness reached ∨ ∃ outcome, moment.task = .procedure (.finish outcome))

/-- That a likeness is kept by single calls, also by those that are under way, and that accounts
agree all the time. -/
structure Likeness.Shadows (likeness : Likeness) (agree : Account → Account → Prop) : Prop where
  lockstep : likeness.Lockstep
  agreement : likeness.Agreement agree
  call : ∀ {runtime overload other receiver arguments calls otherCalls observed otherObserved next}
      {state otherState : State},
    likeness.overloads overload other → state.Alike likeness otherState →
    agree ⟨observed, state.world.sink.emissions⟩
      ⟨otherObserved, otherState.world.sink.emissions⟩ →
    Moment.Leads ⟨runtime, .call overload receiver arguments, state, calls, observed⟩ next →
    next.Shadowed likeness agree
      ⟨runtime, .call other receiver arguments, otherState, otherCalls, otherObserved⟩

namespace Likeness.Shadows

variable {likeness : Likeness} {agree : Account → Account → Prop}

/-- Where a moment leads, a run from an alike moment comes too. -/
theorem leads (shadows : likeness.Shadows agree) {moment next other : Moment}
    (alike : moment.Alike likeness other) (agrees : agree moment.account other.account)
    (leads : moment.Leads next) : next.Shadowed likeness agree other := by
  obtain ⟨lockstep, agreement, call⟩ := shadows
  obtain ⟨runtime, otherTask, otherState, otherCalls, otherObserved⟩ := other
  obtain ⟨sameRuntime, task, state⟩ := alike
  dsimp only [Moment.account] at sameRuntime task state agrees
  subst sameRuntime
  cases leads with
  | call =>
    cases task
    exact ⟨_, .single .call, agrees, .inl ⟨rfl, .dispatch, state⟩⟩
  | called completes =>
    cases task with
    | procedure quiet =>
      cases quiet with
      | call quietRest =>
        obtain ⟨_, _, otherCompletes, alike, told⟩ :=
          lockstep.follows completes .dispatch _ state
        exact ⟨_, .single (.called otherCompletes),
          agreement.completing completes otherCompletes told agrees,
          .inl ⟨rfl, .procedure (quietRest _), alike⟩⟩
  | frames =>
    cases task with
    | procedure quiet =>
      cases quiet with
      | frames quietRest =>
        rw [state.frames]
        exact ⟨_, .single .frames, agreement.observing _ agrees,
          .inl ⟨rfl, .procedure (quietRest _), state⟩⟩
  | spawn =>
    cases task with
    | procedure quiet =>
      cases quiet with
      | spawn quietWork quietRest =>
        exact ⟨_, .single .spawn, agrees,
          .inl ⟨rfl, .procedure quietWork, state.onThread rfl lockstep.idle⟩⟩
  | spawned completes =>
    cases task with
    | procedure quiet =>
      cases quiet with
      | spawn quietWork quietRest =>
        obtain ⟨_, _, otherCompletes, alike, told⟩ :=
          lockstep.follows completes (.procedure quietWork) _ (state.onThread rfl lockstep.idle)
        have agreesAfter := agreement.completing completes otherCompletes told agrees
        exact ⟨_, .single (.spawned otherCompletes), agreesAfter,
          .inl ⟨rfl, .procedure (quietRest _), alike.onThread state.frames state.forwarding⟩⟩
  | hook | install =>
    cases task with
    | procedure quiet => cases quiet
  | define =>
    cases task with
    | procedure quiet =>
      cases quiet with
      | define quietBody quietRest =>
        obtain ⟨answers, declared⟩ :=
          lockstep.declareMethod_alike (state.world.overloads _) _ _ _ quietBody
        rw [answers]
        exact ⟨_, .single .define, agrees, .inl ⟨rfl, .procedure (quietRest _),
          ⟨state.world.setRegistry _ declared, state.frames, state.forwarding⟩⟩⟩
  | unprobed unprobed =>
    cases task with
    | procedure quiet =>
      cases quiet with
      | native quietCallee quietRest =>
        rw [state.world.boundary] at unprobed
        exact ⟨_, .single (.unprobed unprobed), agrees,
          .inl ⟨rfl, .procedure quietCallee, state⟩⟩
  | unprobedCalled unprobed completes =>
    cases task with
    | procedure quiet =>
      cases quiet with
      | native quietCallee quietRest =>
        rw [state.world.boundary] at unprobed
        obtain ⟨_, _, otherCompletes, alike, told⟩ :=
          lockstep.follows completes (.procedure quietCallee) _ state
        exact ⟨_, .single (.unprobedCalled unprobed otherCompletes),
          agreement.completing completes otherCompletes told agrees,
          .inl ⟨rfl, .procedure (quietRest _), alike⟩⟩
  | probed probed begun entered =>
    cases task with
    | procedure quiet =>
      cases quiet with
      | native quietCallee quietRest =>
        rw [state.world.boundary] at probed begun
        exact ⟨_, .single (.probed probed begun entered), agreement.emitting _ _ agrees,
          .inl ⟨rfl, .procedure quietCallee, (state.onBoundary _).emitAll _ _ _ _⟩⟩
  | probedCalled probed begun entered completes =>
    cases task with
    | procedure quiet =>
      cases quiet with
      | native quietCallee quietRest =>
        rw [state.world.boundary] at probed begun
        obtain ⟨_, _, otherCompletes, alike, told⟩ :=
          lockstep.follows completes (.procedure quietCallee) _
            ((state.onBoundary _).emitAll _ _ _ _)
        exact ⟨_, .single (.probedCalled probed begun entered otherCompletes),
          agreement.emitting _ _
            (agreement.completing completes otherCompletes told (agreement.emitting _ _ agrees)),
          .inl ⟨rfl, .procedure (quietRest _), alike.emitAll _ _ _ _⟩⟩
  | @dispatched runtime callee _ arguments _ _ _ _ found =>
    cases task
    have answers := lockstep.find?_alike (state.world.overloads runtime) callee arguments
    rw [found] at answers
    generalize foundOther : callee.find? (otherState.world.registry runtime) arguments = other
      at answers
    cases answers with
    | some related =>
      exact ⟨_, .single (.dispatched foundOther), agrees, .inl ⟨rfl, .call related, state⟩⟩
  | plain force =>
    cases task with
    | call related => exact call related state agrees (.plain force)
  | straight force busy =>
    cases task with
    | call related => exact call related state agrees (.straight force busy)
  | rewriting force idle =>
    cases task with
    | call related => exact call related state agrees (.rewriting force idle)
  | forwarding force idle rewrote =>
    cases task with
    | call related => exact call related state agrees (.forwarding force idle rewrote)
  | settling force idle rewrote forwarded =>
    cases task with
    | call related =>
      exact call related state agrees (.settling force idle rewrote forwarded)

/-- Wherever a run comes, a run from an alike moment comes too. -/
theorem arrives (shadows : likeness.Shadows agree) {start moment other : Moment}
    (alike : start.Alike likeness other) (agrees : agree start.account other.account)
    (arrives : start.Arrives moment) : moment.Shadowed likeness agree other := by
  induction arrives with
  | refl => exact ⟨other, .refl, agrees, .inl alike⟩
  | tail _ leads inductionHypothesis =>
    obtain ⟨reached, otherArrives, agrees, ⟨alike⟩ | ⟨_, finished⟩⟩ := inductionHypothesis
    · obtain ⟨further, reaches, shown⟩ := shadows.leads alike agrees leads
      exact ⟨further, otherArrives.trans reaches, shown⟩
    · -- Nothing follows an end.
      cases leads <;> cases finished

end Likeness.Shadows

end Intercept
