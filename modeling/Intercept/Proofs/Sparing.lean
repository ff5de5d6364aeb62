/-
This file follows runs in two worlds that are side by side. As long as no call comes to an overload
that is set apart, both runs do the same. What the one run completes or comes to, the other one does
as well, with the same calls on the way and with the same outcome, and bodies observe the same. It
is enough that one of the two runs keeps off what is set apart, since the other one goes where this
one goes.
-/
import Intercept.Proofs.Pairing

namespace Intercept

/-! ### The calls of a run -/

mutual

/-- The calls that are made in an episode: where each of them arrived. -/
def Episode.sites : Episode → List Site
  | .framesRead _ => []
  | .plain site within _ => site :: sitesOf within
  | .straight site _ within _ => site :: sitesOf within
  | .traced site _ rewriting within delivering =>
    site :: (sitesOf rewriting ++ sitesOf within ++ sitesOf delivering)
  | .spawned work => sitesOf work
  | .crossed _ _ within _ => sitesOf within

/-- The calls that are made in episodes, in order. -/
def sitesOf : List Episode → List Site
  | [] => []
  | episode :: rest => episode.sites ++ sitesOf rest

end

@[simp]
theorem sitesOf_append (first second : List Episode) :
    sitesOf (first ++ second) = sitesOf first ++ sitesOf second := by
  induction first with
  | nil => rfl
  | cons episode rest inductionHypothesis =>
    rw [List.cons_append, sitesOf, sitesOf, inductionHypothesis, List.append_assoc]

/-- That the same calls are made in two lists of episodes, and bodies observe the same. -/
structure ToldAlike (episodes others : List Episode) : Prop where
  sites : sitesOf others = sitesOf episodes
  observations : observationsOf others = observationsOf episodes

namespace ToldAlike

variable {episodes others later laterOthers rewriting rewritingOthers delivering
  deliveringOthers : List Episode}

theorem append (first : ToldAlike episodes others) (second : ToldAlike later laterOthers) :
    ToldAlike (episodes ++ later) (others ++ laterOthers) where
  sites := by rw [sitesOf_append, sitesOf_append, first.sites, second.sites]
  observations := by
    rw [observationsOf_append, observationsOf_append, first.observations, second.observations]

theorem cons {episode other : Episode} (first : ToldAlike [episode] [other])
    (rest : ToldAlike later laterOthers) : ToldAlike (episode :: later) (other :: laterOthers) :=
  first.append rest

variable (told : ToldAlike episodes others)

include told

theorem observed (before : List Observation) :
    before ++ observationsOf others = before ++ observationsOf episodes :=
  congrArg (before ++ ·) told.observations

theorem spawned : ToldAlike [.spawned episodes] [.spawned others] where
  sites := by simp only [sitesOf, Episode.sites, told.sites]
  observations := by simp only [observationsOf, Episode.observations, told.observations]

theorem crossed (emitter : EmitterId) (entry leave : List Event) :
    ToldAlike [.crossed emitter entry episodes leave] [.crossed emitter entry others leave] where
  sites := by simp only [sitesOf, Episode.sites, told.sites]
  observations := by simp only [observationsOf, Episode.observations, told.observations]

theorem plain (site : Site) (outcome : Outcome) :
    ToldAlike [.plain site episodes outcome] [.plain site others outcome] where
  sites := by simp only [sitesOf, Episode.sites, told.sites]
  observations := by simp only [observationsOf, Episode.observations, told.observations]

theorem straight (site : Site) (tracer otherTracer : Tracer) (outcome : Outcome) :
    ToldAlike [.straight site tracer episodes outcome]
      [.straight site otherTracer others outcome] where
  sites := by simp only [sitesOf, Episode.sites, told.sites]
  observations := by simp only [observationsOf, Episode.observations, told.observations]

/-- What a traced call tells is the same, if its parts are and the same is forwarded. -/
theorem traced (toldRewriting : ToldAlike rewriting rewritingOthers)
    (toldDelivering : ToldAlike delivering deliveringOthers) (site : Site)
    {passage otherPassage : Passage} (forwarded : otherPassage.forwarded = passage.forwarded) :
    ToldAlike [.traced site passage rewriting episodes delivering]
      [.traced site otherPassage rewritingOthers others deliveringOthers] where
  sites := by
    simp only [sitesOf, Episode.sites, told.sites, toldRewriting.sites, toldDelivering.sites]
  observations := by
    simp only [observationsOf, Episode.observations, told.observations,
      toldRewriting.observations, toldDelivering.observations, forwarded]

end ToldAlike

/-! ### Keeping off some overloads -/

/-- That a run comes to no call of an overload that is set apart. -/
def Moment.Spares (apart : RuntimeId → OverloadRef → Prop) (start : Moment) : Prop :=
  ∀ ⦃moment⦄, start.Arrives moment → ∀ ⦃overload receiver arguments⦄,
    moment.task = .call overload receiver arguments → ¬ apart moment.runtime overload.reference

namespace Moment.Spares

variable {apart : RuntimeId → OverloadRef → Prop} {start moment : Moment}

theorem of_arrives (spares : start.Spares apart) (arrives : start.Arrives moment) :
    moment.Spares apart :=
  fun _ comes => spares (arrives.trans comes)

theorem of_leads (spares : start.Spares apart) (leads : start.Leads moment) :
    moment.Spares apart :=
  spares.of_arrives (.single leads)

end Moment.Spares

/-- What a task that completes leads to completes as well, and makes calls of the task only. -/
theorem Moment.Leads.within {moment next : Moment} (leads : moment.Leads next)
    {episodes : List Episode} {outcome : Outcome} {after : State}
    (completes : Completes moment.runtime moment.task moment.state episodes outcome after) :
    ∃ inner answer finished,
      Completes next.runtime next.task next.state inner answer finished ∧
        sitesOf inner ⊆ sitesOf episodes := by
  -- A completed part is completed in one way, so what follows it is the rest of the task.
  cases leads with
  | call =>
    cases completes with
    | call called rest =>
      exact ⟨_, _, _, called, by simp only [sitesOf_append, List.subset_append_left]⟩
  | called other =>
    cases completes with
    | call called rest =>
      obtain ⟨rfl, rfl, rfl⟩ := called.unique other
      exact ⟨_, _, _, rest, by simp only [sitesOf_append, List.subset_append_right]⟩
  | frames =>
    cases completes with
    | frames rest => exact ⟨_, _, _, rest, List.subset_append_right _ _⟩
  | spawn =>
    cases completes with
    | spawn worked rest => exact ⟨_, _, _, worked, List.subset_append_left _ _⟩
  | spawned other =>
    cases completes with
    | spawn worked rest =>
      obtain ⟨rfl, rfl, rfl⟩ := worked.unique other
      exact ⟨_, _, _, rest, List.subset_append_right _ _⟩
  | hook =>
    cases completes with
    | hook rest => exact ⟨_, _, _, rest, List.Subset.refl _⟩
  | install =>
    cases completes with
    | install rest => exact ⟨_, _, _, rest, List.Subset.refl _⟩
  | define =>
    cases completes with
    | define rest => exact ⟨_, _, _, rest, List.Subset.refl _⟩
  | unprobed unprobed =>
    cases completes with
    | nativeUnprobed _ called rest =>
      exact ⟨_, _, _, called, by simp only [sitesOf_append, List.subset_append_left]⟩
    | nativeProbed probed => cases unprobed.symm.trans probed
  | unprobedCalled unprobed other =>
    cases completes with
    | nativeUnprobed _ called rest =>
      obtain ⟨rfl, rfl, rfl⟩ := called.unique other
      exact ⟨_, _, _, rest, by simp only [sitesOf_append, List.subset_append_right]⟩
    | nativeProbed probed => cases unprobed.symm.trans probed
  | probed probed begun entered =>
    cases completes with
    | nativeUnprobed unprobed => cases unprobed.symm.trans probed
    | nativeProbed otherProbed otherBegun otherEntered called rest =>
      cases probed.symm.trans otherProbed
      cases begun.symm.trans otherBegun
      cases entered.symm.trans otherEntered
      exact ⟨_, _, _, called, List.subset_append_left _ _⟩
  | probedCalled probed begun entered other =>
    cases completes with
    | nativeUnprobed unprobed => cases unprobed.symm.trans probed
    | nativeProbed otherProbed otherBegun otherEntered called rest =>
      cases probed.symm.trans otherProbed
      cases begun.symm.trans otherBegun
      cases entered.symm.trans otherEntered
      obtain ⟨rfl, rfl, rfl⟩ := called.unique other
      exact ⟨_, _, _, rest, List.subset_append_right _ _⟩
  | dispatched found =>
    cases completes with
    | dispatched otherFound called =>
      cases found.symm.trans otherFound
      exact ⟨_, _, _, called, List.Subset.refl _⟩
    | refused missing => cases found.symm.trans missing
  | plain force =>
    cases completes with
    | plain otherForce ran =>
      cases force.symm.trans otherForce
      exact ⟨_, _, _, ran, fun _ isSite => by simp [sitesOf, Episode.sites, isSite]⟩
    | straight isTraced | traced isTraced => cases force.symm.trans isTraced
  | straight force busy =>
    cases completes with
    | plain isPlain => cases force.symm.trans isPlain
    | straight otherForce _ ran =>
      cases force.symm.trans otherForce
      exact ⟨_, _, _, ran, fun _ isSite => by simp [sitesOf, Episode.sites, isSite]⟩
    | traced otherForce idle =>
      cases force.symm.trans otherForce
      exact absurd busy idle
  | rewriting force idle =>
    cases completes with
    | plain isPlain => cases force.symm.trans isPlain
    | straight otherForce busy =>
      cases force.symm.trans otherForce
      exact absurd busy idle
    | traced otherForce _ isPassage rewrote forwarded delivered =>
      cases force.symm.trans otherForce
      exact ⟨_, _, _, rewrote, fun _ isSite => by simp [sitesOf, Episode.sites, isSite]⟩
  | forwarding force idle otherRewrote =>
    cases completes with
    | plain isPlain => cases force.symm.trans isPlain
    | straight otherForce busy =>
      cases force.symm.trans otherForce
      exact absurd busy idle
    | traced otherForce _ isPassage rewrote forwarded delivered =>
      cases force.symm.trans otherForce
      obtain ⟨rfl, rfl, rfl⟩ := rewrote.unique otherRewrote
      subst isPassage
      exact ⟨_, _, _, forwarded, fun _ isSite => by simp [sitesOf, Episode.sites, isSite]⟩
  | settling force idle otherRewrote otherForwarded =>
    cases completes with
    | plain isPlain => cases force.symm.trans isPlain
    | straight otherForce busy =>
      cases force.symm.trans otherForce
      exact absurd busy idle
    | traced otherForce _ isPassage rewrote forwarded delivered =>
      cases force.symm.trans otherForce
      obtain ⟨rfl, rfl, rfl⟩ := rewrote.unique otherRewrote
      subst isPassage
      obtain ⟨rfl, rfl, rfl⟩ := forwarded.unique otherForwarded
      exact ⟨_, _, _, delivered, fun _ isSite => by simp [sitesOf, Episode.sites, isSite]⟩

/-- Where a run comes, a task that completes there makes calls of the whole run only. -/
theorem Moment.Arrives.within {start moment : Moment} (arrives : start.Arrives moment)
    {episodes : List Episode} {outcome : Outcome} {after : State}
    (completes : Completes start.runtime start.task start.state episodes outcome after) :
    ∃ inner answer finished,
      Completes moment.runtime moment.task moment.state inner answer finished ∧
        sitesOf inner ⊆ sitesOf episodes := by
  induction arrives with
  | refl => exact ⟨_, _, _, completes, List.Subset.refl _⟩
  | tail _ leads inductionHypothesis =>
    obtain ⟨_, _, _, completes, subset⟩ := inductionHypothesis
    obtain ⟨_, _, _, completesThen, subsetThen⟩ := leads.within completes
    exact ⟨_, _, _, completesThen, List.Subset.trans subsetThen subset⟩

/-- A call that completes is one of the calls that it tells of. -/
theorem Completes.mem_sitesOf {runtime : RuntimeId} {overload : Overload} {receiver : Value}
    {arguments : List Value} {state after : State} {episodes : List Episode} {outcome : Outcome}
    (completes : Completes runtime (.call overload receiver arguments) state episodes outcome
      after) : ⟨runtime, overload.reference, receiver, arguments⟩ ∈ sitesOf episodes := by
  cases completes <;> exact List.mem_cons_self

/-- A run that completes keeps off what is set apart if none of the calls that it tells of is
one of an overload that is set apart. -/
theorem Completes.spares {apart : RuntimeId → OverloadRef → Prop} {runtime : RuntimeId}
    {task : Task} {state after : State} {episodes : List Episode} {outcome : Outcome}
    (completes : Completes runtime task state episodes outcome after)
    (off : ∀ site ∈ sitesOf episodes, ¬ apart site.runtime site.reference)
    (calls : List OpenCall) (observed : List Observation) :
    Moment.Spares apart ⟨runtime, task, state, calls, observed⟩ := by
  rintro ⟨_, task, _, _, _⟩ arrives overload receiver arguments isCall
  cases isCall
  obtain ⟨_, _, _, completes, subset⟩ := arrives.within completes
  exact off _ (subset completes.mem_sitesOf)

variable {comparison : Comparison}

/-- An overload is not set apart if one of two runs that call it keeps off what is. -/
theorem Overload.Paired.spared {runtime : RuntimeId} {overload other : Overload}
    (paired : overload.Paired comparison runtime other) {receiver otherReceiver : Value}
    {arguments otherArguments : List Value}
    {state otherState : State} {calls otherCalls : List OpenCall}
    {observed otherObserved : List Observation}
    (spares : Moment.Spares comparison.apart
        ⟨runtime, .call overload receiver arguments, state, calls, observed⟩ ∨
      Moment.Spares comparison.apart
        ⟨runtime, .call other otherReceiver otherArguments, otherState, otherCalls,
          otherObserved⟩) :
    ¬ comparison.apart runtime overload.reference := by
  rcases spares with spares | spares
  · exact spares .refl rfl
  · exact paired.reference ▸ spares .refl rfl

/-! ### Runs -/

/-- What completes in one world completes in the other one, with the same calls and with the same
outcome, as long as one of the two runs keeps off what is set apart. -/
theorem Completes.paired (unique : Relator.BiUnique comparison.renames) {runtime : RuntimeId}
    {task : Task} {state after : State} {episodes : List Episode} {outcome : Outcome}
    (completes : Completes runtime task state episodes outcome after) {otherTask : Task}
    (same : task.Paired comparison runtime otherTask) {other : State}
    (paired : state.Paired comparison other) {calls otherCalls : List OpenCall}
    {observed otherObserved : List Observation}
    (spares : Moment.Spares comparison.apart ⟨runtime, task, state, calls, observed⟩ ∨
      Moment.Spares comparison.apart ⟨runtime, otherTask, other, otherCalls, otherObserved⟩) :
    ∃ otherEpisodes otherAfter,
      Completes runtime otherTask other otherEpisodes outcome otherAfter ∧
        after.Paired comparison otherAfter ∧ ToldAlike episodes otherEpisodes := by
  -- A part that is done leads both runs on at once, so whichever of them keeps off what is set
  -- apart goes on to do so in the parts that follow.
  induction completes generalizing otherTask other calls otherCalls observed otherObserved with
  | finish =>
    cases same
    exact ⟨_, _, .finish, paired, rfl, rfl⟩
  | call called rest fromCall fromRest =>
    cases same
    obtain ⟨_, _, otherCalled, paired, toldCall⟩ :=
      fromCall .dispatch paired (spares.imp (·.of_leads .call) (·.of_leads .call))
    obtain ⟨_, _, otherRest, paired, toldRest⟩ := fromRest .procedure paired
      (spares.imp (·.of_leads (.called called)) (·.of_leads (.called otherCalled)))
    exact ⟨_, _, .call otherCalled otherRest, paired, toldCall.append toldRest⟩
  | frames rest fromRest =>
    cases same
    have leads := spares.imp (·.of_leads .frames) (·.of_leads .frames)
    rw [paired.frames] at leads
    obtain ⟨_, _, otherRest, after, told⟩ := fromRest .procedure paired leads
    rw [← paired.frames] at otherRest
    refine ⟨_, _, .frames otherRest, after, .cons ?_ told⟩
    rw [paired.frames]
    exact ⟨rfl, rfl⟩
  | spawn worked rest fromWork fromRest =>
    cases same
    obtain ⟨_, _, otherWorked, finished, toldWork⟩ := fromWork .procedure paired.world.onThread
      (spares.imp (·.of_leads .spawn) (·.of_leads .spawn))
    obtain ⟨_, _, otherRest, after, toldRest⟩ := fromRest .procedure (paired.backOnThread finished)
      (spares.imp (·.of_leads (.spawned worked)) (·.of_leads (.spawned otherWorked)))
    exact ⟨_, _, .spawn otherWorked otherRest, after, toldWork.spawned.cons toldRest⟩
  | hook rest fromRest =>
    cases same
    obtain ⟨sameAnswer, hooked⟩ := paired.world.hookTarget _ _ _
    have leads := spares.imp (·.of_leads .hook) (·.of_leads .hook)
    rw [sameAnswer] at leads
    obtain ⟨_, _, otherRest, after⟩ := fromRest .procedure (paired.onWorld hooked) leads
    rw [← sameAnswer] at otherRest
    exact ⟨_, _, .hook otherRest, after⟩
  | install rest fromRest =>
    cases same
    obtain ⟨sameAnswer, hooked⟩ := paired.world.installHook _ _ _ _
    have leads := spares.imp (·.of_leads .install) (·.of_leads .install)
    rw [sameAnswer] at leads
    obtain ⟨_, _, otherRest, after⟩ := fromRest .procedure (paired.onWorld hooked) leads
    rw [← sameAnswer] at otherRest
    exact ⟨_, _, .install otherRest, after⟩
  | define rest fromRest =>
    cases same
    obtain ⟨sameAnswer, declared⟩ := (paired.world.registry _).declareMethod _ _ _ _
    have leads := spares.imp (·.of_leads .define) (·.of_leads .define)
    rw [sameAnswer] at leads
    obtain ⟨_, _, otherRest, after⟩ := fromRest .procedure
      (paired.onWorld (paired.world.setRegistry _ declared)) leads
    rw [← sameAnswer] at otherRest
    exact ⟨_, _, .define otherRest, after⟩
  | nativeUnprobed unprobed called rest fromCall fromRest =>
    cases same
    have otherUnprobed := unprobed
    rw [← paired.world.boundary] at otherUnprobed
    obtain ⟨_, _, otherCalled, middle, toldCall⟩ := fromCall .procedure paired
      (spares.imp (·.of_leads (.unprobed unprobed)) (·.of_leads (.unprobed otherUnprobed)))
    obtain ⟨_, _, otherRest, after, toldRest⟩ := fromRest .procedure middle
      (spares.imp (·.of_leads (.unprobedCalled unprobed called))
        (·.of_leads (.unprobedCalled otherUnprobed otherCalled)))
    exact ⟨_, _, .nativeUnprobed otherUnprobed otherCalled otherRest, after,
      toldCall.append toldRest⟩
  | nativeProbed probed begun entered called rest fromCall fromRest =>
    cases same
    have otherProbed := probed
    have otherBegun := begun
    rw [← paired.world.boundary] at otherProbed otherBegun
    obtain ⟨_, _, otherCalled, middle, toldCall⟩ :=
      fromCall .procedure ((paired.onBoundary _).emitAll _ _)
        (spares.imp (·.of_leads (.probed probed begun entered))
          (·.of_leads (.probed otherProbed otherBegun entered)))
    obtain ⟨_, _, otherRest, after, toldRest⟩ := fromRest .procedure (middle.emitAll _ _)
      (spares.imp (·.of_leads (.probedCalled probed begun entered called))
        (·.of_leads (.probedCalled otherProbed otherBegun entered otherCalled)))
    exact ⟨_, _, .nativeProbed otherProbed otherBegun entered otherCalled otherRest, after,
      (toldCall.crossed _ _ _).cons toldRest⟩
  | dispatched found called fromCall =>
    cases same
    obtain ⟨_, otherFound, related⟩ := (paired.world.registry _).find?_some found
    obtain ⟨_, _, otherCalled, after⟩ := fromCall (.call related) paired
      (spares.imp (·.of_leads (.dispatched found)) (·.of_leads (.dispatched otherFound)))
    exact ⟨_, _, .dispatched otherFound otherCalled, after⟩
  | refused missing =>
    cases same
    exact ⟨_, _, .refused ((paired.world.registry _).find?_none missing), paired, rfl, rfl⟩
  | plain force ran fromBody =>
    obtain - | - | related := same
    have otherForce := related.plain (related.spared spares) force
    obtain ⟨_, _, otherRan, after, told⟩ :=
      fromBody .procedure (paired.pushFrame (congrArg _ related.reference))
        (spares.imp (·.of_leads (.plain force)) (·.of_leads (.plain otherForce)))
    refine ⟨_, _, .plain otherForce otherRan, after.popFrame, ?_⟩
    rw [related.reference]
    exact told.plain _ _
  | straight force busy ran fromBody =>
    obtain - | - | related := same
    obtain ⟨_, corresponds, otherForce⟩ := related.traced (related.spared spares) force
    have otherBusy := (paired.forwarding corresponds).mp busy
    have leads := spares.imp (·.of_leads (.straight force busy))
      (·.of_leads (.straight otherForce otherBusy))
    obtain ⟨_, _, otherRan, after, told⟩ :=
      fromBody .procedure (paired.pushFrame (congrArg _ related.reference)) leads
    refine ⟨_, _, .straight otherForce otherBusy otherRan, after.popFrame, ?_⟩
    rw [related.reference]
    exact told.straight _ _ _ _
  | @traced runtime _ tracer _ _ rewritten outcome delivery _ _ _ _ _ _ _ _ force idle isPassage
      rewrote forwarded delivered fromRewriting fromWithin fromDelivering =>
    -- The tracer in the other world may have another identity, and it is idle there as well.
    obtain - | - | related := same
    obtain ⟨identity, corresponds, otherForce⟩ := related.traced (related.spared spares) force
    have otherIdle := mt (paired.forwarding corresponds).mpr idle
    have leads := spares.imp (·.of_leads (.rewriting force idle))
      (·.of_leads (.rewriting otherForce otherIdle))
    obtain ⟨_, otherEntered, otherRewrote, entered, toldRewriting⟩ :=
      fromRewriting .procedure (paired.pushFrame (congrArg _ related.reference)) leads
    rw [← entered.frames] at isPassage
    subst isPassage
    let otherPassage : Passage := ⟨{ tracer with identity }, rewritten.asArguments,
      otherEntered.thread.frames, outcome, delivery⟩
    have leads := spares.imp (·.of_leads (.forwarding force idle rewrote))
      (·.of_leads (.forwarding otherForce otherIdle otherRewrote))
    rw [← entered.frames] at leads
    obtain ⟨_, _, otherForwarded, left, toldWithin⟩ :=
      fromWithin .procedure ((entered.emitAll _ _).beginForward unique corresponds) leads
    have leads :=
      spares.imp (·.of_leads (.settling force idle rewrote (entered.frames ▸ forwarded)))
        (·.of_leads (.settling otherForce otherIdle otherRewrote otherForwarded))
    have ended := (entered.emitAll _ _).endForward left forwarded.thread otherForwarded.thread
    obtain ⟨_, _, otherDelivered, settled, toldDelivering⟩ :=
      fromDelivering .procedure ended leads
    have completes : Completes runtime _ _ _ otherPassage.result _ :=
      .traced otherForce otherIdle rfl otherRewrote otherForwarded otherDelivered
    refine ⟨_, _, completes, (settled.emit _ _).popFrame, ?_⟩
    rw [related.reference]
    exact toldWithin.traced toldRewriting toldDelivering _ rfl

/-- What one world is led to, step by step, the other one is led to as well, as long as one of the
two runs keeps off what is set apart. -/
theorem Moment.Leads.paired (unique : Relator.BiUnique comparison.renames) {moment next : Moment}
    (leads : moment.Leads next) {other : Moment} (paired : moment.Paired comparison other)
    (spares : moment.Spares comparison.apart ∨ other.Spares comparison.apart) :
    ∃ otherNext, other.Leads otherNext ∧ next.Paired comparison otherNext := by
  obtain ⟨runtime, task, otherState, calls, observed⟩ := other
  obtain ⟨sameRuntime, sameTask, paired, sameObserved⟩ := paired
  dsimp only at sameRuntime sameTask sameObserved
  subst sameRuntime sameObserved
  cases leads with
  | call =>
    cases sameTask
    exact ⟨_, .call, rfl, .dispatch, paired, rfl⟩
  | called called =>
    cases sameTask
    obtain ⟨_, _, otherCalled, middle, told⟩ := called.paired unique .dispatch paired
      (spares.imp (·.of_leads .call) (·.of_leads .call))
    exact ⟨_, .called otherCalled, rfl, .procedure, middle, told.observed _⟩
  | frames =>
    cases sameTask
    refine ⟨_, .frames, rfl, paired.frames ▸ .procedure, paired, ?_⟩
    exact congrArg (fun keys => _ ++ [Observation.framesRead keys]) paired.frames
  | spawn =>
    cases sameTask
    exact ⟨_, .spawn, rfl, .procedure, paired.world.onThread, rfl⟩
  | spawned worked =>
    cases sameTask
    obtain ⟨_, _, otherWorked, finished, told⟩ := worked.paired unique .procedure
      paired.world.onThread (spares.imp (·.of_leads .spawn) (·.of_leads .spawn))
    exact ⟨_, .spawned otherWorked, rfl, .procedure, paired.backOnThread finished,
      told.observed _⟩
  | @hook _ elsewhere emitter target hook =>
    cases sameTask
    obtain ⟨sameAnswer, hooked⟩ :=
      paired.world.hookTarget ⟨elsewhere.getD _, emitter⟩ target hook
    exact ⟨_, .hook, rfl, sameAnswer ▸ .procedure, paired.onWorld hooked, rfl⟩
  | @install _ elsewhere emitter overload path hook =>
    cases sameTask
    obtain ⟨sameAnswer, hooked⟩ :=
      paired.world.installHook ⟨elsewhere.getD _, emitter⟩ overload path hook
    exact ⟨_, .install, rfl, sameAnswer ▸ .procedure, paired.onWorld hooked, rfl⟩
  | @define _ container member parameters body =>
    cases sameTask
    obtain ⟨sameAnswer, declared⟩ :=
      (paired.world.registry _).declareMethod container member parameters body
    exact ⟨_, .define, rfl, sameAnswer ▸ .procedure,
      paired.onWorld (paired.world.setRegistry _ declared), rfl⟩
  | unprobed unprobed =>
    cases sameTask
    rw [← paired.world.boundary] at unprobed
    exact ⟨_, .unprobed unprobed, rfl, .procedure, paired, rfl⟩
  | unprobedCalled unprobed called =>
    cases sameTask
    have otherUnprobed := unprobed
    rw [← paired.world.boundary] at otherUnprobed
    obtain ⟨_, _, otherCalled, middle, told⟩ := called.paired unique .procedure paired
      (spares.imp (·.of_leads (.unprobed unprobed)) (·.of_leads (.unprobed otherUnprobed)))
    exact ⟨_, .unprobedCalled otherUnprobed otherCalled, rfl, .procedure, middle,
      told.observed _⟩
  | probed probed begun entered =>
    cases sameTask
    rw [← paired.world.boundary] at probed begun
    exact ⟨_, .probed probed begun entered, rfl, .procedure,
      (paired.onBoundary _).emitAll _ _, rfl⟩
  | probedCalled probed begun entered called =>
    cases sameTask
    have otherProbed := probed
    have otherBegun := begun
    rw [← paired.world.boundary] at otherProbed otherBegun
    obtain ⟨_, _, otherCalled, middle, told⟩ :=
      called.paired unique .procedure ((paired.onBoundary _).emitAll _ _)
        (spares.imp (·.of_leads (.probed probed begun entered))
          (·.of_leads (.probed otherProbed otherBegun entered)))
    exact ⟨_, .probedCalled otherProbed otherBegun entered otherCalled, rfl, .procedure,
      middle.emitAll _ _, told.observed _⟩
  | dispatched found =>
    cases sameTask
    obtain ⟨_, otherFound, related⟩ := (paired.world.registry _).find?_some found
    exact ⟨_, .dispatched otherFound, rfl, .call related, paired, rfl⟩
  | plain force =>
    obtain - | - | related := sameTask
    have otherForce := related.plain (related.spared spares) force
    refine ⟨_, .plain otherForce, rfl, .procedure,
      paired.pushFrame (congrArg _ related.reference), ?_⟩
    rw [related.reference]
  | straight force busy =>
    obtain - | - | related := sameTask
    obtain ⟨_, corresponds, otherForce⟩ := related.traced (related.spared spares) force
    have otherBusy := (paired.forwarding corresponds).mp busy
    refine ⟨_, .straight otherForce otherBusy, rfl, .procedure,
      paired.pushFrame (congrArg _ related.reference), ?_⟩
    rw [related.reference]
  | rewriting force idle =>
    obtain - | - | related := sameTask
    obtain ⟨_, corresponds, otherForce⟩ := related.traced (related.spared spares) force
    have otherIdle := mt (paired.forwarding corresponds).mpr idle
    exact ⟨_, .rewriting otherForce otherIdle, rfl, .procedure,
      paired.pushFrame (congrArg _ related.reference), rfl⟩
  | forwarding force idle rewrote =>
    obtain - | - | related := sameTask
    obtain ⟨_, corresponds, otherForce⟩ := related.traced (related.spared spares) force
    have otherIdle := mt (paired.forwarding corresponds).mpr idle
    have spares := spares.imp (·.of_leads (.rewriting force idle))
      (·.of_leads (.rewriting otherForce otherIdle))
    obtain ⟨_, _, otherRewrote, entered, told⟩ := rewrote.paired unique .procedure
      (paired.pushFrame (congrArg _ related.reference)) spares
    refine ⟨_, .forwarding otherForce otherIdle otherRewrote, rfl, .procedure, ?_, ?_⟩
    · rw [entered.frames]
      exact (entered.emitAll _ _).beginForward unique corresponds
    · rw [told.observations, related.reference]
  | settling force idle rewrote forwarded =>
    obtain - | - | related := sameTask
    obtain ⟨_, corresponds, otherForce⟩ := related.traced (related.spared spares) force
    have otherIdle := mt (paired.forwarding corresponds).mpr idle
    have toRewriting := spares.imp (·.of_leads (.rewriting force idle))
      (·.of_leads (.rewriting otherForce otherIdle))
    obtain ⟨_, _, otherRewrote, entered, toldRewriting⟩ := rewrote.paired unique .procedure
      (paired.pushFrame (congrArg _ related.reference)) toRewriting
    have toForwarding := spares.imp (·.of_leads (.forwarding force idle rewrote))
      (·.of_leads (.forwarding otherForce otherIdle otherRewrote))
    rw [← entered.frames] at forwarded toForwarding
    obtain ⟨_, _, otherForwarded, left, toldWithin⟩ := forwarded.paired unique .procedure
      ((entered.emitAll _ _).beginForward unique corresponds) toForwarding
    refine ⟨_, .settling otherForce otherIdle otherRewrote otherForwarded, rfl, .procedure,
      (entered.emitAll _ _).endForward left forwarded.thread otherForwarded.thread, ?_⟩
    rw [toldRewriting.observations, toldWithin.observations, related.reference]

/-- What one world comes to, the other one comes to as well. -/
theorem Moment.Arrives.paired (unique : Relator.BiUnique comparison.renames)
    {start moment : Moment} (arrives : start.Arrives moment) {other : Moment}
    (paired : start.Paired comparison other)
    (spares : start.Spares comparison.apart ∨ other.Spares comparison.apart) :
    ∃ reached, other.Arrives reached ∧ moment.Paired comparison reached := by
  induction arrives with
  | refl => exact ⟨other, .refl, paired⟩
  | tail arrives leads inductionHypothesis =>
    obtain ⟨reached, otherArrives, paired⟩ := inductionHypothesis
    obtain ⟨next, otherLeads, paired⟩ := leads.paired unique paired
      (spares.imp (·.of_arrives arrives) (·.of_arrives otherArrives))
    exact ⟨next, otherArrives.tail otherLeads, paired⟩

/-- If one of two runs keeps off what is set apart, the other one does. -/
theorem Moment.Spares.of_paired (unique : Relator.BiUnique comparison.renames)
    {start other : Moment} (paired : start.Paired comparison other)
    (spares : start.Spares comparison.apart ∨ other.Spares comparison.apart) :
    start.Spares comparison.apart := by
  intro moment arrives overload receiver arguments isCall
  obtain ⟨reached, otherArrives, paired⟩ := arrives.paired unique paired spares
  obtain ⟨runtime, task, state, calls, observed⟩ := moment
  obtain ⟨_, otherTask, otherState, otherCalls, otherObserved⟩ := reached
  obtain ⟨rfl, sameTask, -, -⟩ := paired
  cases isCall
  obtain - | - | related := sameTask
  exact related.spared (spares.imp (·.of_arrives arrives) (·.of_arrives otherArrives))

end Intercept
