/-
This file proves that installing hooks anew under load loses and duplicates nothing. Calls run on
any number of threads over one process, step by step and in any order, and hooks that only trace
are installed at any moment. A call of an overload that was hooked before the call was made, and
that reaches this overload only once, then ends as it would alone in the unhooked process; and
what is emitted for it is the entry and one closing event of the one tracer that the call has
read when it was dispatched, whatever has been installed since.
-/
import Intercept.Proofs.Bracketing
import Intercept.Proofs.Course

namespace Intercept

/-! ### Once hooked, always hooked -/

/-- That something is installed over an overload. -/
def Registry.Overlays (registry : Registry) (reference : OverloadRef) : Prop :=
  ∃ overload ∈ registry.overloads,
    overload.reference = reference ∧ overload.installed.isSome

namespace Registry

variable {registry after : Registry} {reference : OverloadRef}

theorem Overlays.putBody (overlays : registry.Overlays reference) (changed : OverloadRef)
    (body : BodyInForce) : (registry.putBody changed body).Overlays reference := by
  obtain ⟨overload, member, isReference, hooked⟩ := overlays
  refine ⟨_, List.mem_map_of_mem member, ?_⟩
  by_cases same : overload.reference = changed
  · rw [if_pos same]
    exact ⟨isReference, rfl⟩
  · rw [if_neg same]
    exact ⟨isReference, hooked⟩

theorem Overlays.declares {permitted : Body → Prop} (overlays : registry.Overlays reference)
    (declares : registry.Declares permitted after) : after.Overlays reference := by
  obtain ⟨overload, member, facts⟩ := overlays
  cases declares with
  | classes same => exact ⟨overload, same ▸ member, facts⟩
  | method _ _ appended => exact ⟨overload, appended ▸ List.mem_append_left _ member, facts⟩

end Registry

/-- What has been hooked stays hooked. -/
theorem World.Turns.overlays {world after : World} (turns : world.Turns after)
    {runtime : RuntimeId} {reference : OverloadRef}
    (overlays : (world.registry runtime).Overlays reference) :
    (after.registry runtime).Overlays reference := by
  cases turns with
  | aside beside => rwa [registry_congr beside.registries]
  | refused => exact overlays
  | @hooked monitor _ overload _ _ found =>
    by_cases same : runtime = monitor.runtime
    · subst same
      rw [registry_hooked_self found]
      exact overlays.putBody _ _
    · rwa [registry_hooked_other same]
  | @declared changed registry extend =>
    rcases world.registry_setRegistry_cases changed runtime registry with reads | ⟨rfl, reads⟩ <;>
      rw [reads]
    · exact overlays
    · exact overlays.declares extend.declares
  | @replaced changed =>
    rcases world.registry_setRegistry_cases changed runtime _ with reads | ⟨rfl, reads⟩ <;>
      rw [reads]
    · exact overlays
    · exact overlays.putBody _ _

theorem World.Becomes.overlays {world after : World} (becomes : world.Becomes after)
    {runtime : RuntimeId} {reference : OverloadRef}
    (overlays : (world.registry runtime).Overlays reference) :
    (after.registry runtime).Overlays reference := by
  induction becomes with
  | refl => exact overlays
  | tail _ turns inductionHypothesis => exact turns.overlays inductionHypothesis

/-- A call that would reach a hooked overload reaches this overload later, with a tracer over
it. -/
theorem World.Transparent.traced {world later : World} (transparent : later.Transparent)
    (becomes : world.Becomes later) {callee : Callee} {runtime : RuntimeId}
    {arguments : List Value} {overload : Overload}
    (found : callee.find? (world.registry runtime) arguments = some overload)
    (hooked : overload.installed.isSome) :
    ∃ read tracer, callee.find? (later.registry runtime) arguments = some read ∧
      read.reference = overload.reference ∧ read.bodyInForce = .traced tracer ∧
      tracer.hook.OnlyTraces := by
  obtain ⟨read, reaches, isReference, -⟩ :=
    callee.find?_of_declarations (becomes.declarations runtime) found
  have overlays : (later.registry runtime).Overlays overload.reference :=
    becomes.overlays ⟨overload, callee.mem_of_find? found, rfl, hooked⟩
  obtain ⟨standing, member, same, hooked⟩ := overlays
  have sameOverload : standing = read :=
    (transparent.distinct runtime).eq_of_overload? member (same.trans isReference.symm)
      (callee.overload?_of_find? (transparent.distinct runtime) reaches)
  subst sameOverload
  obtain ⟨body, installed⟩ := Option.isSome_iff_exists.mp hooked
  obtain ⟨tracer, rfl, -, only⟩ :=
    (transparent.overloads runtime standing member).installed body installed
  refine ⟨standing, tracer, reaches, isReference, ?_, only⟩
  rw [Overload.bodyInForce, installed]
  rfl

/-! ### What is known of strands -/

namespace Process

variable {process after : Process}

/-- How often an overload has been reached in a strand only grows. -/
theorem Reaches.reachedIn_le (reaches : process.Reaches after)
    (place : RuntimeId × OverloadRef) (index : Nat) :
    (reachedIn place (process.newsAt index)).length ≤
      (reachedIn place (after.newsAt index)).length := by
  have grows : process.history <+: after.history := by
    induction reaches with
    | refl => exact List.prefix_rfl
    | tail _ leads inductionHypothesis =>
      cases leads with
      | made | installed => exact inductionHypothesis
      | stepped => exact inductionHypothesis.trans (List.prefix_append _ _)
  exact ((grows.filterMap _).filterMap _).length_le

/-- That all steps that are known are steps of strands. -/
def Placed (process : Process) : Prop :=
  ∀ entry ∈ process.history, entry.1 < process.strands.length

theorem Placed.of_leads (placed : process.Placed) (leads : process.Leads after) :
    after.Placed := by
  intro entry member
  cases leads with
  | made =>
    rw [make, List.length_append]
    exact Nat.lt_add_right _ (placed entry member)
  | installed => exact placed entry member
  | stepped present =>
    rw [advance, List.length_set]
    rcases List.mem_append.mp member with before | new
    · exact placed entry before
    · obtain ⟨_, -, rfl⟩ := List.mem_map.mp new
      exact (List.getElem?_eq_some_iff.mp present).1

theorem Placed.of_reaches (placed : process.Placed) (reaches : process.Reaches after) :
    after.Placed := by
  induction reaches with
  | refl => exact placed
  | tail _ leads inductionHypothesis => exact inductionHypothesis.of_leads leads

/-- Nothing is known of a strand that is not there yet. -/
theorem Placed.newsAt_fresh (placed : process.Placed) :
    process.newsAt process.strands.length = [] :=
  List.filterMap_eq_nil_iff.mpr fun entry member => if_neg (Nat.ne_of_lt (placed entry member))

/-! ### What is emitted -/

/-- What has been emitted by strands, in order. -/
def emissions (process : Process) : List Emission :=
  process.history.filterMap fun entry => entry.2.telling?.map Telling.emission

end Process

/-- A step emits what is known to have been told in it. -/
theorem Strand.Steps.emissions {strand next : Strand} {world after : World} {news : List News}
    (steps : strand.Steps world news next after) :
    after.sink.emissions = world.sink.emissions ++
      news.filterMap fun news => news.telling?.map Telling.emission := by
  cases steps with
  | tell => exact World.emissions_emit ..
  | hook =>
    rw [List.filterMap_nil, List.append_nil]
    exact (KeptByHooking.emissions _ _ _).hookTarget _ [] rfl
  | install =>
    rw [List.filterMap_nil, List.append_nil]
    exact (KeptByHooking.emissions _ _ _).installHook [] _ _ rfl
  | _ => exact (List.append_nil _).symm

namespace Process

variable {process after : Process}

/-- All that is emitted is emitted by strands. -/
theorem Reaches.emissions {world : World} (reaches : Reaches { world } after) :
    after.world.sink.emissions = world.sink.emissions ++ after.emissions := by
  induction reaches with
  | refl => exact (List.append_nil _).symm
  | @tail middle after _ leads inductionHypothesis =>
    cases leads with
    | made => exact inductionHypothesis
    | stepped _ steps =>
      refine steps.emissions.trans ?_
      rw [inductionHypothesis, Process.emissions, Process.emissions, advance,
        List.filterMap_append, List.filterMap_map, List.append_assoc]
      rfl
    | installed only leads =>
      refine Eq.trans ?_ inductionHypothesis
      cases leads with
      | install => exact (KeptByHooking.emissions _ _ _).installHook [] _ _ rfl
      | hookTarget => exact (KeptByHooking.emissions _ _ _).hookTarget _ [] rfl
      | sweepClass => exact World.sweepClass_kept (KeptByHooking.emissions _ _ _) _ [] rfl
      | _ => cases only

/-! ### From the dispatch on -/

/-- The process in which the call at a site, which the strand at an index makes, has read the
overload that it reaches. -/
def dispatched (process : Process) (index : Nat) (site : Site) (overload : Overload) : Process :=
  process.advance index [.reached site overload]
    ⟨.perform site.runtime (.call overload site.receiver site.arguments), [], {}, []⟩
    process.world

section Dispatch

variable {index : Nat} {runtime : RuntimeId} {callee : Callee} {receiver : Value}
  {arguments : List Value}

/-- A call that has moved on has been dispatched at some moment, if it reaches something
whenever that is. -/
theorem Reaches.dispatches {strand : Strand} (reaches : process.Reaches after)
    (waits : process.strands[index]? = some (.beginning runtime callee receiver arguments))
    (present : after.strands[index]? = some strand)
    (moved : strand ≠ .beginning runtime callee receiver arguments)
    (finds : ∀ {world : World}, process.world.Becomes world →
      callee.find? (world.registry runtime) arguments ≠ none) :
    ∃ before read, process.Reaches before ∧
      before.strands[index]? = some (.beginning runtime callee receiver arguments) ∧
      before.newsAt index = process.newsAt index ∧
      callee.find? (before.world.registry runtime) arguments = some read ∧
      before.Leads
        (before.dispatched index ⟨runtime, read.reference, receiver, arguments⟩ read) ∧
      (before.dispatched index ⟨runtime, read.reference, receiver, arguments⟩ read).Reaches
        after := by
  induction reaches using Relation.ReflTransGen.head_induction_on with
  | refl => exact absurd (Option.some.inj (present.symm.trans waits)) moved
  | @head process middle leads rest inductionHypothesis =>
    rcases leads.follows waits with ⟨waitsOn, same⟩ | ⟨_, next, _, steps, rfl⟩
    · obtain ⟨before, read, reaches, waits, news, dispatched⟩ := inductionHypothesis waitsOn
        fun becomes => finds ((Reaches.becomes (.single leads)).trans becomes)
      exact ⟨before, read, .head leads reaches, waits, news.trans same, dispatched⟩
    · cases steps with
      | dispatched found => exact ⟨process, _, .refl, waits, rfl, found, leads, rest⟩
      | refused missing => exact absurd missing (finds .refl)

/-- From a moment on at which a call is in the course of a traced call, it stays in it, unless
its overload is reached once more. -/
theorem Reaches.course {site : Site} {tracer : Tracer} {strand : Strand}
    (reaches : process.Reaches after) (only : tracer.hook.OnlyTraces)
    (once : (reachedIn site.place (after.newsAt index)).length ≤ 1)
    (reached : 1 ≤ (reachedIn site.place (process.newsAt index)).length)
    (present : process.strands[index]? = some strand)
    (course : Course site tracer strand (tracedIn site.place (process.newsAt index))) :
    ∃ last, after.strands[index]? = some last ∧
      Course site tracer last (tracedIn site.place (after.newsAt index)) := by
  induction reaches using Relation.ReflTransGen.head_induction_on generalizing strand with
  | refl => exact ⟨strand, present, course⟩
  | @head process middle leads rest inductionHypothesis =>
    rcases leads.follows present with ⟨presentOn, same⟩ | ⟨news, next, _, steps, rfl⟩
    · rw [← same] at reached course
      exact inductionHypothesis reached presentOn course
    · have reachedOn := Nat.le_trans (Reaches.reachedIn_le rest site.place index) once
      rw [newsAt_advance_self] at reachedOn inductionHypothesis
      rw [reachedIn_append, List.length_append] at reachedOn inductionHypothesis
      -- It has been reached before, so this step does not reach it once more.
      have none : reachedIn site.place news = [] := List.length_eq_zero_iff.mp (by omega)
      have courseOn := course.steps only steps none
      rw [← tracedIn_append] at courseOn
      exact inductionHypothesis (Nat.le_add_right_of_le reached)
        (strands_advance_self present ..) courseOn

/-- A call that has read that a tracer is over its overload, and has come to its end, has told
of this overload the entry and the closing event of this tracer, unless the overload has been
reached once more. -/
theorem Reaches.traced {site : Site} {read : Overload} {tracer : Tracer} {strand : Strand}
    {outcome : Outcome} {thread : Thread}
    (reaches : (process.dispatched index site read).Reaches after)
    (silent : process.newsAt index = []) (waits : process.strands[index]? = some strand)
    (isReference : read.reference = site.reference) (force : read.bodyInForce = .traced tracer)
    (only : tracer.hook.OnlyTraces)
    (once : (reachedIn site.place (after.newsAt index)).length ≤ 1)
    (ended : after.strands[index]? = some ⟨.deliver outcome, [], thread, []⟩) :
    tracedIn site.place (after.newsAt index) =
      (tracer.entry site ++ [tracer.ending outcome]).map (Prod.mk tracer) := by
  have news : (process.dispatched index site read).newsAt index = [.reached site read] := by
    rw [dispatched, newsAt_advance_self, silent]
    rfl
  have reached : 1 ≤ (reachedIn site.place
      ((process.dispatched index site read).newsAt index)).length := by
    rw [news, reachedIn_self]
    exact Nat.le_refl 1
  have begun : Course site tracer
      ⟨.perform site.runtime (.call read site.receiver site.arguments), [], {}, []⟩
      (tracedIn site.place ((process.dispatched index site read).newsAt index)) := by
    rw [news]
    exact .read isReference force
  obtain ⟨last, present, course⟩ :=
    reaches.course only once reached (strands_advance_self waits ..) begun
  cases ended.symm.trans present
  exact course.ended

end Dispatch

end Process

/-! ### Re-installing under load -/

/-- What there is to say about a call at a site that is made in a process and has ended with an
outcome in a later one, where the process comes from a world with nothing installed. -/
structure Process.LosesNothing (declared : World) (before after : Process) (callee : Callee)
    (site : Site) (outcome : Outcome) : Prop where
  /-- The call ends as it does alone in the unhooked process, as long as registries are changed
  by installing hooks only. -/
  ends : (∀ runtime, (after.world.registry runtime).declarations =
      (before.world.registry runtime).declarations) →
    ∃ bound last, ∀ fuel, bound ≤ fuel →
      callee.call (run fuel) site.runtime site.receiver site.arguments
        { world := before.world.unhooked } = some (outcome, last)
  /-- At some moment the call has read that a tracer is over its overload; and what tracers have
  emitted for it is the entry and one closing event for the outcome, both of this tracer. -/
  traced : ∃ dispatching read tracer,
    (before.make site.runtime callee site.receiver site.arguments).Reaches dispatching ∧
    callee.find? (dispatching.world.registry site.runtime) site.arguments = some read ∧
    read.bodyInForce = .traced tracer ∧
    dispatching.Leads (dispatching.dispatched before.strands.length site read) ∧
    (dispatching.dispatched before.strands.length site read).Reaches after ∧
    tracedIn site.place (after.newsAt before.strands.length) =
      (tracer.entry site ++ [tracer.ending outcome]).map (Prod.mk tracer)
  /-- What strands have emitted, in this order, is what the world has got. -/
  written : after.world.sink.emissions = declared.sink.emissions ++ after.emissions

/-- However calls on other threads run meanwhile, and whatever hooks that only trace are installed
meanwhile: a call of a hooked overload that reaches this overload only once ends as without hooks,
with one entry and one closing event of the one tracer that it has read. -/
theorem reinstalling_loses_nothing {host : Host} {runtimes : Nat}
    {declarations : List Installation} {declared : State} {before after : Process}
    (declares : Evolves Operation.DeclaresQuietly (State.initial host runtimes) declarations
      declared)
    (begins : Process.Reaches { world := declared.world } before) {runtime : RuntimeId}
    {callee : Callee} {receiver : Value} {arguments : List Value} {overload : Overload}
    (found : callee.find? (before.world.registry runtime) arguments = some overload)
    (hooked : overload.installed.isSome)
    (goesOn : (before.make runtime callee receiver arguments).Reaches after)
    {outcome : Outcome} {thread : Thread}
    (ended : after.strands[before.strands.length]? = some ⟨.deliver outcome, [], thread, []⟩)
    (once : (reachedIn (runtime, overload.reference)
      (after.newsAt before.strands.length)).length ≤ 1) :
    Process.LosesNothing declared.world before after callee
      ⟨runtime, overload.reference, receiver, arguments⟩ outcome := by
  have bare := declares.bare.tracedOver declares.pristine
  have declaredTransparent : Process.Transparent { world := declared.world } :=
    ⟨⟨bare.pristine.distinct, bare.transparent⟩, fun _ member => by cases member⟩
  have transparent := declaredTransparent.of_reaches begins
  have made : Process.Reaches { world := declared.world }
      (before.make runtime callee receiver arguments) := begins.tail (.made ..)
  refine
    { ends := fun still => goesOn.alone transparent ⟨goesOn.becomes.runtimes, still⟩ ended
      traced := ?_
      written := Process.Reaches.emissions (made.trans goesOn) }
  obtain ⟨dispatching, read, reaches, waits, silent, finds, leads, rest⟩ :=
    goesOn.dispatches (Process.strands_make ..) ended (fun same => by cases same)
      fun {world} becomes missing => by
        obtain ⟨_, reached, -⟩ :=
          callee.find?_of_declarations (becomes.declarations runtime) found
        cases missing.symm.trans reached
  obtain ⟨_, tracer, reached, isReference, force, only⟩ :=
    (declaredTransparent.of_reaches (made.trans reaches)).world.traced reaches.becomes found hooked
  cases finds.symm.trans reached
  rw [isReference] at leads rest
  have placed : Process.Placed { world := declared.world } := fun _ member => by cases member
  have fresh := (placed.of_reaches begins).newsAt_fresh
  exact ⟨dispatching, read, tracer, reaches, finds, force, leads, rest,
    rest.traced (silent.trans fresh) waits isReference force only once ended⟩

/-- A process with a method that gives its arguments back. -/
def jobs : State :=
  { world := (State.initial {} 1).world.setRegistry 0
      (({} : Registry).declareMethod "Job" "run" ["String"] fun _ arguments =>
        .finish (.returned (.list arguments))).2 }

/-- The world with the method hooked anew, for tracing only. -/
def World.rehookJob (world : World) (path : String) (backtrace : Bool) : World :=
  (world.installHook ⟨0, 0⟩ ⟨"Job", "run", ⟨["String"]⟩⟩ path { backtrace }).2

/-- A call that has been dispatched when its overload is hooked anew, with snapshots of the
frames. Before it ends, another call is made, which reads the new tracer. -/
theorem reinstalling_loses_nothing_overtaken :
    ∃ (before after : Process) (overload : Overload) (outcome : Outcome) (thread : Thread),
      Evolves Operation.DeclaresQuietly (State.initial {} 1) [] jobs ∧
      Process.Reaches { world := jobs.world } before ∧
      Callee.find? (.method "Job" "run") (before.world.registry 0) [.str "x"] = some overload ∧
      overload.installed.isSome ∧
      (before.make 0 (.method "Job" "run") .null [.str "x"]).Reaches after ∧
      after.strands[before.strands.length]? = some ⟨.deliver outcome, [], thread, []⟩ ∧
      (reachedIn (0, overload.reference) (after.newsAt before.strands.length)).length ≤ 1 ∧
      after.emissions.map (fun emission => emission.event) =
        [.entered "Job.first" [(Value.str "x").render] none,
          .entered "Job.second" [(Value.str "y").render] none,
          .frames "Job.second" (renderFrames ["Job.run(String)"]),
          .left "Job.first" (Value.list [.str "x"]).render none] ∧
      Process.LosesNothing jobs.world before after (.method "Job" "run")
        ⟨0, overload.reference, .null, [.str "x"]⟩ outcome := by
  have quiet : Operation.DeclaresQuietly
      (.declareMethod 0 "Job" "run" ["String"] fun _ arguments =>
        .finish (.returned (.list arguments))) :=
    fun _ _ => .finish
  have declares : Evolves Operation.DeclaresQuietly (State.initial {} 1) [] jobs :=
    .step .start quiet .declareMethod
  have install {start process : Process} (reaches : start.Reaches process) (path : String)
      (backtrace : Bool) :
      start.Reaches { process with world := process.world.rehookJob path backtrace } :=
    reaches.tail (.installed
      (show Operation.OnlyTraces (.install ⟨0, 0⟩ _ path { backtrace }) from ⟨rfl, rfl⟩) .install)
  have step {start process : Process} {strand next : Strand} {news : List News} {world : World}
      (reaches : start.Reaches process) (index : Nat)
      (present : process.strands[index]? = some strand)
      (steps : strand.Steps process.world news next world) :
      start.Reaches (process.advance index news next world) :=
    reaches.tail (.stepped present steps)
  have begins : Process.Reaches { world := jobs.world }
    { world := jobs.world.rehookJob "Job.first" false } := install .refl "Job.first" false
  have first := step .refl 0
    (Process.strands_make { world := jobs.world.rehookJob "Job.first" false } 0
      (.method "Job" "run") .null [.str "x"])
    (.dispatched rfl)
  have first := install first "Job.second" true
  have first := step first 0 rfl (.rewrite rfl (by decide))
  have first := step first 0 rfl .finish
  have first := step first 0 rfl .forward
  have first := step first 0 rfl .tell
  have second := first.tail (.made 0 (.method "Job" "run") .null [.str "y"])
  have second := step second 1 rfl (.dispatched rfl)
  have second := step second 1 rfl (.rewrite rfl (by decide))
  have second := step second 1 rfl .finish
  have second := step second 1 rfl .forward
  have second := step second 1 rfl .tell
  have second := step second 1 rfl .tell
  have third := step second 0 rfl .finish
  have third := step third 0 rfl .settle
  have third := step third 0 rfl .finish
  have third := step third 0 rfl (.close rfl)
  have third := step third 0 rfl .tell
  have third := step third 0 rfl .leave
  exact ⟨_, _, _, _, _, declares, begins, rfl, rfl, third, rfl, Nat.le_refl 1, rfl,
    reinstalling_loses_nothing declares begins rfl rfl third rfl (Nat.le_refl 1)⟩

end Intercept
