/-
This file proves that calls are undisturbed by hooks that are installed while they run. Take
bodies that install nothing, and hooks that only trace. Whatever a strand has captured then only
traces, so what is still to be done, read without the tracers in it, tells how the strand ends in
the process with nothing installed: if it ends with an outcome after a step, it ends with the same
outcome before the step. So the outcome with which a call ends is the one that it has alone in the
unhooked process.
-/
import Intercept.Proofs.Strand
import Mathlib.Data.List.Infix

namespace Intercept

/-! ### Unhooked worlds -/

theorem World.registry_absent {world : World} {runtime : RuntimeId}
    (absent : world.registries.length ≤ runtime) : world.registry runtime = {} := by
  rw [World.registry, List.getD_eq_getElem?_getD, List.getElem?_eq_none absent]
  rfl

/-- The overload with nothing over it. -/
def Overload.unhooked (overload : Overload) : Overload :=
  { overload with installed := none }

/-- The registry with nothing over any overload. -/
def Registry.unhooked (registry : Registry) : Registry :=
  { registry with overloads := registry.overloads.map Overload.unhooked }

/-- The world with nothing over any overload. -/
def World.unhooked (world : World) : World :=
  { world with registries := world.registries.map Registry.unhooked }

theorem World.registry_unhooked (world : World) (runtime : RuntimeId) :
    world.unhooked.registry runtime = (world.registry runtime).unhooked := by
  simp only [World.registry, unhooked, List.getD_eq_getElem?_getD, List.getElem?_map]
  cases world.registries[runtime]? <;> rfl

theorem Registry.declarations_unhooked (registry : Registry) :
    registry.unhooked.declarations = registry.declarations := by
  rw [declarations, unhooked, List.map_map]
  rfl

/-- Whatever is called in an unhooked world has nothing over it. -/
theorem World.installed_unhooked {world : World} {runtime : RuntimeId} {overload : Overload}
    (member : overload ∈ (world.unhooked.registry runtime).overloads) :
    overload.installed = none := by
  rw [registry_unhooked] at member
  obtain ⟨_, -, rfl⟩ := List.mem_map.mp member
  rfl

/-- Putting a registry back changes nothing. -/
theorem World.setRegistry_registry (world : World) (runtime : RuntimeId) :
    world.setRegistry runtime (world.registry runtime) = world := by
  by_cases present : runtime < world.registries.length
  · have itself : world.registry runtime = world.registries[runtime] := by
      rw [World.registry, List.getD_eq_getElem?_getD, List.getElem?_eq_getElem present]
      rfl
    rw [setRegistry, itself, List.set_getElem_self]
  · exact world.setRegistry_absent _ (Nat.le_of_not_lt present)

/-! ### What is declared decides where calls go -/

/-- What a call reaches is told by what is declared. -/
theorem Callee.find?_declared (callee : Callee) (registry : Registry) (arguments : List Value) :
    (callee.find? registry arguments).map
        (fun overload => (overload.reference, overload.declaredBody)) =
      registry.declarations.find? (callee.accepts arguments ∘ Prod.fst) := by
  rw [find?_eq, Registry.declarations, List.find?_map]
  rfl

/-- What a call reaches, it reaches when more is declared. -/
theorem Callee.find?_of_declarations (callee : Callee) {registry other : Registry}
    (grows : registry.declarations <+: other.declarations) {arguments : List Value}
    {overload : Overload} (found : callee.find? registry arguments = some overload) :
    ∃ reached, callee.find? other arguments = some reached ∧
      reached.reference = overload.reference ∧ reached.declaredBody = overload.declaredBody := by
  have asked := callee.find?_declared registry arguments
  obtain ⟨rest, appended⟩ := grows
  have otherAsked := callee.find?_declared other arguments
  rw [← appended, List.find?_append, ← asked, found] at otherAsked
  obtain ⟨reached, reaches, declared⟩ := Option.map_eq_some_iff.mp otherAsked
  exact ⟨reached, reaches, Prod.mk.inj declared⟩

theorem Callee.find?_none_of_declarations (callee : Callee) {registry other : Registry}
    (same : other.declarations = registry.declarations) {arguments : List Value}
    (missing : callee.find? registry arguments = none) : callee.find? other arguments = none := by
  have asked := callee.find?_declared other arguments
  rw [same, ← find?_declared, missing] at asked
  exact Option.map_eq_none_iff.mp asked

theorem Registry.Declares.declarations {permitted : Body → Prop} {registry after : Registry}
    (declares : registry.Declares permitted after) :
    registry.declarations <+: after.declarations := by
  cases declares with
  | classes same =>
    unfold Registry.declarations
    rw [same]
  | method _ _ appended =>
    unfold Registry.declarations
    rw [appended, List.map_append]
    exact List.prefix_append _ _

namespace World

variable {world after : World}

/-- A change leaves everything that is declared. -/
theorem Turns.declarations (turns : world.Turns after) (runtime : RuntimeId) :
    (world.registry runtime).declarations <+: (after.registry runtime).declarations := by
  cases turns with
  | aside beside =>
    rw [registry_congr beside.registries]
  | refused => exact List.prefix_rfl
  | hooked found =>
    rw [declarations_hooked found]
  | @declared changed registry extend =>
    rcases world.registry_setRegistry_cases changed runtime registry with reads | ⟨rfl, reads⟩
    · rw [reads]
    · rw [reads]
      exact extend.declares.declarations
  | @replaced changed _ _ _ found =>
    rcases world.registry_setRegistry_cases changed runtime _ with reads | ⟨rfl, reads⟩
    · rw [reads]
    · rw [reads, Registry.declarations_putBody]

theorem Becomes.declarations (becomes : world.Becomes after) (runtime : RuntimeId) :
    (world.registry runtime).declarations <+: (after.registry runtime).declarations := by
  induction becomes with
  | refl => exact List.prefix_rfl
  | tail _ turns inductionHypothesis => exact inductionHypothesis.trans (turns.declarations runtime)

/-- A change leaves the number of runtimes. -/
theorem Turns.runtimes (turns : world.Turns after) :
    after.registries.length = world.registries.length := by
  cases turns with
  | aside beside => rw [beside.registries]
  | refused => rfl
  | hooked | declared | replaced => exact List.length_set

theorem Becomes.runtimes (becomes : world.Becomes after) :
    after.registries.length = world.registries.length := by
  induction becomes with
  | refl => rfl
  | tail _ turns inductionHypothesis => exact turns.runtimes.trans inductionHypothesis

end World

/-! ### What happens to the world of a process -/

theorem Strand.Steps.becomes {strand next : Strand} {world after : World} {news : List News}
    (steps : strand.Steps world news next after) : world.Becomes after := by
  cases steps with
  | tell | probed => exact .single (.aside ⟨rfl, rfl, rfl⟩)
  | hook => exact (World.becomes_byHooking world _ _).hookTarget _ [] .refl
  | install => exact (World.becomes_byHooking world _ _).installHook [] _ _ .refl
  | define => exact .single (.declared (.declareMethod ..))
  | _ => exact .refl

theorem Process.Reaches.becomes {process after : Process} (reaches : process.Reaches after) :
    process.world.Becomes after.world := by
  induction reaches with
  | refl => exact .refl
  | tail _ leads inductionHypothesis =>
    cases leads with
    | made => exact inductionHypothesis
    | stepped _ steps => exact inductionHypothesis.trans steps.becomes
    | installed _ leads => exact leads.becomes inductionHypothesis

/-! ### Transparent worlds -/

/-- That all declared bodies install nothing, and that whatever is installed only traces. -/
structure World.Transparent (world : World) : Prop where
  distinct : ∀ runtime, (world.registry runtime).Distinct
  overloads : ∀ runtime, ∀ overload ∈ (world.registry runtime).overloads, overload.Transparent

namespace World.Transparent

variable {world after : World}

theorem of_registries (transparent : world.Transparent)
    (same : after.registries = world.registries) : after.Transparent :=
  ⟨registry_congr same ▸ transparent.distinct, registry_congr same ▸ transparent.overloads⟩

theorem declared (transparent : world.Transparent) {runtime : RuntimeId} {registry : Registry}
    (declares : (world.registry runtime).Declares Body.Quiet registry) :
    (world.setRegistry runtime registry).Transparent where
  distinct reader := by
    rcases world.registry_setRegistry_cases runtime reader registry with reads | ⟨rfl, reads⟩ <;>
      rw [reads]
    · exact transparent.distinct reader
    · exact declares.distinct (transparent.distinct reader)
  overloads reader overload member := by
    rcases mem_declared declares member with before | ⟨_, _, -, quiet, rfl⟩
    · exact transparent.overloads reader overload before
    · exact ⟨quiet, fun _ given => by cases given⟩

theorem byHooking (monitor : Monitor) {hook : Hook} (only : hook.OnlyTraces) :
    KeptByHooking monitor hook fun _ world => world.Transparent where
  hooked := by
    intro _ world reference path overload found transparent
    refine ⟨fun runtime => ?_, fun runtime after member => transparent_hooked only
      (transparent.distinct _) transparent.overloads found member⟩
    rw [Registry.Distinct, Registry.references_eq, declarations_hooked found,
      ← Registry.references_eq]
    exact transparent.distinct runtime
  refused transparent := transparent.of_registries rfl
  diagnosed transparent := transparent.of_registries rfl

/-- Installing hooks that only trace keeps a world transparent. -/
theorem of_leads (transparent : world.Transparent) {operation : Operation}
    (only : operation.OnlyTraces) {log : List Installation} {state : State}
    (leads : operation.Leads { world } log state) : state.world.Transparent := by
  cases leads with
  | install => exact (byHooking _ only).installHook [] _ _ transparent
  | hookTarget => exact (byHooking _ only).hookTarget _ [] transparent
  | @sweepClass _ _ hook =>
    exact sweepClass_kept (byHooking _ hook.withoutTransforms_onlyTraces) _ [] transparent
  | _ => cases only

end World.Transparent

/-! ### Transparent strands -/

/-- That what is still to be done installs nothing and only traces. -/
def Pending.Transparent : Pending → Prop
  | .answer _ next | .join _ _ next => ∀ outcome, (next outcome).Quiet
  | .cross _ _ next => ∀ word, (next word).Quiet
  | .leave => True
  | .forward _ tracer => tracer.hook.OnlyTraces ∧ Body.Quiet tracer.declaredBody
  | .settle _ tracer | .close _ tracer _ => tracer.hook.OnlyTraces

/-- That what is done next installs nothing and only traces. -/
def Focus.Transparent : Focus → Prop
  | .perform _ (.procedure work) => work.Quiet
  | .perform _ (.call overload _ _) => overload.Transparent
  | .perform _ (.dispatch _ _ _) | .deliver _ => True

/-- That whatever a strand has captured installs nothing and only traces. -/
structure Strand.Transparent (strand : Strand) : Prop where
  focus : strand.focus.Transparent
  pending : ∀ pending ∈ strand.pending, pending.Transparent

namespace Strand

variable {strand next : Strand} {world after : World} {news : List News}

theorem Transparent.beginning (runtime : RuntimeId) (callee : Callee) (receiver : Value)
    (arguments : List Value) : (Strand.beginning runtime callee receiver arguments).Transparent :=
  ⟨trivial, fun _ member => by cases member⟩

/-- A step of a transparent strand keeps its world transparent. -/
theorem Steps.world_transparent (steps : strand.Steps world news next after)
    (transparent : strand.Transparent) (worldTransparent : world.Transparent) :
    after.Transparent := by
  cases steps with
  | tell | probed => exact worldTransparent.of_registries rfl
  | hook | install => cases transparent.focus
  | define =>
    cases transparent.focus with
    | define quiet _ =>
      exact worldTransparent.declared (Registry.declareMethod_declares _ _ _ _ quiet)
  | _ => exact worldTransparent

/-- A step of a transparent strand in a transparent world keeps it transparent. -/
theorem Steps.transparent (steps : strand.Steps world news next after)
    (transparent : strand.Transparent) (worldTransparent : world.Transparent) :
    next.Transparent := by
  obtain ⟨focus, pending⟩ := transparent
  cases steps with
  | tell => exact ⟨focus, pending⟩
  | finish => exact ⟨trivial, pending⟩
  | refused => exact ⟨trivial, pending⟩
  | call =>
    cases focus with
    | call rest => exact ⟨trivial, List.forall_mem_cons.mpr ⟨rest, pending⟩⟩
  | frames =>
    cases focus with
    | frames rest => exact ⟨rest _, pending⟩
  | spawn =>
    cases focus with
    | spawn works rest => exact ⟨works, List.forall_mem_cons.mpr ⟨rest, pending⟩⟩
  | hook | install => cases focus
  | define =>
    cases focus with
    | define _ rest => exact ⟨rest _, pending⟩
  | unprobed | probed =>
    cases focus with
    | native calls rest => exact ⟨calls, List.forall_mem_cons.mpr ⟨rest, pending⟩⟩
  | @dispatched runtime callee _ _ overload _ _ _ found =>
    exact ⟨worldTransparent.overloads runtime overload (callee.mem_of_find? found), pending⟩
  | plain force =>
    refine ⟨?_, List.forall_mem_cons.mpr ⟨trivial, pending⟩⟩
    rw [focus.plain_eq force]
    exact focus.quiet _ _
  | straight force =>
    refine ⟨?_, List.forall_mem_cons.mpr ⟨trivial, pending⟩⟩
    rw [(focus.traced_eq force).1]
    exact focus.quiet _ _
  | rewrite force =>
    obtain ⟨wraps, only⟩ := focus.traced_eq force
    refine ⟨?_, List.forall_mem_cons.mpr
      ⟨⟨only, wraps ▸ focus.quiet⟩, List.forall_mem_cons.mpr ⟨trivial, pending⟩⟩⟩
    rw [Tracer.rewriting_of_onlyTraces only]
    exact .finish
  | forward =>
    obtain ⟨⟨only, quiet⟩, rest⟩ := List.forall_mem_cons.mp pending
    exact ⟨quiet _ _, List.forall_mem_cons.mpr ⟨only, rest⟩⟩
  | settle =>
    obtain ⟨only, rest⟩ := List.forall_mem_cons.mp pending
    refine ⟨?_, List.forall_mem_cons.mpr ⟨only, rest⟩⟩
    rw [Tracer.settling_of_onlyTraces only]
    exact .finish
  | close | leave => exact ⟨trivial, (List.forall_mem_cons.mp pending).2⟩
  | answer | join | cross =>
    obtain ⟨rest, others⟩ := List.forall_mem_cons.mp pending
    exact ⟨rest _, others⟩

end Strand

/-- That nothing in a process installs hooks in the course of a call, and that all hooks only
trace. -/
structure Process.Transparent (process : Process) : Prop where
  world : process.world.Transparent
  strands : ∀ strand ∈ process.strands, strand.Transparent

namespace Process.Transparent

variable {process after : Process}

theorem make (transparent : process.Transparent) (runtime : RuntimeId) (callee : Callee)
    (receiver : Value) (arguments : List Value) :
    (process.make runtime callee receiver arguments).Transparent where
  world := transparent.world
  strands strand member := by
    rcases List.mem_append.mp member with before | isNew
    · exact transparent.strands strand before
    · exact List.mem_singleton.mp isNew ▸ .beginning runtime callee receiver arguments

theorem of_leads (transparent : process.Transparent) (leads : process.Leads after) :
    after.Transparent := by
  cases leads with
  | made => exact transparent.make _ _ _ _
  | stepped present steps =>
    have strandTransparent := transparent.strands _ (List.mem_of_getElem? present)
    refine ⟨steps.world_transparent strandTransparent transparent.world, fun strand member => ?_⟩
    rcases List.mem_or_eq_of_mem_set member with before | rfl
    · exact transparent.strands strand before
    · exact steps.transparent strandTransparent transparent.world
  | installed only leads =>
    exact ⟨transparent.world.of_leads only leads, transparent.strands⟩

theorem of_reaches (transparent : process.Transparent) (reaches : process.Reaches after) :
    after.Transparent := by
  induction reaches with
  | refl => exact transparent
  | tail _ leads inductionHypothesis => exact inductionHypothesis.of_leads leads

end Process.Transparent

/-! ### Where nothing is declared -/

/-- That nothing has been declared since a world. -/
structure World.Still (start world : World) : Prop where
  runtimes : world.registries.length = start.registries.length
  declarations : ∀ runtime,
    (world.registry runtime).declarations = (start.registry runtime).declarations

/-- If nothing has been declared in the end, nothing has been declared on the way. -/
theorem World.Still.between {start middle after : World} (still : start.Still after)
    (before : start.Becomes middle) (behind : middle.Becomes after) : start.Still middle where
  runtimes := before.runtimes
  declarations runtime := by
    have grows := before.declarations runtime
    have growsOn := behind.declarations runtime
    rw [still.declarations] at growsOn
    exact growsOn.eq_of_length_le grows.length_le

/-- In the unhooked world a declaration that declares nothing answers the same and declares
nothing. -/
theorem World.Still.declareMethod {start world : World} {runtime : RuntimeId}
    {container member : String} {parameters : List String} {body : Body}
    (before : start.Still world)
    (after : start.Still (world.setRegistry runtime
      ((world.registry runtime).declareMethod container member parameters body).2)) :
    ((world.registry runtime).declareMethod container member parameters body).1 =
        ((start.unhooked.registry runtime).declareMethod container member parameters body).1 ∧
      start.unhooked.setRegistry runtime
        ((start.unhooked.registry runtime).declareMethod container member parameters body).2 =
          start.unhooked := by
  have runtimes : start.unhooked.registries.length = world.registries.length :=
    (List.length_map _).trans before.runtimes.symm
  have declared : (start.unhooked.registry runtime).declarations =
      (world.registry runtime).declarations := by
    rw [registry_unhooked, Registry.declarations_unhooked, before.declarations]
  rcases (world.registry runtime).declareMethod_cases container member parameters body with
    ⟨isDeclared, refused⟩ | ⟨_, _, appended⟩
  · obtain ⟨overload, found⟩ := Option.isSome_iff_exists.mp isDeclared
    have asked : (Callee.exactly ⟨container, member, ⟨parameters⟩⟩).find?
        (world.registry runtime) [] = some overload := found
    have grows : (world.registry runtime).declarations <+:
        (start.unhooked.registry runtime).declarations := declared ▸ List.prefix_rfl
    obtain ⟨reached, reaches, -⟩ := Callee.find?_of_declarations _ grows asked
    have otherRefused : (start.unhooked.registry runtime).declareMethod container member
        parameters body = _ := if_pos (Option.isSome_of_eq_some reaches)
    rw [refused, otherRefused]
    exact ⟨rfl, setRegistry_registry _ _⟩
  · by_cases present : runtime < world.registries.length
    · have grown := congrArg List.length ((after.declarations runtime).trans
        (before.declarations runtime).symm)
      rw [registry_setRegistry_self _ _ _ present, Registry.declarations, Registry.declarations,
        appended] at grown
      simp at grown
    · have absent := Nat.le_of_not_lt present
      rw [registry_absent absent, registry_absent (runtimes ▸ absent)]
      exact ⟨rfl, setRegistry_absent _ _ (runtimes ▸ absent)⟩

/-! ### What a task gives in a world -/

/-- That in whatever world with the same registries, and in the same frames, a task completes
with an outcome and leaves the registries as they are. -/
def World.Gives (given : World) (runtime : RuntimeId) (task : Task) (frames : List String)
    (outcome : Outcome) : Prop :=
  ∀ world forwarding, world.registries = given.registries →
    ∃ episodes after,
      Completes runtime task ⟨world, frames, forwarding⟩ episodes outcome
        ⟨after, frames, forwarding⟩ ∧
      after.registries = given.registries

namespace World.Gives

variable {given : World} {runtime : RuntimeId} {frames : List String} {answer outcome : Outcome}

theorem finish : given.Gives runtime (.procedure (.finish outcome)) frames outcome :=
  fun _ _ same => ⟨_, _, .finish, same⟩

theorem of_finish
    (gives : given.Gives runtime (.procedure (.finish answer)) frames outcome) :
    outcome = answer := by
  obtain ⟨_, _, completes, -⟩ := gives given [] rfl
  cases completes
  rfl

theorem call {elsewhere : Option RuntimeId} {container member : String} {receiver : Value}
    {arguments : List Value} {next : Outcome → Procedure}
    (called : given.Gives (elsewhere.getD runtime)
      (.dispatch (.method container member) receiver arguments) frames answer)
    (rest : given.Gives runtime (.procedure (next answer)) frames outcome) :
    given.Gives runtime (.procedure (.call elsewhere container member receiver arguments next))
      frames outcome := by
  intro world forwarding same
  obtain ⟨_, middle, called, same⟩ := called world forwarding same
  obtain ⟨_, after, rest, same⟩ := rest middle forwarding same
  exact ⟨_, after, .call called rest, same⟩

theorem readFrames {next : List String → Procedure}
    (rest : given.Gives runtime (.procedure (next frames)) frames outcome) :
    given.Gives runtime (.procedure (.frames next)) frames outcome := by
  intro world forwarding same
  obtain ⟨_, after, rest, same⟩ := rest world forwarding same
  exact ⟨_, after, .frames rest, same⟩

theorem spawn {work : Procedure} {next : Outcome → Procedure}
    (worked : given.Gives runtime (.procedure work) [] answer)
    (rest : given.Gives runtime (.procedure (next answer)) frames outcome) :
    given.Gives runtime (.procedure (.spawn work next)) frames outcome := by
  intro world forwarding same
  obtain ⟨_, middle, worked, same⟩ := worked world [] same
  obtain ⟨_, after, rest, same⟩ := rest middle forwarding same
  exact ⟨_, after, .spawn worked rest, same⟩

/-- A declaration that declares nothing only answers. -/
theorem define {container member : String} {parameters : List String} {body : Body}
    {next : Except HookFailure OverloadRef → Procedure}
    (unchanged : given.setRegistry runtime
      ((given.registry runtime).declareMethod container member parameters body).2 = given)
    (rest : given.Gives runtime
      (.procedure (next
        ((given.registry runtime).declareMethod container member parameters body).1))
      frames outcome) :
    given.Gives runtime (.procedure (.define container member parameters body next)) frames
      outcome := by
  intro world forwarding same
  have kept : (world.setRegistry runtime
      ((world.registry runtime).declareMethod container member parameters body).2).registries =
        given.registries := by
    rw [registry_congr same]
    show world.registries.set runtime _ = given.registries
    rw [same]
    exact congrArg World.registries unchanged
  obtain ⟨episodes, after, rest, same'⟩ := rest _ forwarding kept
  refine ⟨episodes, after, .define ?_, same'⟩
  rw [registry_congr same] at rest ⊢
  exact rest

/-- A native call gives what its callee gives, whether a probe reports it or not. -/
theorem native {address : UInt64} {arguments : List Boundary.Argument} {callee : Procedure}
    {next : Int64 → Procedure}
    (called : given.Gives runtime (.procedure callee) frames answer)
    (rest : given.Gives runtime (.procedure (next answer.asWord)) frames outcome) :
    given.Gives runtime (.procedure (.native address arguments callee next)) frames outcome := by
  intro world forwarding same
  cases probed : world.boundary.probeAt? address with
  | none =>
    obtain ⟨_, middle, called, same⟩ := called world forwarding same
    obtain ⟨_, after, rest, same⟩ := rest middle forwarding same
    exact ⟨_, after, .nativeUnprobed probed called rest, same⟩
  | some probe =>
    have entering : (({ world with boundary := world.boundary.beginCrossing.2 } : World).emitAll
        probe.emitter (probe.enter arguments world.boundary.beginCrossing.1).1).registries =
          given.registries := by
      rw [emitAll_eq]
      exact same
    obtain ⟨_, middle, called, same⟩ := called _ forwarding entering
    have leaving : (middle.emitAll probe.emitter
        ((probe.enter arguments world.boundary.beginCrossing.1).2.leave answer.asWord)).registries =
          given.registries := by
      rw [emitAll_eq]
      exact same
    obtain ⟨_, after, rest, same⟩ := rest _ forwarding leaving
    exact ⟨_, after, .nativeProbed probed rfl rfl called rest, same⟩

theorem refused {callee : Callee} {receiver : Value} {arguments : List Value}
    (missing : callee.find? (given.registry runtime) arguments = none) :
    given.Gives runtime (.dispatch callee receiver arguments) frames
      (.raised (.noneAccepts callee.name arguments.length)) :=
  fun _ _ same => ⟨_, _, .refused (registry_congr same ▸ missing), same⟩

theorem dispatch {callee : Callee} {receiver : Value} {arguments : List Value}
    {overload : Overload}
    (found : callee.find? (given.registry runtime) arguments = some overload)
    (nothing : overload.installed = none)
    (ran : given.Gives runtime (.procedure (overload.declaredBody receiver arguments))
      (overload.reference.key :: frames) outcome) :
    given.Gives runtime (.dispatch callee receiver arguments) frames outcome := by
  intro world forwarding same
  have force : overload.bodyInForce = .plain overload.declaredBody := by
    rw [Overload.bodyInForce, nothing]
    rfl
  rw [← registry_congr same] at found
  obtain ⟨within, after, ran, same⟩ := ran world forwarding same
  have called : Completes runtime (.call overload receiver arguments)
      ⟨world, frames, forwarding⟩
      [.plain ⟨runtime, overload.reference, receiver, arguments⟩ within outcome] outcome
      (State.popFrame ⟨after, overload.reference.key :: frames, forwarding⟩) := .plain force ran
  exact ⟨_, after, .dispatched found called, same⟩

end World.Gives

/-! ### How strands end in a world -/

/-- That handing an outcome on to what is to be done ends with an outcome in the end. -/
inductive Resumes (given : World) :
    List Pending → List String → Outcome → Outcome → Prop where
  | done {frames : List String} {outcome : Outcome} : Resumes given [] frames outcome outcome
  | answer {runtime : RuntimeId} {next : Outcome → Procedure} {pending : List Pending}
      {frames : List String} {outcome answer final : Outcome}
      (gives : given.Gives runtime (.procedure (next outcome)) frames answer)
      (rest : Resumes given pending frames answer final) :
      Resumes given (.answer runtime next :: pending) frames outcome final
  | join {runtime : RuntimeId} {thread : Thread} {next : Outcome → Procedure}
      {pending : List Pending} {frames : List String} {outcome answer final : Outcome}
      (gives : given.Gives runtime (.procedure (next outcome)) thread.frames answer)
      (rest : Resumes given pending thread.frames answer final) :
      Resumes given (.join runtime thread next :: pending) frames outcome final
  | cross {runtime : RuntimeId} {probed : Option (EmitterId × Boundary.Crossing)}
      {next : Int64 → Procedure} {pending : List Pending} {frames : List String}
      {outcome answer final : Outcome}
      (gives : given.Gives runtime (.procedure (next outcome.asWord)) frames answer)
      (rest : Resumes given pending frames answer final) :
      Resumes given (.cross runtime probed next :: pending) frames outcome final
  | leave {pending : List Pending} {frames : List String} {outcome final : Outcome}
      (rest : Resumes given pending frames.tail outcome final) :
      Resumes given (.leave :: pending) frames outcome final
  | forward {site : Site} {tracer : Tracer} {pending : List Pending} {frames : List String}
      {rewritten answer final : Outcome}
      (gives : given.Gives site.runtime
        (.procedure (tracer.declaredBody site.receiver rewritten.asArguments)) frames answer)
      (rest : Resumes given pending frames answer final) :
      Resumes given (.forward site tracer :: pending) frames rewritten final
  | settle {site : Site} {tracer : Tracer} {pending : List Pending} {frames : List String}
      {outcome final : Outcome} (rest : Resumes given pending frames outcome final) :
      Resumes given (.settle site tracer :: pending) frames outcome final
  | close {site : Site} {tracer : Tracer} {pending : List Pending} {frames : List String}
      {outcome delivery final : Outcome} {passage : Passage}
      (isPassage : passage = ⟨tracer, site.arguments, frames, outcome, delivery⟩)
      (rest : Resumes given pending frames passage.result final) :
      Resumes given (.close site tracer outcome :: pending) frames delivery final

/-- That what is done next gives an outcome. A call of an overload that has been read gives what
its declared body gives. -/
def Focus.Gives (given : World) (frames : List String) (outcome : Outcome) : Focus → Prop
  | .deliver answer => outcome = answer
  | .perform runtime (.call overload receiver arguments) =>
    given.Gives runtime (.procedure (overload.declaredBody receiver arguments))
      (overload.reference.key :: frames) outcome
  | .perform runtime task => given.Gives runtime task frames outcome

/-- That a strand ends with an outcome in a world, with nothing else going on. -/
def Strand.Gives (given : World) (strand : Strand) (final : Outcome) : Prop :=
  ∃ answer, strand.focus.Gives given strand.thread.frames answer ∧
    Resumes given strand.pending strand.thread.frames answer final

/-- If a strand ends with an outcome in the unhooked world after a step, it does so before the
step, as long as the step declares nothing. -/
theorem Strand.Steps.gives {start world after : World} {strand next : Strand} {news : List News}
    {final : Outcome} (steps : strand.Steps world news next after)
    (transparent : strand.Transparent) (before : start.Still world) (still : start.Still after)
    (gives : next.Gives start.unhooked final) : strand.Gives start.unhooked final := by
  obtain ⟨answer, gives, resumes⟩ := gives
  obtain ⟨focus, pending⟩ := transparent
  have declared (runtime : RuntimeId) : (start.unhooked.registry runtime).declarations =
      (world.registry runtime).declarations := by
    rw [World.registry_unhooked, Registry.declarations_unhooked, before.declarations]
  cases steps with
  | tell => exact ⟨answer, gives, resumes⟩
  | finish => exact ⟨answer, gives ▸ .finish, resumes⟩
  | call =>
    cases resumes with
    | answer rest others => exact ⟨_, .call gives rest, others⟩
  | frames => exact ⟨answer, .readFrames gives, resumes⟩
  | spawn =>
    cases resumes with
    | join rest others => exact ⟨_, .spawn gives rest, others⟩
  | hook | install => cases focus
  | define =>
    obtain ⟨same, unchanged⟩ := before.declareMethod still
    rw [same] at gives
    exact ⟨answer, .define unchanged gives, resumes⟩
  | unprobed | probed =>
    cases resumes with
    | cross rest others => exact ⟨_, .native gives rest, others⟩
  | @dispatched runtime callee receiver arguments overload _ _ _ found =>
    -- In the unhooked world the call reaches the same declared body, with nothing over it.
    have grows : (world.registry runtime).declarations <+:
        (start.unhooked.registry runtime).declarations := declared runtime ▸ List.prefix_rfl
    obtain ⟨reached, reaches, reference, declaredBody⟩ := callee.find?_of_declarations grows found
    have ran : start.unhooked.Gives runtime (.procedure (overload.declaredBody receiver arguments))
        (overload.reference.key :: _) answer := gives
    rw [← reference, ← declaredBody] at ran
    have nothing := World.installed_unhooked (callee.mem_of_find? reaches)
    exact ⟨answer, .dispatch reaches nothing ran, resumes⟩
  | @refused runtime callee _ _ _ _ _ missing =>
    refine ⟨answer, ?_, resumes⟩
    cases gives
    exact .refused (callee.find?_none_of_declarations (declared runtime) missing)
  | plain force =>
    cases resumes with
    | leave others =>
      rw [focus.plain_eq force] at gives
      exact ⟨answer, gives, others⟩
  | straight force =>
    cases resumes with
    | leave others =>
      rw [(focus.traced_eq force).1] at gives
      exact ⟨answer, gives, others⟩
  | rewrite force =>
    -- The tracer forwards the arguments as they are, to the declared body.
    obtain ⟨wraps, only⟩ := focus.traced_eq force
    rw [Tracer.rewriting_of_onlyTraces only] at gives
    cases World.Gives.of_finish gives
    cases resumes with
    | forward ran rest =>
      cases rest with
      | leave others =>
        rw [wraps] at ran
        exact ⟨_, ran, others⟩
  | forward =>
    cases resumes with
    | settle others => exact ⟨_, rfl, .forward gives others⟩
  | settle =>
    rw [Tracer.settling_of_onlyTraces (List.forall_mem_cons.mp pending).1] at gives
    cases World.Gives.of_finish gives
    cases resumes with
    | close isPassage others =>
      subst isPassage
      rw [Passage.result_of_delivery rfl] at others
      exact ⟨_, rfl, .settle others⟩
  | close isPassage =>
    cases gives
    exact ⟨_, rfl, .close isPassage resumes⟩
  | leave => exact ⟨_, rfl, gives ▸ .leave resumes⟩
  | answer => exact ⟨_, rfl, .answer gives resumes⟩
  | join => exact ⟨_, rfl, .join gives resumes⟩
  | cross => exact ⟨_, rfl, .cross gives resumes⟩

/-! ### How strands end in a process -/

/-- If a strand ends with an outcome in the unhooked world after whatever has happened to it and
around it, it does so before that, as long as nothing is declared. -/
theorem Process.Reaches.gives {start : World} {process after : Process} {index : Nat}
    {last : Strand} {final : Outcome} (reaches : process.Reaches after)
    (ended : after.strands[index]? = some last) (gives : last.Gives start.unhooked final)
    (still : start.Still after.world) (transparent : process.Transparent)
    (becomes : start.Becomes process.world) {strand : Strand}
    (present : process.strands[index]? = some strand) : strand.Gives start.unhooked final := by
  induction reaches using Relation.ReflTransGen.head_induction_on generalizing strand with
  | refl =>
    rw [present] at ended
    exact Option.some.inj ended ▸ gives
  | @head process middle leads rest inductionHypothesis =>
    have stillBefore := still.between becomes (Process.Reaches.becomes (.head leads rest))
    have becomesOn := becomes.trans (Process.Reaches.becomes (.single leads))
    have stillOn := still.between becomesOn (Process.Reaches.becomes rest)
    have goesOn {next : Strand} (present : middle.strands[index]? = some next) :
        next.Gives start.unhooked final :=
      inductionHypothesis (transparent.of_leads leads) becomesOn present
    rcases leads.follows present with ⟨presentOn, -⟩ | ⟨_, next, _, steps, rfl⟩
    · exact goesOn presentOn
    · exact steps.gives (transparent.strands _ (List.mem_of_getElem? present)) stillBefore stillOn
        (goesOn (strands_advance_self present ..))

/-- However a call runs in a process in which hooks are installed and other calls run, the
outcome with which it ends is the one that it has alone in the unhooked process. -/
theorem Process.Reaches.alone {before after : Process} (transparent : before.Transparent)
    {runtime : RuntimeId} {callee : Callee} {receiver : Value} {arguments : List Value}
    (goesOn : (before.make runtime callee receiver arguments).Reaches after)
    (still : before.world.Still after.world) {outcome : Outcome} {thread : Thread}
    (ended : after.strands[before.strands.length]? = some ⟨.deliver outcome, [], thread, []⟩) :
    ∃ bound last, ∀ fuel, bound ≤ fuel →
      callee.call (run fuel) runtime receiver arguments { world := before.world.unhooked } =
        some (outcome, last) := by
  obtain ⟨answer, gives, resumes⟩ := goesOn.gives ended ⟨outcome, rfl, .done⟩ still
    (transparent.make runtime callee receiver arguments) .refl (strands_make ..)
  cases resumes
  obtain ⟨_, last, completes, -⟩ := gives before.world.unhooked [] rfl
  obtain ⟨bound, ends⟩ := completes.ends
  exact ⟨bound, _, ends⟩

end Intercept
