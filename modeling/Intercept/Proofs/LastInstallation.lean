/-
This file proves that only the last installation on an overload counts. A history is an
evolution in which calls install nothing by themselves. What is in force after a history is
told by its log: an overload has the tracer of the last installation on it, over the declared
body. So two histories that end with the same declarations and with the same last installations
end in worlds that differ in the identities of tracers only, and calls cannot tell them apart,
whether they end or not.
-/
import Intercept.Proofs.Reentrancy
import Intercept.Proofs.Renaming

namespace Intercept

/-! ### Histories -/

/-- Operations through which nothing is installed but by the operation itself. -/
def Operation.Quiet : Operation → Prop
  | .declareMethod _ _ _ _ body => Body.Quiet body
  | .install _ _ _ hook | .hookTarget _ _ hook => hook.Quiet
  | .declareClass _ _ | .declareMember _ _ _ | .sweepClass _ _ _ | .call _ _ _ _ => True

/-- What an installation puts in force, whatever its identity: the path, the hook and the
emitter. -/
structure Instrument where
  path : String
  hook : Hook
  emitter : EmitterId

/-- The instrument of an installation. -/
def Installation.instrument (installation : Installation) : Instrument :=
  ⟨installation.installed.path, installation.hook, installation.monitor.emitter⟩

/-- The instrument of a tracer. -/
def Tracer.instrument (tracer : Tracer) : Instrument :=
  ⟨tracer.path, tracer.hook, tracer.emitter⟩

/-- What the last installation on an overload puts in force, if there is one. -/
def lastInstrument (log : List Installation) (runtime : RuntimeId) (reference : OverloadRef) :
    Option Instrument :=
  ((log.filter fun installation =>
    installation.monitor.runtime = runtime ∧
      installation.installed.overload = reference).getLast?).map Installation.instrument

theorem lastInstrument_concat_self (log : List Installation) (installation : Installation) :
    lastInstrument (log ++ [installation]) installation.monitor.runtime
      installation.installed.overload = some installation.instrument := by
  rw [lastInstrument, List.filter_append, List.filter_cons_of_pos (by simp), List.filter_nil,
    List.getLast?_concat, Option.map_some]

theorem lastInstrument_concat_other (log : List Installation) {installation : Installation}
    {runtime : RuntimeId} {reference : OverloadRef}
    (different : runtime = installation.monitor.runtime →
      reference ≠ installation.installed.overload) :
    lastInstrument (log ++ [installation]) runtime reference =
      lastInstrument log runtime reference := by
  have skipped : ¬ (installation.monitor.runtime = runtime ∧
      installation.installed.overload = reference) :=
    fun same => different same.1.symm same.2.symm
  rw [lastInstrument, List.filter_append, List.filter_cons_of_neg (by simpa using skipped),
    List.filter_nil, List.append_nil, lastInstrument]

/-! ### What is in force -/

/-- The instrument that is in force for an overload, if one is. -/
def Overload.instrument (overload : Overload) : Option Instrument :=
  overload.installed.bind fun
    | .plain _ => none
    | .traced tracer => some tracer.instrument

/-- That a world is as a log tells: for every declared overload, the instrument in force is the
last one that was installed. Nothing that can be called installs hooks. -/
structure World.Recorded (log : List Installation) (world : World) : Prop where
  pristine : world.Pristine
  quiet : world.Quiet
  last : ∀ runtime, ∀ overload ∈ (world.registry runtime).overloads,
    overload.instrument = lastInstrument log runtime overload.reference
  declared : ∀ installation ∈ log, installation.installed.overload ∈
    (world.registry installation.monitor.runtime).overloads.map Overload.reference

/-- Where nothing has been installed, nothing is the last installation. -/
theorem lastInstrument_eq_none {log : List Installation} {runtime : RuntimeId}
    {reference : OverloadRef}
    (absent : ∀ installation ∈ log, installation.monitor.runtime = runtime →
      installation.installed.overload ≠ reference) :
    lastInstrument log runtime reference = none := by
  have nothing : (log.filter fun installation =>
      installation.monitor.runtime = runtime ∧
        installation.installed.overload = reference) = [] := by
    refine List.filter_eq_nil_iff.mpr fun installation member => ?_
    rw [decide_eq_true_eq]
    exact fun same => absent installation member same.1 same.2
  rw [lastInstrument, nothing]
  rfl

namespace World.Recorded

variable {log : List Installation}

/-- Declarations and calls do not change what is in force, and they are not logged. -/
theorem kept (log : List Installation) : Kept False (World.Recorded log) where
  quiet holds := .inr holds.quiet
  aside := by
    intro world other holds same sameNext sameBoundary
    have reads := World.registry_congr same
    refine ⟨World.Pristine.kept.aside holds.pristine same sameNext sameBoundary, ?_, ?_, ?_⟩
    · rw [World.Quiet, reads]
      exact holds.quiet
    · rw [reads]
      exact holds.last
    · rw [reads]
      exact holds.declared
  crossed probed begun holds :=
    ⟨World.Pristine.kept.crossed probed begun holds.pristine, holds.quiet, holds.last,
      holds.declared⟩
  declared := by
    intro world runtime registry declares holds
    refine ⟨World.Pristine.kept.declared (declares.imp fun _ _ => .inl trivial) holds.pristine,
      fun reader overload member => ?_, fun reader overload member => ?_,
      fun installation logged =>
        World.references_declared declares _ (holds.declared installation logged)⟩
    · rcases World.mem_declared declares member with before | ⟨_, _, -, quiet, rfl⟩
      · exact holds.quiet reader overload before
      · have quietBody := quiet.resolve_left id
        exact ⟨quietBody, quietBody⟩
    · rcases World.mem_declared declares member with before | ⟨reference, _, free, -, rfl⟩
      · exact holds.last reader overload before
      · refine (lastInstrument_eq_none fun installation logged same equal => ?_).symm
        subst same equal
        exact Registry.overload?_eq_none_iff.mp free (holds.declared installation logged)
  hooked never := never.elim
  refused never := never.elim

/-- A quiet hook is logged when it is installed. -/
theorem keptByHooking (log : List Installation) (monitor : Monitor) {hook : Hook}
    (quiet : hook.Quiet) :
    KeptByHooking monitor hook fun installed world =>
      World.Recorded (log ++ installations monitor hook installed) world where
  hooked := by
    intro installed world reference path overload found holds
    obtain rfl := Registry.reference_of_overload? found
    have logs : log ++ installations monitor hook (installed ++ [⟨overload.reference, path⟩]) =
        (log ++ installations monitor hook installed) ++
          [⟨monitor, ⟨overload.reference, path⟩, hook⟩] := by
      rw [installations, List.map_append, ← List.append_assoc]
      rfl
    rw [logs]
    refine ⟨World.Pristine.kept.hooked trivial found holds.pristine, fun runtime after member => ?_,
      fun runtime after member => ?_, fun installation logged => ?_⟩
    · rcases World.mem_hooked (holds.pristine.distinct _) found member with
        ⟨before, -⟩ | ⟨rfl, rfl⟩
      · exact holds.quiet runtime after before
      · have declared := (holds.quiet _ overload (Registry.mem_of_overload? found)).declaredBody
        exact ⟨declared, quiet, declared⟩
    · rcases World.mem_hooked (holds.pristine.distinct _) found member with
        ⟨before, other⟩ | ⟨rfl, rfl⟩
      · rw [lastInstrument_concat_other _ other]
        exact holds.last runtime after before
      · exact (lastInstrument_concat_self (log ++ installations monitor hook installed)
          ⟨monitor, ⟨overload.reference, path⟩, hook⟩).symm
    · rw [Registry.references_eq, World.declarations_hooked found, ← Registry.references_eq]
      rcases List.mem_append.mp logged with before | fresh
      · exact holds.declared installation before
      · rw [List.mem_singleton.mp fresh]
        exact List.mem_map_of_mem (Registry.mem_of_overload? found)
  refused holds :=
    ⟨World.Pristine.kept.refused trivial holds.pristine, holds.quiet, holds.last, holds.declared⟩
  diagnosed holds :=
    ⟨World.Pristine.kept.aside holds.pristine rfl rfl rfl, holds.quiet, holds.last, holds.declared⟩

end World.Recorded

/-- After a history, the world is as its log tells. -/
theorem Evolves.recorded {host : Host} {runtimes : Nat} {log : List Installation} {state : State}
    (evolves : Evolves Operation.Quiet (State.initial host runtimes) log state) :
    state.world.Recorded log := by
  induction evolves with
  | start =>
    have reads := registry_initial host runtimes
    refine ⟨World.pristine_initial reads, fun runtime overload member => ?_,
      fun runtime overload member => ?_, fun installation logged => ?_⟩
    · rw [reads] at member
      cases member
    · rw [reads] at member
      cases member
    · cases logged
  | @step _ log _ _ _ _ allowed leads holds =>
    cases leads with
    | declareClass =>
      rw [List.append_nil]
      exact (World.Recorded.kept log).declared
        (.classes (Registry.overloads_declareClass _ _)) holds
    | declareMember =>
      rw [List.append_nil]
      exact (World.Recorded.kept log).declared
        (.classes (Registry.overloads_declareMember _ _ _)) holds
    | declareMethod =>
      rw [List.append_nil]
      exact (World.Recorded.kept log).declared
        (Registry.declareMethod_declares _ _ _ _ (.inr allowed)) holds
    | install =>
      rw [← List.append_nil log] at holds
      exact (World.Recorded.keptByHooking log _ allowed).installHook [] _ _ holds
    | hookTarget =>
      rw [← List.append_nil log] at holds
      exact (World.Recorded.keptByHooking log _ allowed).hookTarget _ [] holds
    | @sweepClass _ _ hook =>
      rw [← List.append_nil log] at holds
      exact World.sweepClass_kept
        (World.Recorded.keptByHooking log _ hook.withoutTransforms_onlyTraces.quiet) _ [] holds
    | call completes =>
      rw [List.append_nil]
      exact completes.keeps (World.Recorded.kept log) (.inr trivial) holds

/-! ### Worlds that differ in identities only -/

/-- That two identities are those of the tracers over the same overload in two worlds. -/
def World.Corresponds (world other : World) (identity otherIdentity : Nat) : Prop :=
  ∃ runtime reference tracer otherTracer,
    world.Holds [] runtime reference tracer ∧ other.Holds [] runtime reference otherTracer ∧
      tracer.identity = identity ∧ otherTracer.identity = otherIdentity

namespace World

variable {world other : World}

/-- An overload has one tracer. -/
theorem Pristine.tracer_unique (pristine : world.Pristine) {runtime : RuntimeId}
    {reference : OverloadRef} {tracer otherTracer : Tracer}
    (holds : world.Holds [] runtime reference tracer)
    (otherHolds : world.Holds [] runtime reference otherTracer) : tracer = otherTracer := by
  obtain ⟨overload, member, isReference, installed⟩ :=
    holds.resolve_left (List.not_mem_nil)
  obtain ⟨otherOverload, otherMember, isOtherReference, otherInstalled⟩ :=
    otherHolds.resolve_left (List.not_mem_nil)
  have same : overload = otherOverload :=
    List.inj_on_of_nodup_map (pristine.distinct runtime) member otherMember
      (isReference.trans isOtherReference.symm)
  rw [same, otherInstalled] at installed
  cases installed
  rfl

theorem Corresponds.biUnique (minted : world.Minted []) (otherMinted : other.Minted []) :
    Relator.BiUnique (world.Corresponds other) := by
  constructor
  · rintro identity otherIdentity common
      ⟨runtime, reference, tracer, target, holds, targetHolds, rfl, rfl⟩
      ⟨_, _, otherTracer, otherTarget, otherHolds, otherTargetHolds, rfl, same⟩
    obtain ⟨rfl, rfl, -⟩ := otherMinted.unique otherTargetHolds targetHolds same
    rw [minted.pristine.tracer_unique holds otherHolds]
  · rintro common identity otherIdentity
      ⟨runtime, reference, source, tracer, sourceHolds, holds, rfl, rfl⟩
      ⟨_, _, otherSource, otherTracer, otherSourceHolds, otherHolds, same, rfl⟩
    obtain ⟨rfl, rfl, -⟩ := minted.unique otherSourceHolds sourceHolds same
    rw [otherMinted.pristine.tracer_unique holds otherHolds]

theorem Pristine.installed_cases (pristine : world.Pristine) {runtime : RuntimeId}
    {overload : Overload} (member : overload ∈ (world.registry runtime).overloads) :
    overload.installed = none ∨ ∃ tracer, overload.installed = some (.traced tracer) ∧
      tracer.declaredBody = overload.declaredBody := by
  cases given : overload.installed with
  | none => exact .inl rfl
  | some body =>
    obtain ⟨tracer, rfl, wraps⟩ := pristine.wraps runtime overload member body given
    exact .inr ⟨tracer, rfl, wraps⟩

end World

/-- A tracer is its instrument, its declared body, and its identity. -/
theorem Tracer.eq_of_instrument {tracer other : Tracer}
    (same : tracer.instrument = other.instrument)
    (declaredBody : tracer.declaredBody = other.declaredBody) :
    other = { tracer with identity := other.identity } := by
  obtain ⟨_, _, _, _, _⟩ := tracer
  obtain ⟨_, _, _, _, _⟩ := other
  cases same
  cases declaredBody
  rfl

/-- Where two logs agree on the last installations, bodies in force differ in identities only. -/
theorem World.Recorded.renamed {log otherLog : List Installation} {world other : World}
    (recorded : world.Recorded log) (otherRecorded : other.Recorded otherLog)
    {runtime : RuntimeId} {left right : Overload}
    (isLeft : left ∈ (world.registry runtime).overloads)
    (isRight : right ∈ (other.registry runtime).overloads)
    (reference : left.reference = right.reference)
    (declaredBody : left.declaredBody = right.declaredBody)
    (last : lastInstrument log runtime left.reference =
      lastInstrument otherLog runtime left.reference) :
    left.bodyInForce.Renamed (world.Corresponds other) right.bodyInForce := by
  have same : left.instrument = right.instrument := by
    rw [recorded.last runtime left isLeft, otherRecorded.last runtime right isRight, last,
      reference]
  rcases recorded.pristine.installed_cases isLeft with leftBare | ⟨tracer, isTracer, wraps⟩ <;>
  rcases otherRecorded.pristine.installed_cases isRight with
    rightBare | ⟨otherTracer, isOtherTracer, otherWraps⟩
  · rw [Overload.bodyInForce, Overload.bodyInForce, leftBare, rightBare, declaredBody]
    exact .plain
  · rw [Overload.instrument, Overload.instrument, leftBare, isOtherTracer] at same
    cases same
  · rw [Overload.instrument, Overload.instrument, isTracer, rightBare] at same
    cases same
  · rw [Overload.instrument, Overload.instrument, isTracer, isOtherTracer] at same
    have identified := Tracer.eq_of_instrument (Option.some.inj same)
      (wraps.trans (declaredBody.trans otherWraps.symm))
    rw [Overload.bodyInForce, Overload.bodyInForce, isTracer, isOtherTracer, identified]
    refine .traced ⟨runtime, left.reference, tracer, otherTracer, ?_, ?_, rfl, rfl⟩
    · exact .inr ⟨left, isLeft, rfl, isTracer⟩
    · exact .inr ⟨right, isRight, reference.symm, isOtherTracer⟩

/-- Histories that agree on what is declared and on the last installations end in states that
differ in identities only. -/
theorem Evolves.alike {host : Host} {runtimes : Nat} {log otherLog : List Installation}
    {state other : State}
    (evolves : Evolves Operation.Quiet (State.initial host runtimes) log state)
    (otherEvolves : Evolves Operation.Quiet (State.initial host runtimes) otherLog other)
    (declared : ∀ runtime, (state.world.registry runtime).declarations =
      (other.world.registry runtime).declarations)
    (last : ∀ runtime reference,
      lastInstrument log runtime reference = lastInstrument otherLog runtime reference) :
    state.Alike (upToRenaming (state.world.Corresponds other.world)) other := by
  have recorded := evolves.recorded
  have otherRecorded := otherEvolves.recorded
  refine ⟨⟨?_, fun runtime => ?_, ?_⟩, ?_, ?_⟩
  · exact (evolves.keeps (World.runtimes_kept _) rfl).trans
      (otherEvolves.keeps (World.runtimes_kept _) rfl).symm
  · refine forall₂_of_declarations (declared runtime)
      fun left isLeft right isRight reference declaredBody => ⟨reference, ?_, ?_⟩
    · exact (recorded.quiet runtime left isLeft).bodyInForce
    · exact recorded.renamed otherRecorded isLeft isRight reference declaredBody (last ..)
  · exact (evolves.keeps World.unprobed_kept rfl).trans
      (otherEvolves.keeps World.unprobed_kept rfl).symm
  · rw [evolves.thread, otherEvolves.thread]
  · rw [evolves.thread, otherEvolves.thread]
    exact .nil

/-! ### The last installation counts -/

/-- A call from outside. -/
structure Request where
  runtime : RuntimeId
  callee : Callee
  receiver : Value
  arguments : List Value

/-- The moment at which a request is made. -/
def Request.begun (request : Request) (state : State) : Moment :=
  ⟨request.runtime, .dispatch request.callee request.receiver request.arguments, state, [], []⟩

/-- What a request has given: the outcome, if it has ended, and what has been emitted. -/
structure Answer where
  outcome : Option Outcome
  emitted : List Emission

/-- That requests are served one after another. Each one ends with an outcome and has emitted
something by then; the last one may still be under way, or never end. -/
inductive Serves : State → List Request → List Answer → Prop where
  | done {state : State} : Serves state [] []
  | next {request : Request} {fuel : Nat} {outcome : Outcome} {emitted : List Emission}
      {requests : List Request} {answers : List Answer} {state after : State}
      (gave : request.callee.call (run fuel) request.runtime request.receiver request.arguments
        state = some (outcome, after))
      (emits : after.world.sink.emissions = state.world.sink.emissions ++ emitted)
      (rest : Serves after requests answers) :
      Serves state (request :: requests) (⟨some outcome, emitted⟩ :: answers)
  | underway {request : Request} {emitted : List Emission} {requests : List Request}
      {state : State} {moment : Moment} (arrives : (request.begun state).Arrives moment)
      (emits : moment.state.world.sink.emissions = state.world.sink.emissions ++ emitted) :
      Serves state (request :: requests) [⟨none, emitted⟩]

/-- States that differ in identities only serve requests in the same way. -/
theorem Serves.of_alike {renames : Nat → Nat → Prop} (unique : Relator.BiUnique renames)
    {requests : List Request} {answers : List Answer} {state other : State}
    (serves : Serves state requests answers) (alike : state.Alike (upToRenaming renames) other) :
    Serves other requests answers := by
  induction serves generalizing other with
  | done => exact .done
  | next gave emits _ inductionHypothesis =>
    obtain ⟨episodes, completes⟩ := Callee.call_completes (run_sound _) _ gave
    obtain ⟨_, otherAfter, otherCompletes, alikeAfter, same⟩ :=
      (upToRenaming_lockstep unique).follows completes .dispatch other alike
    obtain ⟨bound, ends⟩ := otherCompletes.ends
    have emitted := List.append_cancel_left (completes.emissions.symm.trans emits)
    refine .next (ends bound (Nat.le_refl bound)) ?_ (inductionHypothesis alikeAfter)
    rw [otherCompletes.emissions, ← emitted]
    exact congrArg _ same.symm
  | @underway request _ _ state _ arrives emits =>
    have shadows := upToRenaming_shadows unique state.world.sink.emissions
      other.world.sink.emissions
    have begun : (request.begun state).Alike (upToRenaming renames) (request.begun other) :=
      ⟨rfl, .dispatch, alike⟩
    have nothing : Account.SameSince state.world.sink.emissions other.world.sink.emissions
        (request.begun state).account (request.begun other).account :=
      ⟨[], (List.append_nil _).symm, (List.append_nil _).symm⟩
    obtain ⟨reached, otherArrives, ⟨since, emitted, otherEmitted⟩, -⟩ :=
      shadows.arrives begun nothing arrives
    have same := List.append_cancel_left (emitted.symm.trans emits)
    exact .underway otherArrives (same ▸ otherEmitted)

/-- Histories that end with the same declarations, and for every overload with the same last
installation or none, cannot be told apart: further requests are served with the same outcomes,
and emit the same. -/
theorem last_installation_counts {host : Host} {runtimes : Nat}
    {log otherLog : List Installation} {state other : State}
    (evolves : Evolves Operation.Quiet (State.initial host runtimes) log state)
    (otherEvolves : Evolves Operation.Quiet (State.initial host runtimes) otherLog other)
    (declared : ∀ runtime, (state.world.registry runtime).declarations =
      (other.world.registry runtime).declarations)
    (last : ∀ runtime reference,
      lastInstrument log runtime reference = lastInstrument otherLog runtime reference)
    (requests : List Request) (answers : List Answer) :
    Serves state requests answers ↔ Serves other requests answers := by
  have minted := evolves.keeps (World.Minted.kept []) (World.minted_initial host runtimes)
  have otherMinted := otherEvolves.keeps (World.Minted.kept []) (World.minted_initial host runtimes)
  constructor
  · intro serves
    exact serves.of_alike (World.Corresponds.biUnique minted otherMinted)
      (evolves.alike otherEvolves declared last)
  · intro serves
    exact serves.of_alike (World.Corresponds.biUnique otherMinted minted)
      (otherEvolves.alike evolves (fun runtime => (declared runtime).symm)
        fun runtime reference => (last runtime reference).symm)

/-- A process with one method, hooked under a path, with the identity of its tracer. -/
def greeting (identity : Nat) : State :=
  let body : Body := fun _ _ => .pure (.str "hello")
  { world :=
      { registries := [⟨[⟨"Greeter", ["greet"]⟩],
          [⟨⟨"Greeter", "greet", ⟨[]⟩⟩, body, some (.traced ⟨identity, 0, "last", {}, body⟩)⟩]⟩]
        nextTracer := identity + 1 } }

/-- A method hooked twice is as if it had been hooked once, the second time. -/
theorem last_installation_counts_greeting :
    ∃ log otherLog,
      Evolves Operation.Quiet (State.initial {} 1) log (greeting 2) ∧
      Evolves Operation.Quiet (State.initial {} 1) otherLog (greeting 1) ∧
      log.length = 2 ∧ otherLog.length = 1 ∧
      ∀ requests answers, Serves (greeting 2) requests answers ↔
        Serves (greeting 1) requests answers := by
  let reference : OverloadRef := ⟨"Greeter", "greet", ⟨[]⟩⟩
  have quiet : Operation.Quiet (.declareMethod 0 "Greeter" "greet" [] fun _ _ =>
    .pure (.str "hello")) := fun _ _ => .finish
  have only (path : String) : Operation.Quiet (.install ⟨0, 0⟩ reference path {}) :=
    HookOptions.OnlyTraces.quiet ⟨rfl, rfl⟩
  have declares : Evolves Operation.Quiet (State.initial {} 1) ([] ++ []) _ :=
    .step .start quiet .declareMethod
  have once : Evolves Operation.Quiet (State.initial {} 1) _ (greeting 1) :=
    .step declares (only "last") .install
  have twice : Evolves Operation.Quiet (State.initial {} 1) _ (greeting 2) :=
    .step (.step declares (only "first") .install) (only "last") .install
  refine ⟨_, _, twice, once, rfl, rfl, last_installation_counts twice once ?_ ?_⟩
  · intro runtime
    cases runtime <;> rfl
  · intro runtime sought
    let installation (path : String) : Installation := ⟨⟨0, 0⟩, ⟨reference, path⟩, {}⟩
    show lastInstrument ([installation "first"] ++ [installation "last"]) runtime sought =
      lastInstrument ([] ++ [installation "last"]) runtime sought
    by_cases different : runtime = 0 → sought ≠ reference
    · rw [lastInstrument_concat_other _ different, lastInstrument_concat_other _ different]
      exact lastInstrument_concat_other [] different
    · obtain ⟨rfl, same⟩ := Classical.not_imp.mp different
      rw [not_ne_iff.mp same]
      exact (lastInstrument_concat_self _ (installation "last")).trans
        (lastInstrument_concat_self _ (installation "last")).symm

end Intercept
