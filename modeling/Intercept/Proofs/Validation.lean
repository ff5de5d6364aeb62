/-
This file proves that checking a plan and applying it agree on which entries are malformed. A
check reads the names and the patterns alone. An application reads them as well, but in between it
asks for capabilities and looks up classes, members and symbols, and each of these can fail in a
way of its own. None of these other failures says that an entry is malformed, and none of them
keeps an entry from being read. So what an application rejects is what the check finds, in the
same order, whatever the world has and lacks.
-/
import Intercept.Proofs.Independence

namespace Intercept

/-! ### Malformed entries -/

/-- Whether a failure says that an entry of a plan is malformed: that a name is no dotted name, or
that a pattern cannot be read. -/
def HookFailure.isMalformed : HookFailure → Bool
  | .malformedTarget _ => true
  | .malformedPattern _ _ => true
  | _ => false

/-- That between two worlds diagnostics are added, of which these say that an entry is
malformed. -/
def World.Rejects (world later : World) (rejections : List HookFailure) : Prop :=
  ∃ reported, later.sink.diagnostics = world.sink.diagnostics ++ reported ∧
    reported.filter HookFailure.isMalformed = rejections

namespace World.Rejects

variable {world middle later : World} {rejections others : List HookFailure}

/-- Where no diagnostic is added, nothing is rejected. -/
theorem of_diagnostics (same : later.sink.diagnostics = world.sink.diagnostics) :
    world.Rejects later [] :=
  ⟨[], same.trans (List.append_nil _).symm, rfl⟩

theorem append (first : world.Rejects middle rejections) (second : middle.Rejects later others) :
    world.Rejects later (rejections ++ others) := by
  obtain ⟨reported, adds, rfl⟩ := first
  obtain ⟨reportedLater, addsLater, rfl⟩ := second
  refine ⟨reported ++ reportedLater, ?_, List.filter_append _ _⟩
  rw [addsLater, adds, List.append_assoc]

/-- Nothing is rejected where first nothing is and then nothing is. -/
theorem none_trans (first : world.Rejects middle []) (second : middle.Rejects later []) :
    world.Rejects later [] :=
  first.append second

theorem diagnose_malformed (world : World) {failure : HookFailure}
    (malformed : failure.isMalformed) : world.Rejects (world.diagnose failure) [failure] :=
  ⟨[failure], rfl, by rw [List.filter_cons_of_pos malformed, List.filter_nil]⟩

theorem diagnose_other (world : World) {failure : HookFailure}
    (wellFormed : failure.isMalformed = false) : world.Rejects (world.diagnose failure) [] :=
  ⟨[failure], rfl,
    by rw [List.filter_cons_of_neg (Bool.not_eq_true _ ▸ wellFormed), List.filter_nil]⟩

end World.Rejects

/-! ### What the readings fail with -/

/-- A name that cannot be read is malformed. -/
theorem Target.isMalformed_of_parse {name : String} {failure : HookFailure}
    (fails : Target.parse name = .error failure) : failure.isMalformed := by
  unfold Target.parse at fails
  split at fails
  · split at fails <;> cases fails
    rfl
  · cases fails
    rfl

/-- A pattern that cannot be read is malformed. -/
theorem Plan.SymbolRule.isMalformed_of_probe {rule : SymbolRule} {failure : HookFailure}
    (fails : rule.probe = .error failure) : failure.isMalformed := by
  unfold probe at fails
  split at fails
  · unfold Boundary.Probe.withPattern at fails
    split at fails <;> cases fails
    rfl
  · cases fails

/-- A symbol that is not found is not malformed. -/
theorem Exports.SymbolSource.isMalformed_of_find {source : SymbolSource}
    {modulePath symbol : String} {failure : HookFailure}
    (fails : source.find modulePath symbol = .error failure) : failure.isMalformed = false := by
  cases source with
  | table rows =>
    replace fails : rows.find modulePath symbol = .error failure := fails
    unfold AddressTable.find at fails
    split at fails
    · cases fails
      rfl
    · split at fails <;> cases fails
      rfl
  | exports listing =>
    replace fails : listing.find modulePath symbol = .error failure := fails
    unfold ExportTable.find at fails
    split at fails
    · cases fails
      rfl
    · split at fails <;> cases fails
      rfl
  | loaded modules =>
    replace fails : modules.find modulePath symbol = .error failure := fails
    unfold LoadedModules.find at fails
    dsimp only at fails
    split at fails
    · cases fails
      rfl
    · split at fails
      · cases fails
        rfl
      · split at fails <;> cases fails
        rfl

/-! ### What the parts of an application reject -/

namespace World

variable (world : World) (monitor : Monitor)

/-- Hooking overloads one by one rejects nothing: each of them is declared or it is not. -/
theorem rejects_hookEach (path : String) (hook : Hook) (references : List OverloadRef) :
    world.Rejects (world.hookEach monitor path hook references).2 [] := by
  induction references generalizing world with
  | nil => exact .of_diagnostics rfl
  | cons reference rest inductionHypothesis =>
    unfold hookEach
    rcases world.installHook_cases monitor reference path hook with
      ⟨-, ends⟩ | ⟨overload, -, -, ends⟩ | ⟨overload, -, -, ends⟩ <;> rw [ends] <;> dsimp only
    · exact (Rejects.diagnose_other world rfl).none_trans (inductionHypothesis _)
    · exact (Rejects.diagnose_other { world with nextTracer := _ } rfl).none_trans
        (inductionHypothesis _)
    · have unreported : world.Rejects (world.hooked monitor overload path hook) [] :=
        .of_diagnostics rfl
      exact unreported.none_trans (inductionHypothesis _)

/-- Looking a class up rejects nothing, with or without a runtime. -/
theorem rejects_resolve (runtime : RuntimeId) (name : String) :
    world.Rejects (world.resolve runtime name).2 [] := by
  unfold resolve
  split
  · exact .diagnose_other world rfl
  · split
    · exact .of_diagnostics rfl
    · exact .diagnose_other world rfl

/-- Hooking a target rejects what checking it finds, whether or not there is a runtime. -/
theorem rejects_hookTarget (rule : Plan.MethodRule) :
    world.Rejects (world.hookTarget monitor rule.target rule.hook).2 rule.problem?.toList := by
  unfold hookTarget Plan.MethodRule.problem?
  cases parses : Target.parse rule.target with
  | error failure => exact .diagnose_malformed world (Target.isMalformed_of_parse parses)
  | ok target =>
    dsimp only
    have resolved := world.rejects_resolve monitor.runtime target.container
    rcases ends : world.resolve monitor.runtime target.container with ⟨_ | container, after⟩ <;>
      rw [ends] at resolved <;> dsimp only
    · exact resolved
    · have hooked := resolved.none_trans (after.rejects_hookEach monitor rule.target rule.hook
        (after.reportedOverloads monitor.runtime container target.member))
      rw [hookOverloads]
      split
      · exact hooked.none_trans (.diagnose_other _ rfl)
      · exact hooked

theorem rejects_sweep (container : ClassRef) (hook : Hook) (members : List String) :
    world.Rejects (world.sweep monitor container hook members).2 [] := by
  induction members generalizing world with
  | nil => exact .of_diagnostics rfl
  | cons member rest inductionHypothesis =>
    exact (world.rejects_hookEach monitor _ hook _).none_trans (inductionHypothesis _)

/-- Sweeping a class rejects nothing. That a check finds fault with an empty name does not make
an application reject it: an empty name is looked up like any other. -/
theorem rejects_sweepClass (name : String) (hook : Hook) :
    world.Rejects (world.sweepClass monitor name hook).2 [] := by
  have resolved := world.rejects_resolve monitor.runtime name
  unfold sweepClass
  rcases ends : world.resolve monitor.runtime name with ⟨_ | container, after⟩ <;>
    rw [ends] at resolved <;> dsimp only
  · exact resolved
  · exact resolved.none_trans (after.rejects_sweep monitor container _ _)

/-- Probing a symbol rejects nothing, with or without native interception: the probe has been
read before. -/
theorem rejects_probeSymbol (emitter : EmitterId) (modulePath symbol : String)
    (probe : Boundary.Probe) :
    world.Rejects (world.probeSymbol emitter modulePath symbol probe).2 [] := by
  unfold probeSymbol
  split
  · exact .diagnose_other world rfl
  · next symbols _ =>
    unfold attachSymbol
    split
    · next failure fails =>
      exact .diagnose_other world (Exports.SymbolSource.isMalformed_of_find fails)
    · unfold attachAt
      split
      · next failure refuses =>
        split at refuses <;> cases refuses
        exact .diagnose_other world rfl
      · next after attaches =>
        split at attaches <;> cases attaches
        exact .of_diagnostics rfl

/-! ### What an application rejects -/

theorem rejects_applyMethods (rules : List Plan.MethodRule) :
    world.Rejects (world.applyMethods monitor rules).2
      (rules.filterMap Plan.MethodRule.problem?) := by
  rw [List.filterMap_eq_flatMap_toList]
  induction rules generalizing world with
  | nil => exact .of_diagnostics rfl
  | cons rule rest inductionHypothesis =>
    rw [List.flatMap_cons]
    exact (world.rejects_hookTarget monitor rule).append (inductionHypothesis _)

theorem rejects_applySweeps (rules : List Plan.SweepRule) :
    world.Rejects (world.applySweeps monitor rules).2 [] := by
  induction rules generalizing world with
  | nil => exact .of_diagnostics rfl
  | cons rule rest inductionHypothesis =>
    exact (world.rejects_sweepClass monitor rule.name rule.hook).none_trans
      (inductionHypothesis _)

/-- An entry with a pattern that cannot be read is rejected before anything is asked of the host;
any other entry is not rejected, whatever the host answers. -/
theorem rejects_applyNatives (emitter : EmitterId) (rules : List Plan.SymbolRule) :
    world.Rejects (world.applyNatives emitter rules).2
      (rules.filterMap Plan.SymbolRule.problem?) := by
  rw [List.filterMap_eq_flatMap_toList]
  induction rules generalizing world with
  | nil => exact .of_diagnostics rfl
  | cons rule rest inductionHypothesis =>
    rw [List.flatMap_cons, applyNatives, Plan.SymbolRule.problem?]
    cases reads : rule.probe with
    | error failure =>
      exact (Rejects.diagnose_malformed world
        (Plan.SymbolRule.isMalformed_of_probe reads)).append (inductionHypothesis _)
    | ok probe =>
      exact (world.rejects_probeSymbol emitter rule.modulePath rule.symbol probe).append
        (inductionHypothesis _)

end World

/-! ### The agreement -/

/-- Checking a plan and applying it agree on which entries are malformed: an application rejects
what the check finds in the methods and then what it finds in the native symbols, and nothing else.
So it rejects nothing of a plan in which the check finds nothing. -/
theorem application_rejects_problems (world : World) (monitor : Monitor) (plan : Plan) :
    world.Rejects (world.instrument monitor plan).2
        (plan.methods.filterMap Plan.MethodRule.problem? ++
          plan.natives.filterMap Plan.SymbolRule.problem?) ∧
      (plan.problems = [] → world.Rejects (world.instrument monitor plan).2 []) := by
  have methods := world.rejects_applyMethods monitor plan.methods
  have rejects : world.Rejects (world.instrument monitor plan).2
      (plan.methods.filterMap Plan.MethodRule.problem? ++
        plan.natives.filterMap Plan.SymbolRule.problem?) := by
    have swept := methods.append (World.rejects_applySweeps _ monitor plan.classes)
    rw [List.append_nil] at swept
    exact swept.append (World.rejects_applyNatives _ monitor.emitter plan.natives)
  refine ⟨rejects, fun unproblematic => ?_⟩
  obtain ⟨noMethods, noNatives⟩ := List.append_eq_nil_iff.mp unproblematic
  rw [(List.append_eq_nil_iff.mp noMethods).1, noNatives] at rejects
  exact rejects

/-- A plan whose entries are all well-formed, though none of them is known at the desk. -/
def strangePlan : Plan where
  methods := [{ target := "Desk.shout" }, { target := "Lamp.light" }]
  classes := [{ name := "Lamp" }]
  natives := [{ modulePath := "libc", symbol := "gets", condition := some "^a+$" }]

/-- At the desk two of the five failures of the troubled plan are rejections. Every entry of the
strange plan fails there, and every entry fails in a world without any capability, but nothing of
the plan is rejected. -/
theorem application_rejects_problems_desk :
    (∃ reason, nativeDeskWorld.Rejects (nativeDeskWorld.instrument ⟨0, 0⟩ troubledPlan).2
      [.malformedTarget "greet", .malformedPattern "(" reason]) ∧
    strangePlan.problems = [] ∧
    nativeDeskWorld.Rejects (nativeDeskWorld.instrument ⟨0, 0⟩ strangePlan).2 [] ∧
    (nativeDeskWorld.instrument ⟨0, 0⟩ strangePlan).2.sink.diagnostics.length = 4 ∧
    World.Rejects { host := { managed := false } }
      (World.instrument { host := { managed := false } } ⟨0, 0⟩ strangePlan).2 [] ∧
    (World.instrument { host := { managed := false } } ⟨0, 0⟩
      strangePlan).2.sink.diagnostics.length = 4 :=
  ⟨⟨_, (application_rejects_problems nativeDeskWorld ⟨0, 0⟩ troubledPlan).1⟩, rfl,
    (application_rejects_problems nativeDeskWorld ⟨0, 0⟩ strangePlan).2 rfl, rfl,
    (application_rejects_problems { host := { managed := false } } ⟨0, 0⟩ strangePlan).2 rfl, rfl⟩

end Intercept
