/-
This file says which alarms of a check are true. An alarm is raised for a name that is no dotted
name, for a pattern that cannot be read, and for a class with an empty name. Entries of the first
two kinds are read in the same way when they are applied, so they fail there with the very problem
that the check finds, whatever else is the case. A class with an empty name is looked up like any
other. If there is none, or no runtime, the entry fails as well, with another report. But a class
may have an empty name, and then the alarm is false: the entry hooks the class, and nothing is
reported.
-/
import Intercept.Proofs.Independence
import Mathlib.Data.List.Flatten

namespace Intercept

namespace Plan

/-! ### Alarms -/

namespace Item

/-- What a check finds wrong with an entry. -/
def problem? : Item → Option HookFailure
  | .hooking (.method rule) => rule.problem?
  | .hooking (.sweep rule) => rule.problem?
  | .native rule => rule.problem?

/-- Whether an entry sweeps the class with the empty name. -/
def isUnnamed : Item → Bool
  | .hooking (.sweep rule) => rule.name = ""
  | _ => false

end Item

/-- A check goes from entry to entry. -/
theorem problems_eq (plan : Plan) : plan.problems = plan.items.filterMap Item.problem? := by
  simp only [problems, items, entries, List.map_append, List.filterMap_append, List.filterMap_map]
  rfl

variable {failure : HookFailure}

theorem MethodRule.parse_of_problem? {rule : MethodRule} (problem : rule.problem? = some failure) :
    Target.parse rule.target = .error failure := by
  unfold problem? at problem
  split at problem <;> cases problem
  assumption

theorem SweepRule.name_of_problem? {rule : SweepRule} (problem : rule.problem? = some failure) :
    rule.name = "" :=
  (Option.ite_none_right_eq_some.mp problem).1

theorem SymbolRule.probe_of_problem? {rule : SymbolRule} (problem : rule.problem? = some failure) :
    rule.probe = .error failure := by
  unfold problem? at problem
  split at problem <;> cases problem
  assumption

end Plan

namespace World

variable {start world : World} {monitor : Monitor} {item : Plan.Item} {failure : HookFailure}

/-- That a false alarm is raised for an entry: it sweeps the class with the empty name, and there is
one. -/
def Misjudges (world : World) (monitor : Monitor) (item : Plan.Item) : Prop :=
  item.isUnnamed ∧ world.host.managed ∧ "" ∈ (world.registry monitor.runtime).classNames

instance : DecidablePred (world.Misjudges monitor) := fun item =>
  inferInstanceAs (Decidable
    (item.isUnnamed ∧ world.host.managed ∧ "" ∈ (world.registry monitor.runtime).classNames))

/-- What is reported for an entry that fails with a problem: the problem itself, but for a class
without a name that the class or the runtime is missing. -/
def reportOf (world : World) (item : Plan.Item) (problem : HookFailure) : HookFailure :=
  if item.isUnnamed then
    if world.host.managed then .unknownClass "" else .missingCapability "managed runtime"
  else problem

/-- That all that an entry does is to report a failure. -/
def Fails (world : World) (monitor : Monitor) (item : Plan.Item) (failure : HookFailure) : Prop :=
  world.instrument monitor item.alone = (⟨[], []⟩, world.diagnose failure)

/-! ### Single entries -/

theorem instrument_hooking (world : World) (monitor : Monitor) (entry : Plan.Entry) :
    world.instrument monitor (Plan.Item.hooking entry).alone =
      match entry with
      | .method rule =>
        let (installed, after) := world.hookTarget monitor rule.target rule.hook
        (⟨installed, []⟩, after)
      | .sweep rule =>
        let (installed, after) := world.sweepClass monitor rule.name rule.hook
        (⟨installed, []⟩, after) := by
  cases entry <;>
    simp only [Plan.Item.alone, instrument, applyMethods, applySweeps, applyNatives,
      List.append_nil, List.nil_append]

/-- A class that cannot be found makes its entry fail. -/
theorem fails_of_resolve {rule : Plan.SweepRule}
    (missing : world.resolve monitor.runtime rule.name = (none, world.diagnose failure)) :
    world.Fails monitor (.hooking (.sweep rule)) failure := by
  rw [Fails, instrument_hooking]
  dsimp only
  rw [sweepClass, missing]

/-- A true alarm: the entry fails. A name or a pattern that cannot be read makes it fail with this
problem; the class with the empty name is missed. -/
theorem fails_of_problem (problem : item.problem? = some failure)
    (judged : ¬ world.Misjudges monitor item) :
    world.Fails monitor item (world.reportOf item failure) := by
  rcases item with (rule | rule) | rule
  · rw [Fails, instrument_hooking]
    dsimp only
    rw [hookTarget, Plan.MethodRule.parse_of_problem? problem]
    rfl
  · have unnamed := Plan.SweepRule.name_of_problem? problem
    have isUnnamed : (Plan.Item.hooking (.sweep rule)).isUnnamed := decide_eq_true unnamed
    apply fails_of_resolve
    rw [reportOf, if_pos isUnnamed, unnamed]
    by_cases managed : world.host.managed
    · have undeclared : "" ∉ (world.registry monitor.runtime).classNames :=
        fun declared => judged ⟨isUnnamed, managed, declared⟩
      rw [if_pos managed, resolve_undeclared managed monitor.runtime
        (Option.not_isSome_iff_eq_none.mp (mt Registry.slotOf?_isSome_iff.mp undeclared))]
    · rw [if_neg managed, resolve, if_pos managed]
  · simp only [Fails, Plan.Item.alone, instrument, applyMethods, applySweeps, applyNatives,
      Plan.SymbolRule.probe_of_problem? problem, List.append_nil]
    rfl

/-- What an entry does for which a false alarm is raised: it hooks the overloads of the class with
the empty name, and reports nothing. -/
structure SweepsUnnamed (world : World) (monitor : Monitor) (item : Plan.Item) : Prop where
  alarm : item.problem? = some (.malformedTarget "")
  hooks : ∀ reference : OverloadRef,
    reference ∈ (world.instrument monitor item.alone).1.hooks.map InstalledHook.overload ↔
      reference ∈ (world.registry monitor.runtime).references ∧ reference.container = ""
  probes : (world.instrument monitor item.alone).1.probes = []
  silent : (world.instrument monitor item.alone).2.sink = world.sink

theorem Misjudges.sweeps (misjudges : world.Misjudges monitor item) (reachable : world.Reachable)
    (faithful : world.host.Faithful) : world.SweepsUnnamed monitor item := by
  obtain ⟨isUnnamed, -, declared⟩ := misjudges
  rcases item with (rule | rule) | rule
  · cases isUnnamed
  · obtain ⟨name, backtrace⟩ := rule
    obtain rfl : name = "" := of_decide_eq_true isUnnamed
    obtain ⟨slot, found⟩ :=
      Option.isSome_iff_exists.mp (Registry.slotOf?_isSome_iff.mpr declared)
    have resolves : (world.registry monitor.runtime).resolve? (ClassRef.mk "" slot).name =
        some ⟨"", slot⟩ := by
      rw [Registry.resolve?, found]
      rfl
    have applies := world.instrument_hooking monitor (.sweep ⟨"", backtrace⟩)
    dsimp only at applies
    rw [sweepClass_declared faithful monitor resolves] at applies
    refine ⟨rfl, fun reference => ?_, ?_, ?_⟩ <;> rw [applies]
    · exact (reachable.coherent monitor.runtime).mem_classHooks resolves reference
    · exact sink_installEach _ _
  · cases isUnnamed

/-! ### Entries among others -/

/-- A plan does not change the setting. -/
theorem sameSetting_instrument (world : World) (monitor : Monitor) (plan : Plan) :
    world.SameSetting (world.instrument monitor plan).2 := by
  obtain ⟨effects, decomposes⟩ := world.exists_decomposes monitor
  rw [decomposes.applies (.refl world)]
  exact (SameSetting.refl world).performAll _

theorem SameSetting.misjudges_iff (setting : start.SameSetting world) :
    world.Misjudges monitor item ↔ start.Misjudges monitor item := by
  rw [Misjudges, Misjudges, setting.host, Registry.classNames, setting.classes,
    Registry.classNames]

theorem SameSetting.reportOf (setting : start.SameSetting world) (item : Plan.Item)
    (problem : HookFailure) : world.reportOf item problem = start.reportOf item problem := by
  rw [World.reportOf, World.reportOf, setting.host]

namespace Decomposes

variable {effects : Plan.Item → List Effect} (decomposes : start.Decomposes monitor effects)

include decomposes

/-- Entries that fail may be left out: the others give the same hooks and probes. -/
theorem instrument_keeping {plan : Plan} {keep : Plan.Item → Bool}
    (dropped : ∀ item ∈ plan.items, keep item = false →
      ∃ failure, start.Fails monitor item failure) :
    (start.instrument monitor (plan.keeping keep)).1 = (start.instrument monitor plan).1 := by
  have nothing : ∀ item ∈ plan.items, keep item = false →
      (effects item).filterMap Effect.hook? = [] ∧
        (effects item).filterMap Effect.attached? = [] := by
    intro item isItem isDropped
    obtain ⟨failure, fails⟩ := dropped item isItem isDropped
    have empty : Instrumentation.of (effects item) = ⟨[], []⟩ :=
      congrArg Prod.fst ((decomposes.alone (.refl start) item).symm.trans fails)
    exact Instrumentation.mk.inj empty
  rw [decomposes.applies (.refl start), decomposes.applies (.refl start), Plan.items_keeping]
  simp only [Instrumentation.of, List.filterMap_flatMap]
  rw [flatMap_filter_of_nil fun item isItem isDropped => (nothing item isItem isDropped).1,
    flatMap_filter_of_nil fun item isItem isDropped => (nothing item isItem isDropped).2]

/-- What entries report that fail is among what their plan reports, in the order of the entries. -/
theorem sublist_reports {plan : Plan} {report? : Plan.Item → Option HookFailure}
    (fails : ∀ item failure, report? item = some failure → start.Fails monitor item failure) :
    (plan.items.filterMap report?).Sublist (start.reports monitor plan).diagnostics := by
  rw [reports, decomposes.applies (.refl start)]
  dsimp only
  rw [diagnostics_performAll, List.drop_left, List.filterMap_flatMap,
    List.filterMap_eq_flatMap_toList]
  refine List.Sublist.flatMap_right _ fun item _ => ?_
  cases reported : report? item with
  | none => exact List.nil_sublist _
  | some failure =>
    have fails := (decomposes.alone (.refl start) item).symm.trans (fails item failure reported)
    have diagnostics := congrArg (fun result => result.2.sink.diagnostics) fails
    dsimp only at diagnostics
    rw [diagnostics_performAll] at diagnostics
    rw [List.append_cancel_left diagnostics]
    exact List.Sublist.refl _

end Decomposes

end World

/-! ### True and false alarms -/

/-- An alarm is true unless it is raised for the class with the empty name where there is one.
If it is true, the entry does nothing but to report a failure, wherever in a plan it stands; the
plan hooks and attaches the same without it; and all these reports are made, in order. If it is
false, the entry hooks the overloads of the class and reports nothing. -/
theorem alarms_are_true_unless_the_class_is_unnamed {world : World} (reachable : world.Reachable)
    (monitor : Monitor) (plan : Plan) :
    plan.problems = plan.items.filterMap Plan.Item.problem? ∧
    (∀ item failure, item.problem? = some failure → ¬ world.Misjudges monitor item →
      ∀ earlier : Plan, (world.instrument monitor earlier).2.Fails monitor item
        (world.reportOf item failure)) ∧
    (∀ keep : Plan.Item → Bool,
      (∀ item ∈ plan.items, keep item = false →
        item.problem?.isSome ∧ ¬ world.Misjudges monitor item) →
      (world.instrument monitor (plan.keeping keep)).1 = (world.instrument monitor plan).1) ∧
    (plan.items.filterMap fun item =>
        if world.Misjudges monitor item then none
        else item.problem?.map (world.reportOf item)).Sublist
      (world.reports monitor plan).diagnostics ∧
    (world.host.Faithful → ∀ item, world.Misjudges monitor item → ∀ earlier : Plan,
      (world.instrument monitor earlier).2.SweepsUnnamed monitor item) := by
  obtain ⟨effects, decomposes⟩ := world.exists_decomposes monitor
  refine ⟨plan.problems_eq, fun item failure problem judged earlier => ?_,
    fun keep dropped => decomposes.instrument_keeping fun item isItem isDropped => ?_,
    decomposes.sublist_reports fun item failure reports => ?_,
    fun faithful item misjudges earlier => ?_⟩
  · have setting := world.sameSetting_instrument monitor earlier
    exact setting.reportOf item failure ▸
      World.fails_of_problem problem (mt setting.misjudges_iff.mp judged)
  · obtain ⟨isProblem, judged⟩ := dropped item isItem isDropped
    obtain ⟨failure, problem⟩ := Option.isSome_iff_exists.mp isProblem
    exact ⟨_, World.fails_of_problem problem judged⟩
  · obtain ⟨judged, isReport⟩ := Option.ite_none_left_eq_some.mp reports
    obtain ⟨problem, isProblem, rfl⟩ := Option.map_eq_some_iff.mp isReport
    exact World.fails_of_problem isProblem judged
  · have setting := world.sameSetting_instrument monitor earlier
    exact (setting.misjudges_iff.mpr misjudges).sweeps (reachable.instrument monitor earlier)
      (setting.host ▸ faithful)

/-- The process with a method in a class with an empty name. -/
def unnamedWorld : World :=
  { registries := [(({} : Registry).declareMethod "" "ring" [] fun _ _ => .pure .null).2] }

theorem unnamedWorld_reachable : unnamedWorld.Reachable := by
  have extend : ((State.initial {} 1).world.registry 0).Extends _ :=
    .declareMethod "" "ring" [] fun _ _ => .pure .null
  exact ⟨{}, 1, .single (.declared extend)⟩

/-- A plan with an alarm of each kind. -/
def alarmingPlan : Plan where
  methods := [{ target := "greet" }]
  classes := [{ name := "" }]
  natives := [{ modulePath := "libc", symbol := "puts", condition := some "(" }]

/-- At the desk the three alarms are true; where a class has an empty name, one of them is false. -/
theorem alarms_are_true_unless_the_class_is_unnamed_desk :
    alarmingPlan.problems.length = 3 ∧
    (∃ reason, List.Sublist
      [.malformedTarget "greet", .unknownClass "", .malformedPattern "(" reason]
      (deskWorld.reports ⟨0, 0⟩ alarmingPlan).diagnostics) ∧
    (deskWorld.instrument ⟨0, 0⟩ (alarmingPlan.keeping fun _ => false)).1 =
      (deskWorld.instrument ⟨0, 0⟩ alarmingPlan).1 ∧
    unnamedWorld.Misjudges ⟨0, 0⟩ (.hooking (.sweep { name := "" })) ∧
    (unnamedWorld.instrument ⟨0, 0⟩ alarmingPlan).2.SweepsUnnamed ⟨0, 0⟩
      (.hooking (.sweep { name := "" })) := by
  obtain ⟨-, -, keeps, reports, -⟩ :=
    alarms_are_true_unless_the_class_is_unnamed deskWorld_reachable ⟨0, 0⟩ alarmingPlan
  obtain ⟨-, -, -, -, sweeps⟩ :=
    alarms_are_true_unless_the_class_is_unnamed unnamedWorld_reachable ⟨0, 0⟩ alarmingPlan
  have misjudges : unnamedWorld.Misjudges ⟨0, 0⟩ (.hooking (.sweep { name := "" })) := by decide
  refine ⟨rfl, ⟨_, reports⟩, keeps _ fun item isItem _ => ?_, misjudges,
    sweeps ⟨rfl, rfl, rfl⟩ _ misjudges alarmingPlan⟩
  simp only [alarmingPlan, Plan.items, Plan.entries, List.map_cons, List.map_nil, List.cons_append,
    List.nil_append, List.mem_cons, List.not_mem_nil, or_false] at isItem
  rcases isItem with rfl | rfl | rfl <;> exact ⟨rfl, by decide⟩

/-- Of a class with an empty name a problem is found, but it is hooked and nothing is reported. -/
theorem class_without_name_is_hooked :
    let plan : Plan := { classes := [{ name := "" }] }
    unnamedWorld.Reachable ∧ plan.problems = [.malformedTarget ""] ∧
      (unnamedWorld.instrument ⟨0, 0⟩ plan).1.hooks = [⟨⟨"", "ring", ⟨[]⟩⟩, ".ring"⟩] ∧
      (unnamedWorld.reports ⟨0, 0⟩ plan).diagnostics = [] :=
  ⟨unnamedWorld_reachable, rfl, rfl, rfl⟩

end Intercept
