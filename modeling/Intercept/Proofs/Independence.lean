/-
This file proves that the entries of a plan do not depend on each other. Applied together, they
hook, attach and report what each of them does when it is applied alone, in the order of the plan:
methods, then classes, then native symbols. An entry that hooks and attaches nothing leaves the
hooks and the probes alone, so without such entries only the diagnostics are different.
-/
import Intercept.Proofs.Effects
import Intercept.Proofs.Covering

namespace Intercept

/-! ### The items of plans -/

namespace Plan

/-- An entry of any kind. -/
inductive Item where
  | hooking (entry : Entry)
  | native (rule : SymbolRule)

/-- The plan with a single entry. -/
def Item.alone : Item → Plan
  | .hooking (.method rule) => { methods := [rule] }
  | .hooking (.sweep rule) => { classes := [rule] }
  | .native rule => { natives := [rule] }

/-- All entries in the order in which they are applied. -/
def items (plan : Plan) : List Item :=
  plan.entries.map .hooking ++ plan.natives.map .native

@[simp]
theorem items_alone (item : Item) : item.alone.items = [item] := by
  rcases item with (rule | rule) | rule <;> rfl

/-- The plan that is left when some entries are removed. -/
def keeping (plan : Plan) (keep : Item → Bool) : Plan where
  methods := plan.methods.filter fun rule => keep (.hooking (.method rule))
  classes := plan.classes.filter fun rule => keep (.hooking (.sweep rule))
  natives := plan.natives.filter fun rule => keep (.native rule)

theorem items_keeping (plan : Plan) (keep : Item → Bool) :
    (plan.keeping keep).items = plan.items.filter keep := by
  simp only [items, entries, keeping, List.map_append, List.filter_append, List.filter_map,
    List.map_map]
  rfl

end Plan

/-! ### Plans as effects -/

namespace World

/-- What a plan hands back for some effects. -/
def Instrumentation.of (effects : List Effect) : Instrumentation :=
  ⟨effects.filterMap Effect.hook?, effects.filterMap Effect.attached?⟩

/-- What hooks attaches nothing. -/
theorem Acts.attaches_nothing {start : World} {act : World → List InstalledHook × World}
    {effects : List Effect} (acts : start.Acts Effect.hook? act effects) :
    effects.filterMap Effect.attached? = [] := by
  refine List.filterMap_eq_nil_iff.mpr fun effect isEffect => ?_
  cases effect with
  | probed => exact (acts.others _ isEffect rfl).2
  | _ => rfl

/-- What attaches hooks nothing. -/
theorem Acts.hooks_nothing {start : World}
    {act : World → List Boundary.AttachedProbe × World}
    {effects : List Effect} (acts : start.Acts Effect.attached? act effects) :
    effects.filterMap Effect.hook? = [] := by
  refine List.filterMap_eq_nil_iff.mpr fun effect isEffect => ?_
  cases effect with
  | hooked => exact (acts.others _ isEffect rfl).1
  | _ => rfl

/-- Rules that are applied one after another have the effects of all of them. -/
theorem Acts.flatMap {Rule Item : Type} {start : World} {pick : Effect → Option Item}
    (act : List Rule → World → List Item × World) {single : Rule → World → List Item × World}
    {effects : Rule → List Effect} (acts : ∀ rule, start.Acts pick (single rule) (effects rule))
    (nil : ∀ world, act [] world = ([], world))
    (cons : ∀ rule rest world, act (rule :: rest) world =
      ((single rule world).1 ++ (act rest (single rule world).2).1,
        (act rest (single rule world).2).2))
    (rules : List Rule) : start.Acts pick (act rules) (rules.flatMap effects) := by
  induction rules with
  | nil => exact Acts.nil.congr fun _ => nil _
  | cons rule rest inductionHypothesis =>
    exact ((acts rule).append inductionHypothesis).congr fun _ => cons rule rest _

theorem exists_acts_native (start : World) (emitter : EmitterId) (rule : Plan.SymbolRule) :
    ∃ effects, start.Acts Effect.attached?
      (fun world => world.applyNatives emitter [rule]) effects := by
  cases reads : rule.probe with
  | error failure =>
    refine ⟨_, (Acts.diagnosed failure rfl).congr fun _ => ?_⟩
    rw [applyNatives, reads]
    rfl
  | ok probe =>
    obtain ⟨effects, acts⟩ :=
      start.exists_acts_probeSymbol emitter rule.modulePath rule.symbol probe
    refine ⟨effects, acts.congr fun _ => ?_⟩
    rw [applyNatives, reads]
    exact congrArg (Prod.mk · _) (List.append_nil _)

theorem applyNatives_cons (emitter : EmitterId) (rule : Plan.SymbolRule)
    (rest : List Plan.SymbolRule) (world : World) :
    world.applyNatives emitter (rule :: rest) =
      ((world.applyNatives emitter [rule]).1 ++
          ((world.applyNatives emitter [rule]).2.applyNatives emitter rest).1,
        ((world.applyNatives emitter [rule]).2.applyNatives emitter rest).2) := by
  rw [applyNatives, applyNatives]
  cases rule.probe with
  | error failure => rfl
  | ok probe =>
    dsimp only
    rw [applyNatives, List.append_nil]

/-- That each entry has effects of its own wherever the setting is the same, and that a plan has
the effects of all its entries. -/
structure Decomposes (start : World) (monitor : Monitor) (effects : Plan.Item → List Effect) :
    Prop where
  unrefused : start.host.sealedKeys = [] → ∀ item, .refused ∉ effects item
  applies : ∀ {world : World}, start.SameSetting world → ∀ plan : Plan,
    world.instrument monitor plan =
      (.of (plan.items.flatMap effects), world.performAll (plan.items.flatMap effects))

theorem exists_decomposes (start : World) (monitor : Monitor) :
    ∃ effects, start.Decomposes monitor effects := by
  choose methods hooks using fun rule : Plan.MethodRule =>
    start.exists_acts_hookTarget monitor rule.hook rule.target
  choose classes sweeps using fun rule : Plan.SweepRule =>
    start.exists_acts_sweepClass monitor rule.hook rule.name
  choose natives probes using start.exists_acts_native monitor.emitter
  let effects : Plan.Item → List Effect
    | .hooking (.method rule) => methods rule
    | .hooking (.sweep rule) => classes rule
    | .native rule => natives rule
  refine ⟨effects, ?_, ?_⟩
  · intro unsealed item
    rcases item with (rule | rule) | rule
    · exact (hooks rule).unrefused unsealed
    · exact (sweeps rule).unrefused unsealed
    · exact (probes rule).unrefused unsealed
  · intro world setting plan
    have first := Acts.flatMap (fun rules world => world.applyMethods monitor rules) hooks
      (fun _ => rfl) (fun _ _ _ => rfl) plan.methods
    have second := Acts.flatMap (fun rules world => world.applySweeps monitor rules) sweeps
      (fun _ => rfl) (fun _ _ _ => rfl) plan.classes
    have third := Acts.flatMap (fun rules world => world.applyNatives monitor.emitter rules) probes
      (fun _ => rfl) (applyNatives_cons monitor.emitter) plan.natives
    have parts : plan.items.flatMap effects = plan.methods.flatMap methods ++
        plan.classes.flatMap classes ++ plan.natives.flatMap natives := by
      simp only [Plan.items, Plan.entries, List.flatMap_append, List.map_append, List.flatMap_map,
        effects]
    rw [parts, Instrumentation.of, List.filterMap_append, List.filterMap_append,
      List.filterMap_append, List.filterMap_append, third.hooks_nothing, first.attaches_nothing,
      second.attaches_nothing, List.append_nil, performAll_append, performAll_append]
    rw [instrument, first.acts setting]
    dsimp only
    rw [second.acts (setting.performAll _)]
    dsimp only
    rw [third.acts ((setting.performAll _).performAll _)]
    rfl

/-! ### Worlds without their diagnostics -/

/-- A world with its diagnostics left out. -/
def withoutDiagnostics (world : World) : World :=
  { world with sink := { world.sink with diagnostics := [] } }

/-- Without the diagnostics, only the other effects matter. -/
theorem withoutDiagnostics_performAll (world : World) (effects : List Effect) :
    (world.performAll effects).withoutDiagnostics =
      world.withoutDiagnostics.performAll
        (effects.filter fun effect => effect.failure?.isNone) := by
  induction effects generalizing world with
  | nil => rfl
  | cons effect rest inductionHypothesis =>
    cases effect <;> exact inductionHypothesis _

end World

/-! ### Independence -/

/-- What a plan adds to the diagnostics and to the trace. -/
structure Plan.Reports where
  diagnostics : List HookFailure
  emissions : List Emission

namespace World

/-- What applying a plan adds to the diagnostics and to the trace of a world. -/
def reports (world : World) (monitor : Monitor) (plan : Plan) : Plan.Reports :=
  let sink := (world.instrument monitor plan).2.sink
  ⟨sink.diagnostics.drop world.sink.diagnostics.length,
    sink.emissions.drop world.sink.emissions.length⟩

/-- That an entry, applied alone, hooks nothing and attaches nothing. -/
def Fruitless (world : World) (monitor : Monitor) (item : Plan.Item) : Prop :=
  (world.instrument monitor item.alone).1.hooks = [] ∧
    (world.instrument monitor item.alone).1.probes = []

/-- That a plan, applied to a world, gives what its entries give when each is applied alone. -/
structure AppliesIndependently (world : World) (monitor : Monitor) (plan : Plan) : Prop where
  hooks : (world.instrument monitor plan).1.hooks =
    plan.items.flatMap fun item => (world.instrument monitor item.alone).1.hooks
  probes : (world.instrument monitor plan).1.probes =
    plan.items.flatMap fun item => (world.instrument monitor item.alone).1.probes
  diagnostics : (world.instrument monitor plan).2.sink.diagnostics =
    world.sink.diagnostics ++
      plan.items.flatMap fun item => (world.reports monitor item.alone).diagnostics
  emissions : (world.instrument monitor plan).2.sink.emissions =
    world.sink.emissions ++
      plan.items.flatMap fun item => (world.reports monitor item.alone).emissions
  /-- After whatever other entries, a fruitless entry leaves hooks and probes as they are. -/
  fruitless : ∀ (earlier : Plan) (item : Plan.Item), world.Fruitless monitor item →
    let middle := (world.instrument monitor earlier).2
    let after := (middle.instrument monitor item.alone).2
    after.registries = middle.registries ∧ after.boundary = middle.boundary
  /-- Where no overload is sealed, a plan without some of its fruitless entries hooks and attaches
  the same, and the world after it has other diagnostics at most. -/
  removable : world.host.sealedKeys = [] → ∀ keep : Plan.Item → Bool,
    (∀ item ∈ plan.items, keep item = false → world.Fruitless monitor item) →
      (world.instrument monitor (plan.keeping keep)).1 = (world.instrument monitor plan).1 ∧
        (world.instrument monitor (plan.keeping keep)).2.withoutDiagnostics =
          (world.instrument monitor plan).2.withoutDiagnostics

end World

/-- Leaving out what contributes nothing leaves all contributions. -/
theorem flatMap_filter_of_nil {Item Part : Type} {parts : Item → List Part} {keep : Item → Bool}
    {items : List Item} (nothing : ∀ item ∈ items, keep item = false → parts item = []) :
    (items.filter keep).flatMap parts = items.flatMap parts := by
  induction items with
  | nil => rfl
  | cons item rest inductionHypothesis =>
    have others := inductionHypothesis fun other isOther =>
      nothing other (List.mem_cons_of_mem _ isOther)
    cases kept : keep item with
    | true => rw [List.filter_cons_of_pos kept, List.flatMap_cons, List.flatMap_cons, others]
    | false =>
      rw [List.filter_cons_of_neg (Bool.not_eq_true _ ▸ kept), List.flatMap_cons, others,
        nothing item List.mem_cons_self kept, List.nil_append]

namespace World.Decomposes

variable {start : World} {monitor : Monitor} {effects : Plan.Item → List Effect}
  (decomposes : start.Decomposes monitor effects)

include decomposes

theorem alone {world : World} (setting : start.SameSetting world) (item : Plan.Item) :
    world.instrument monitor item.alone =
      (.of (effects item), world.performAll (effects item)) := by
  rw [decomposes.applies setting, Plan.items_alone, List.flatMap_singleton]

/-- An entry that is fruitless alone installs and attaches nothing anywhere. -/
theorem idle {item : Plan.Item} (fruitless : start.Fruitless monitor item) :
    ∀ effect ∈ effects item, effect.Idle := by
  rw [Fruitless, decomposes.alone (.refl start)] at fruitless
  exact fun effect isEffect =>
    ⟨List.filterMap_eq_nil_iff.mp fruitless.1 effect isEffect,
      List.filterMap_eq_nil_iff.mp fruitless.2 effect isEffect⟩

/-- Where no overload is sealed, all that a fruitless entry does is to report failures. -/
theorem filter_eq_nil (unsealed : start.host.sealedKeys = []) {item : Plan.Item}
    (fruitless : start.Fruitless monitor item) :
    (effects item).filter (fun effect => effect.failure?.isNone) = [] := by
  refine List.filter_eq_nil_iff.mpr fun effect isEffect isSilent => ?_
  have reported := (decomposes.idle fruitless effect isEffect).isSome_failure?
    fun isRefused => decomposes.unrefused unsealed item (isRefused ▸ isEffect)
  rw [Option.isNone_iff_eq_none.mp isSilent] at reported
  cases reported

theorem removable (unsealed : start.host.sealedKeys = []) {plan : Plan} {keep : Plan.Item → Bool}
    (dropped : ∀ item ∈ plan.items, keep item = false → start.Fruitless monitor item) :
    (start.instrument monitor (plan.keeping keep)).1 = (start.instrument monitor plan).1 ∧
      (start.instrument monitor (plan.keeping keep)).2.withoutDiagnostics =
        (start.instrument monitor plan).2.withoutDiagnostics := by
  have unpicked {Part : Type} {pick : Effect → Option Part}
      (skips : ∀ effect, effect.Idle → pick effect = none) :
      ∀ item ∈ plan.items, keep item = false → (effects item).filterMap pick = [] :=
    fun item isItem isDropped => List.filterMap_eq_nil_iff.mpr fun effect isEffect =>
      skips effect (decomposes.idle (dropped item isItem isDropped) effect isEffect)
  have onlyReports : ∀ item ∈ plan.items, keep item = false →
      (effects item).filter (fun effect => effect.failure?.isNone) = [] :=
    fun item isItem isDropped => decomposes.filter_eq_nil unsealed (dropped item isItem isDropped)
  rw [decomposes.applies (.refl start), decomposes.applies (.refl start), Plan.items_keeping]
  constructor
  · simp only [Instrumentation.of, List.filterMap_flatMap,
      flatMap_filter_of_nil (unpicked fun _ => And.left),
      flatMap_filter_of_nil (unpicked fun _ => And.right)]
  · simp only [withoutDiagnostics_performAll, List.filter_flatMap,
      flatMap_filter_of_nil onlyReports]

end World.Decomposes

/-- The entries of a plan are independent. -/
theorem entries_are_independent (world : World) (monitor : Monitor) (plan : Plan) :
    world.AppliesIndependently monitor plan := by
  obtain ⟨effects, decomposes⟩ := world.exists_decomposes monitor
  have whole := decomposes.applies (.refl world) plan
  have alone := decomposes.alone (.refl world)
  refine ⟨?_, ?_, ?_, ?_, ?_, fun unsealed _ => decomposes.removable unsealed⟩
  · rw [whole]
    simp only [alone]
    exact List.filterMap_flatMap
  · rw [whole]
    simp only [alone]
    exact List.filterMap_flatMap
  · rw [whole]
    simp only [World.reports, alone, World.diagnostics_performAll, List.drop_left,
      List.filterMap_flatMap]
  · rw [whole]
    simp only [World.reports, alone, World.emissions_performAll, List.drop_left,
      List.filterMap_flatMap]
  · intro earlier item fruitless
    have setting : world.SameSetting (world.instrument monitor earlier).2 :=
      decomposes.applies (.refl world) earlier ▸ (World.SameSetting.refl world).performAll _
    dsimp only
    rw [decomposes.alone setting]
    exact World.performAll_idle (decomposes.idle fruitless)

/-- The process with the classes of a desk and one native symbol. -/
def nativeDeskWorld : World :=
  { deskWorld with host := { symbols := some (.table ⟨[("libc", "puts", 4096)]⟩) } }

/-- A plan with entries of all kinds that fail: a name without a dot, an unknown member, an unknown
class, an unknown symbol, and a pattern that cannot be read. -/
def troubledPlan : Plan where
  methods := [{ target := "greet" }, { target := "Desk.greet" }, { target := "Desk.shout" }]
  classes := [{ name := "Bell" }, { name := "Lamp" }]
  natives :=
    [{ modulePath := "libc", symbol := "puts" }, { modulePath := "libc", symbol := "gets" },
      { modulePath := "libc", symbol := "puts", condition := some "(" }]

/-- The entries of the plan that do not fail. -/
def Plan.Item.succeeds : Item → Bool
  | .hooking (.method rule) => rule.target = "Desk.greet"
  | .hooking (.sweep rule) => rule.name = "Bell"
  | .native rule => rule.symbol = "puts" ∧ rule.condition = none

/-- Without the entries that fail, the plan hooks and attaches the same. -/
theorem entries_are_independent_desk :
    nativeDeskWorld.AppliesIndependently ⟨0, 0⟩ troubledPlan ∧
      (nativeDeskWorld.instrument ⟨0, 0⟩ troubledPlan).1.hooks =
        [⟨⟨"Desk", "greet", ⟨["Str"]⟩⟩, "Desk.greet"⟩, ⟨⟨"Desk", "greet", ⟨[]⟩⟩, "Desk.greet"⟩,
          ⟨⟨"Bell", "ring", ⟨[]⟩⟩, "Bell.ring"⟩] ∧
      (nativeDeskWorld.instrument ⟨0, 0⟩ troubledPlan).1.probes = [⟨"libc", "puts", 4096⟩] ∧
      (nativeDeskWorld.instrument ⟨0, 0⟩ troubledPlan).2.sink.diagnostics.length = 5 ∧
      (nativeDeskWorld.instrument ⟨0, 0⟩ (troubledPlan.keeping Plan.Item.succeeds)).1 =
        (nativeDeskWorld.instrument ⟨0, 0⟩ troubledPlan).1 ∧
      (nativeDeskWorld.instrument ⟨0, 0⟩
        (troubledPlan.keeping Plan.Item.succeeds)).2.sink.diagnostics = [] := by
  have applies := entries_are_independent nativeDeskWorld ⟨0, 0⟩ troubledPlan
  refine ⟨applies, rfl, rfl, rfl, (applies.removable rfl Plan.Item.succeeds ?_).1, rfl⟩
  intro item isItem fails
  simp only [troubledPlan, Plan.items, Plan.entries, List.map_cons, List.map_nil,
    List.cons_append, List.nil_append, List.mem_cons, List.not_mem_nil, or_false] at isItem
  rcases isItem with rfl | rfl | rfl | rfl | rfl | rfl | rfl | rfl <;>
    first | exact ⟨rfl, rfl⟩ | cases fails

end Intercept
