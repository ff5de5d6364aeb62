/-
This file says what a plan puts in force. The entries for methods come first and those for
classes after them, and each hooks the overloads that it covers and leaves the others alone,
whether it succeeds, finds nothing or fails. So the world after a plan is told overload by
overload: one that no entry covers is as it was, and any other one carries a fresh tracer with
the path and the hook of the last entry that covers it.
-/
import Intercept.Proofs.Sweeping

namespace Intercept

/-! ### Entries -/

namespace Plan

/-- An entry of a plan that hooks overloads. -/
inductive Entry where
  | method (rule : MethodRule)
  | sweep (rule : SweepRule)

namespace Entry

/-- Whether an entry covers an overload: that the target of a method is its member, that the
name of a class is its class. -/
def covers (entry : Entry) (reference : OverloadRef) : Bool :=
  match entry with
  | .method rule =>
    match Target.parse rule.target with
    | .ok target => target = ⟨reference.container, reference.member⟩
    | .error _ => false
  | .sweep rule => rule.name = reference.container

/-- The path under which an entry hooks an overload. -/
def path (entry : Entry) (reference : OverloadRef) : String :=
  match entry with
  | .method rule => rule.target
  | .sweep rule => rule.name ++ "." ++ reference.member

/-- The hook of an entry. -/
def hook : Entry → Hook
  | .method rule => rule.hook
  | .sweep rule => rule.hook

/-- What an entry puts over an overload that it covers. -/
def instrument (entry : Entry) (monitor : Monitor) (reference : OverloadRef) : Instrument :=
  ⟨entry.path reference, entry.hook, monitor.emitter⟩

/-- Applies an entry. -/
def apply (entry : Entry) (monitor : Monitor) (world : World) : World :=
  match entry with
  | .method rule => (world.hookTarget monitor rule.target rule.hook).2
  | .sweep rule => (world.sweepClass monitor rule.name rule.hook).2

end Entry

/-- The entries that hook, methods before classes, each in the order of the plan. -/
def entries (plan : Plan) : List Entry :=
  plan.methods.map .method ++ plan.classes.map .sweep

/-- The entry that counts for an overload: the last one that covers it. -/
def entryFor? (plan : Plan) (reference : OverloadRef) : Option Entry :=
  (plan.entries.filter (·.covers reference)).getLast?

end Plan

namespace World

variable {world : World} {monitor : Monitor}

theorem applyMethods_eq (world : World) (monitor : Monitor) (rules : List Plan.MethodRule) :
    (world.applyMethods monitor rules).2 =
      (rules.map Plan.Entry.method).foldl (fun world entry => entry.apply monitor world) world := by
  induction rules generalizing world with
  | nil => rfl
  | cons rule rest inductionHypothesis => exact inductionHypothesis _

theorem applySweeps_eq (world : World) (monitor : Monitor) (rules : List Plan.SweepRule) :
    (world.applySweeps monitor rules).2 =
      (rules.map Plan.Entry.sweep).foldl (fun world entry => entry.apply monitor world) world := by
  induction rules generalizing world with
  | nil => rfl
  | cons rule rest inductionHypothesis => exact inductionHypothesis _

/-- A plan applies its hooking entries one after another, and then its probes. -/
theorem instrument_eq (world : World) (monitor : Monitor) (plan : Plan) :
    (world.instrument monitor plan).2 =
      ((plan.entries.foldl (fun world entry => entry.apply monitor world) world).applyNatives
        monitor.emitter plan.natives).2 := by
  rw [Plan.entries, List.foldl_append, ← applyMethods_eq, ← applySweeps_eq]
  rfl

end World

/-! ### What entries hook -/

theorem Registry.Coherent.slotOf?_isSome {registry : Registry} (coherent : registry.Coherent)
    {reference : OverloadRef} (declared : reference ∈ registry.references) :
    (registry.slotOf? reference.container).isSome := by
  obtain ⟨entry, isEntry, named, -⟩ := coherent.listed reference declared
  exact Registry.slotOf?_isSome_iff.mpr (List.mem_map.mpr ⟨entry, isEntry, named⟩)

/-- Members of a class that is not declared have no overloads. -/
theorem Registry.Coherent.memberRefs_of_missing {registry : Registry}
    (coherent : registry.Coherent) {name : String} (missing : registry.slotOf? name = none)
    (member : String) : registry.memberRefs name member = [] := by
  refine List.eq_nil_iff_forall_not_mem.mpr fun reference isMember => ?_
  obtain ⟨declared, rfl, -⟩ := Registry.mem_memberRefs.mp isMember
  have present := coherent.slotOf?_isSome declared
  rw [missing] at present
  cases present

theorem Registry.Coherent.memberHooks_eq_nil {registry : Registry}
    (coherent : registry.Coherent) {name : String} (missing : registry.slotOf? name = none)
    (member path : String) : registry.memberHooks name member path = [] := by
  rw [memberHooks, coherent.memberRefs_of_missing missing, List.map_nil]

namespace Plan.Entry

variable {registry : Registry}

/-- The hooks that an entry installs where a registry is in use. -/
def hooks (entry : Entry) (registry : Registry) : List InstalledHook :=
  match entry with
  | .method rule =>
    match Target.parse rule.target with
    | .ok target => registry.memberHooks target.container target.member rule.target
    | .error _ => []
  | .sweep rule =>
    match registry.resolve? rule.name with
    | some container => registry.classHooks container
    | none => []

/-- An entry hooks the overloads that it covers. -/
theorem mem_hooks (entry : Entry) (coherent : registry.Coherent) (reference : OverloadRef) :
    reference ∈ (entry.hooks registry).map InstalledHook.overload ↔
      reference ∈ registry.references ∧ entry.covers reference := by
  cases entry with
  | method rule =>
    simp only [hooks, covers]
    cases Target.parse rule.target with
    | error failure => simp only [List.map_nil, List.not_mem_nil, Bool.false_eq_true, and_false]
    | ok target =>
      obtain ⟨container, member⟩ := target
      rw [Registry.overloads_memberHooks, Registry.mem_memberRefs, decide_eq_true_eq,
        Target.mk.injEq, eq_comm, @eq_comm _ member]
  | sweep rule =>
    simp only [hooks, covers, decide_eq_true_eq]
    cases resolves : registry.resolve? rule.name with
    | none =>
      refine iff_of_false List.not_mem_nil fun ⟨declared, named⟩ => ?_
      have present := coherent.slotOf?_isSome declared
      rw [← named, Option.isSome_iff_ne_none] at present
      exact present (Option.map_eq_none_iff.mp resolves)
    | some container =>
      obtain ⟨named, -⟩ := Registry.slotOf?_of_resolve? resolves
      rw [← named] at resolves ⊢
      rw [coherent.mem_classHooks resolves, eq_comm]

theorem path_of_mem_hooks {entry : Entry} {installed : InstalledHook} {reference : OverloadRef}
    (isInstalled : installed ∈ entry.hooks registry) (isOn : installed.overload = reference) :
    installed.path = entry.path reference := by
  cases entry with
  | method rule =>
    rw [hooks] at isInstalled
    split at isInstalled
    · obtain ⟨_, -, rfl⟩ := List.mem_map.mp isInstalled
      rfl
    · cases isInstalled
  | sweep rule =>
    rw [hooks] at isInstalled
    split at isInstalled
    · next container resolves =>
      rw [Registry.path_of_mem_classHooks isInstalled isOn,
        (Registry.slotOf?_of_resolve? resolves).1]
      rfl
    · cases isInstalled

/-- Applying an entry installs its hooks. Whatever else it does is to report failures. -/
theorem apply_beside (entry : Entry) {world : World} (faithful : world.host.Faithful)
    (monitor : Monitor) (coherent : (world.registry monitor.runtime).Coherent) :
    (world.installEach (installations monitor entry.hook
        (entry.hooks (world.registry monitor.runtime)))).Beside (entry.apply monitor world) := by
  cases entry with
  | method rule =>
    rw [apply, hooks, World.hookTarget]
    cases Target.parse rule.target with
    | error failure => exact ⟨rfl, rfl, rfl⟩
    | ok target =>
      dsimp only
      cases found : (world.registry monitor.runtime).slotOf? target.container with
      | none =>
        rw [World.resolve_undeclared faithful.managed monitor.runtime found,
          coherent.memberHooks_eq_nil found]
        exact ⟨rfl, rfl, rfl⟩
      | some slot =>
        rw [World.resolve_declared faithful.managed monitor.runtime found]
        dsimp only
        rw [World.hookOverloads_declared faithful monitor found]
        dsimp only
        split <;> exact ⟨rfl, rfl, rfl⟩
  | sweep rule =>
    rw [apply, hooks]
    cases resolves : (world.registry monitor.runtime).resolve? rule.name with
    | none =>
      have missing := Option.map_eq_none_iff.mp resolves
      rw [World.sweepClass, World.resolve_undeclared faithful.managed monitor.runtime missing]
      exact ⟨rfl, rfl, rfl⟩
    | some container =>
      rw [World.sweepClass_declared faithful monitor resolves]
      exact ⟨rfl, rfl, rfl⟩

/-! ### What entries put over overloads -/

/-- What an entry puts over the overloads of all runtimes. -/
def puts (entry : Entry) (monitor : Monitor) (runtime : RuntimeId) (reference : OverloadRef) :
    Option Instrument :=
  if runtime = monitor.runtime ∧ entry.covers reference then
    some (entry.instrument monitor reference)
  else none

/-- An entry puts its hook over the overloads that it covers, and leaves the others alone. -/
theorem rearmed (entry : Entry) {world : World} (faithful : world.host.Faithful)
    (monitor : Monitor) (coherent : (world.registry monitor.runtime).Coherent) :
    World.Rearmed (entry.puts monitor) world (entry.apply monitor world) := by
  have covered := entry.mem_hooks coherent
  have rearmed := World.rearmed_installEach faithful <|
    World.installations_declared entry.hook fun _ isInstalled =>
      ((covered _).mp (List.mem_map_of_mem isInstalled)).1
  refine (rearmed.beside (entry.apply_beside faithful monitor coherent)).congr ?_
  intro runtime reference isDeclared
  rw [lastInstrument_installations (fun _ => path_of_mem_hooks), puts]
  refine if_congr (and_congr_right fun same => ?_) rfl rfl
  rw [covered, and_iff_right (same ▸ isDeclared)]

end Plan.Entry

/-! ### What plans put over overloads -/

/-- A registry with the same declarations is coherent as well. -/
theorem World.SameDeclared.coherent {world after : World} (same : world.SameDeclared after)
    {runtime : RuntimeId} (coherent : (world.registry runtime).Coherent) :
    (after.registry runtime).Coherent where
  named := by
    rw [Registry.classNames, same.classes]
    exact coherent.named
  distinct := by
    rw [Registry.Distinct, ← Registry.references, same.references]
    exact coherent.distinct
  listed := by
    rw [← Registry.references, same.references]
    intro reference declared
    rw [Registry.Lists, same.classes]
    exact coherent.listed reference declared

/-- What a plan puts over the overloads of all runtimes. -/
def Plan.puts (plan : Plan) (monitor : Monitor) (runtime : RuntimeId) (reference : OverloadRef) :
    Option Instrument :=
  if runtime = monitor.runtime then
    (plan.entryFor? reference).map (·.instrument monitor reference)
  else none

namespace World

variable {world : World} {monitor : Monitor}

/-- After entries one after another, every overload is under the last one that covers it. -/
theorem rearmed_entries (entries : List Plan.Entry) (faithful : world.host.Faithful)
    (coherent : (world.registry monitor.runtime).Coherent) :
    Rearmed
      (fun runtime reference => if runtime = monitor.runtime then
        (entries.filter (·.covers reference)).getLast?.map (·.instrument monitor reference)
        else none)
      world (entries.foldl (fun world entry => entry.apply monitor world) world) := by
  induction entries generalizing world with
  | nil => exact (Rearmed.of_beside ⟨rfl, rfl, rfl⟩).congr fun _ _ _ => (ite_self _).symm
  | cons entry rest inductionHypothesis =>
    have first := entry.rearmed faithful monitor coherent
    have others := inductionHypothesis (first.host ▸ faithful) (first.coherent coherent)
    refine (first.trans others).congr fun runtime reference _ => ?_
    rw [Plan.Entry.puts]
    by_cases same : runtime = monitor.runtime
    · rw [if_pos same, if_pos same]
      by_cases covered : entry.covers reference
      · rw [if_pos ⟨same, covered⟩, List.filter_cons, if_pos covered, List.getLast?_cons,
          Option.map_some]
        cases (rest.filter (·.covers reference)).getLast? <;> rfl
      · rw [if_neg fun both => covered both.2, List.filter_cons, if_neg covered, Option.or_none]
    · rw [if_neg same, if_neg same, if_neg fun both => same both.1, Option.or_none]

theorem probeSymbol_beside (world : World) (emitter : EmitterId) (modulePath symbol : String)
    (probe : Boundary.Probe) :
    world.Beside (world.probeSymbol emitter modulePath symbol probe).2 := by
  unfold probeSymbol attachSymbol attachAt
  split
  · exact ⟨rfl, rfl, rfl⟩
  · split
    · exact ⟨rfl, rfl, rfl⟩
    · by_cases isSealed : world.host.sealedAddresses.contains ‹UInt64›
      · rw [if_pos isSealed]
        exact ⟨rfl, rfl, rfl⟩
      · rw [if_neg isSealed]
        exact ⟨rfl, rfl, rfl⟩

/-- Native entries hook no overload. -/
theorem applyNatives_beside (world : World) (emitter : EmitterId)
    (rules : List Plan.SymbolRule) : world.Beside (world.applyNatives emitter rules).2 := by
  induction rules generalizing world with
  | nil => exact ⟨rfl, rfl, rfl⟩
  | cons rule rest inductionHypothesis =>
    rw [applyNatives]
    split
    · exact (⟨rfl, rfl, rfl⟩ : world.Beside (world.diagnose _)).trans (inductionHypothesis _)
    · exact (probeSymbol_beside world _ _ _ _).trans (inductionHypothesis _)

/-- A plan is applied by single changes. -/
theorem becomes_instrument (world : World) (monitor : Monitor) (plan : Plan) :
    world.Becomes (world.instrument monitor plan).2 := by
  have applies (entries : List Plan.Entry) {middle : World} (becomes : world.Becomes middle) :
      world.Becomes (entries.foldl (fun world entry => entry.apply monitor world) middle) := by
    induction entries generalizing middle with
    | nil => exact becomes
    | cons entry rest inductionHypothesis =>
      refine inductionHypothesis ?_
      cases entry with
      | method rule =>
        exact (becomes_byHooking world monitor rule.hook).hookTarget rule.target [] becomes
      | sweep rule =>
        exact sweepClass_kept (becomes_byHooking world monitor rule.hook.withoutTransforms)
          rule.name [] becomes
  rw [instrument_eq]
  exact (applies plan.entries .refl).tail (.aside (applyNatives_beside _ _ _))

theorem Reachable.instrument (reachable : world.Reachable) (monitor : Monitor) (plan : Plan) :
    (world.instrument monitor plan).2.Reachable :=
  reachable.of_becomes (becomes_instrument world monitor plan)

/-- After a plan, every overload is under the last entry that covers it. -/
theorem rearmed_instrument (faithful : world.host.Faithful)
    (coherent : (world.registry monitor.runtime).Coherent) (plan : Plan) :
    Rearmed (plan.puts monitor) world (world.instrument monitor plan).2 := by
  rw [instrument_eq]
  exact (rearmed_entries plan.entries faithful coherent).beside (applyNatives_beside _ _ _)

end World

end Intercept
