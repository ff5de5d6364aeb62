/-
This file says what hooking does where the host refuses nothing. Every installation on a declared
overload then succeeds, so hooking a target and sweeping a class are lists of installations, made
one after another, and these lists are told by what is declared. Installations change hooks
only, and in the end an overload carries the tracer of the last installation on it.
-/
import Intercept.Proofs.Rearming
import Mathlib.Data.List.Induction

namespace Intercept

/-- That a host reports just what is declared, and refuses nothing. -/
structure Host.Faithful (host : Host) : Prop where
  managed : host.managed = true
  ghosts : host.ghosts = []
  unsealed : host.sealedKeys = []

/-! ### Classes -/

namespace Registry

/-- The class at a slot that its name gives. -/
theorem classAt?_of_slotOf? {registry : Registry} {name : String} {slot : Nat}
    (found : registry.slotOf? name = some slot) :
    ∃ entry ∈ registry.classes, entry.name = name ∧
      registry.classAt? ⟨name, slot⟩ = some entry := by
  obtain ⟨present, named, -⟩ := List.findIdx?_eq_some_iff_getElem.mp found
  have named := of_decide_eq_true named
  refine ⟨_, List.getElem_mem present, named, ?_⟩
  rw [classAt?, List.getElem?_eq_getElem present]
  exact Option.filter_some_pos (decide_eq_true named)

theorem slotOf?_of_resolve? {registry : Registry} {name : String} {container : ClassRef}
    (declared : registry.resolve? name = some container) :
    container.name = name ∧ registry.slotOf? name = some container.slot := by
  obtain ⟨slot, found, rfl⟩ := Option.map_eq_some_iff.mp declared
  exact ⟨rfl, found⟩

/-- The overloads that a reference to a class gives are those of the class that has its name. -/
theorem overloadRefs_of_classAt? {registry : Registry} {container : ClassRef}
    {entry : DeclaredClass} (found : registry.classAt? container = some entry) (member : String) :
    registry.overloadRefs container member = registry.memberRefs container.name member := by
  have named := of_decide_eq_true (Option.filter_eq_some_iff.mp found).2
  rw [overloadRefs, found, memberRefs_eq, ← named]

theorem overloadRefs_eq {registry : Registry} {name : String} {slot : Nat}
    (found : registry.slotOf? name = some slot) (member : String) :
    registry.overloadRefs ⟨name, slot⟩ member = registry.memberRefs name member := by
  obtain ⟨entry, -, -, isEntry⟩ := classAt?_of_slotOf? found
  exact overloadRefs_of_classAt? isEntry member

end Registry

/-! ### Single installations -/

namespace World

variable {world : World} {monitor : Monitor} {reference : OverloadRef} {overload : Overload}
  {path : String} {hook : Hook}

theorem overload?_hooked_self
    (found : (world.registry monitor.runtime).overload? reference = some overload) :
    ((world.hooked monitor overload path hook).registry monitor.runtime).overload? reference =
      some { overload with installed := some (.traced
        ⟨world.nextTracer, monitor.emitter, path, hook, overload.declaredBody⟩) } := by
  obtain rfl := Registry.reference_of_overload? found
  rw [registry_hooked_self found, Registry.overload?_putBody_self found]

theorem overload?_hooked_other
    (found : (world.registry monitor.runtime).overload? reference = some overload)
    {runtime : RuntimeId} {other : OverloadRef}
    (different : runtime = monitor.runtime → other ≠ reference) :
    ((world.hooked monitor overload path hook).registry runtime).overload? other =
      (world.registry runtime).overload? other := by
  obtain rfl := Registry.reference_of_overload? found
  by_cases same : runtime = monitor.runtime
  · subst same
    rw [registry_hooked_self found, Registry.overload?_putBody_other _ _ (different rfl)]
  · rw [registry_hooked_other same]

/-- Where the host refuses nothing, a hook of a declared overload is installed. -/
theorem installHook_declared (faithful : world.host.Faithful)
    (found : (world.registry monitor.runtime).overload? reference = some overload) :
    world.installHook monitor reference path hook =
      (.ok ⟨reference, path⟩, world.hooked monitor overload path hook) := by
  rcases world.installHook_cases monitor reference path hook with
    ⟨missing, -⟩ | ⟨_, -, isSealed, -⟩ | ⟨other, alsoFound, -, ends⟩
  · cases missing.symm.trans found
  · rw [faithful.unsealed] at isSealed
    cases isSealed
  · cases alsoFound.symm.trans found
    exact ends

/-- An installation changes nothing but what is over the overload. -/
theorem rearmed_hooked
    (found : (world.registry monitor.runtime).overload? reference = some overload) :
    World.Rearmed
      (fun runtime sought => if runtime = monitor.runtime ∧ sought = reference then
        some ⟨path, hook, monitor.emitter⟩ else none)
      world (world.hooked monitor overload path hook) where
  classes runtime := by
    by_cases same : runtime = monitor.runtime
    · subst same
      rw [registry_hooked_self found]
      rfl
    · rw [registry_hooked_other same]
  declarations := declarations_hooked found
  host := rfl
  issued := Nat.le_succ _
  kept := by
    intro runtime sought standing stands nothing
    have other : runtime = monitor.runtime → sought ≠ reference := fun sameRuntime same =>
      nomatch (if_pos ⟨sameRuntime, same⟩).symm.trans nothing
    rwa [overload?_hooked_other found other]
  armed := by
    intro runtime sought standing instrument stands isLast
    obtain ⟨⟨rfl, rfl⟩, same⟩ := Option.ite_none_right_eq_some.mp isLast
    cases stands.symm.trans found
    cases same
    exact ⟨_, Nat.le_refl _, Nat.lt_succ_self _, overload?_hooked_self found⟩

end World

/-! ### Lists of installations -/

/-- Where hooks that were installed together are on an overload under one path only, this path
and their hook are the last ones put in force. -/
theorem lastInstrument_installations {monitor : Monitor} {hook : Hook}
    {installed : List InstalledHook} {reference : OverloadRef} {path : String}
    (paths : ∀ entry ∈ installed, entry.overload = reference → entry.path = path)
    (runtime : RuntimeId) :
    lastInstrument (installations monitor hook installed) runtime reference =
      if runtime = monitor.runtime ∧ reference ∈ installed.map InstalledHook.overload then
        some ⟨path, hook, monitor.emitter⟩
      else none := by
  split
  · next present =>
    obtain ⟨rfl, isInstalled⟩ := present
    obtain ⟨entry, isEntry, isOn⟩ := List.mem_map.mp isInstalled
    have nonempty : ((installations monitor hook installed).filter fun installation =>
        installation.monitor.runtime = monitor.runtime ∧
          installation.installed.overload = reference) ≠ [] :=
      List.ne_nil_of_mem
        (List.mem_filter.mpr ⟨List.mem_map_of_mem isEntry, decide_eq_true ⟨rfl, isOn⟩⟩)
    rw [lastInstrument, List.getLast?_eq_some_getLast nonempty, Option.map_some]
    obtain ⟨isLogged, isOn⟩ := List.mem_filter.mp (List.getLast_mem nonempty)
    obtain ⟨last, isLast, same⟩ := List.mem_map.mp isLogged
    rw [← same] at isOn ⊢
    rw [Installation.instrument, paths last isLast (of_decide_eq_true isOn).2]
  · next absent =>
    refine lastInstrument_eq_none fun installation isLogged sameRuntime isOn => absent ?_
    obtain ⟨entry, isEntry, rfl⟩ := List.mem_map.mp isLogged
    exact ⟨sameRuntime.symm, List.mem_map.mpr ⟨entry, isEntry, isOn⟩⟩

/-- One more installation counts for its own overload, and for no other one. -/
theorem lastInstrument_concat (log : List Installation) (installation : Installation)
    (runtime : RuntimeId) (reference : OverloadRef) :
    lastInstrument (log ++ [installation]) runtime reference =
      (if runtime = installation.monitor.runtime ∧
          reference = installation.installed.overload then some installation.instrument
        else none).or (lastInstrument log runtime reference) := by
  split
  · next same =>
    rw [same.1, same.2, lastInstrument_concat_self, Option.some_or]
  · next different =>
    rw [lastInstrument_concat_other log (not_and.mp different), Option.none_or]

/-- That an installation is on a declared overload. -/
def Installation.Declared (installation : Installation) (world : World) : Prop :=
  installation.installed.overload ∈
    (world.registry installation.monitor.runtime).references

namespace World

/-- The world after an installation has been made. -/
def install (world : World) (installation : Installation) : World :=
  (world.installHook installation.monitor installation.installed.overload
    installation.installed.path installation.hook).2

/-- The world after installations have been made one after another. -/
def installEach (world : World) (installations : List Installation) : World :=
  installations.foldl install world

variable {world : World} {log : List Installation}

theorem installEach_append (world : World) (first second : List Installation) :
    world.installEach (first ++ second) = (world.installEach first).installEach second :=
  List.foldl_append

/-- Installing emits nothing. -/
theorem sink_installEach (world : World) (log : List Installation) :
    (world.installEach log).sink = world.sink := by
  induction log generalizing world with
  | nil => rfl
  | cons installation rest inductionHypothesis =>
    refine (inductionHypothesis (world.install installation)).trans ?_
    rcases world.installHook_cases installation.monitor installation.installed.overload
      installation.installed.path installation.hook with
      ⟨-, ends⟩ | ⟨_, -, -, ends⟩ | ⟨_, -, -, ends⟩ <;> rw [install, ends]
    rfl

/-- After installations on declared overloads, every overload is under the last one on it. -/
theorem rearmed_installEach (faithful : world.host.Faithful)
    (declared : ∀ installation ∈ log, installation.Declared world) :
    World.Rearmed (lastInstrument log) world (world.installEach log) := by
  induction log using List.reverseRecOn with
  | nil => exact .of_beside ⟨rfl, rfl, rfl⟩
  | append_singleton earlier installation inductionHypothesis =>
    have before := inductionHypothesis fun other member =>
      declared other (List.mem_append_left _ member)
    have present : installation.installed.overload ∈
        ((world.installEach earlier).registry installation.monitor.runtime).references := by
      rw [before.references]
      exact declared installation (List.mem_append_right _ List.mem_cons_self)
    obtain ⟨overload, found⟩ := Registry.exists_overload? present
    have installs : world.installEach (earlier ++ [installation]) =
        (world.installEach earlier).hooked installation.monitor overload
          installation.installed.path installation.hook :=
      (installEach_append world earlier [installation]).trans
        (congrArg Prod.snd (installHook_declared (before.host ▸ faithful) found))
    rw [installs]
    exact (before.trans (rearmed_hooked found)).congr fun runtime reference _ =>
      (lastInstrument_concat earlier installation runtime reference).symm

end World

/-! ### Hooking by name -/

/-- The hooks of a member's overloads, under a path. -/
def Registry.memberHooks (registry : Registry) (container member path : String) :
    List InstalledHook :=
  (registry.memberRefs container member).map fun reference => ⟨reference, path⟩

/-- The hooks of members of a class, each under its own path. -/
def Registry.sweepHooks (registry : Registry) (name : String) (members : List String) :
    List InstalledHook :=
  members.flatMap fun member => registry.memberHooks name member (name ++ "." ++ member)

/-- The hooks of all members of a class, each member visited once. -/
def Registry.classHooks (registry : Registry) (container : ClassRef) : List InstalledHook :=
  registry.sweepHooks container.name
    (World.firstOccurrences [] (registry.memberNames container))

theorem Registry.sweepHooks_cons (registry : Registry) (name member : String)
    (rest : List String) :
    registry.sweepHooks name (member :: rest) =
      registry.memberHooks name member (name ++ "." ++ member) ++ registry.sweepHooks name rest :=
  rfl

namespace World

variable {world : World}

theorem installations_declared {monitor : Monitor} (hook : Hook) {installed : List InstalledHook}
    (declared : ∀ entry ∈ installed,
      entry.overload ∈ (world.registry monitor.runtime).references) :
    ∀ installation ∈ installations monitor hook installed, installation.Declared world := by
  intro installation member
  obtain ⟨entry, isEntry, rfl⟩ := List.mem_map.mp member
  exact declared entry isEntry

theorem installations_append (monitor : Monitor) (hook : Hook) (first second : List InstalledHook) :
    installations monitor hook (first ++ second) =
      installations monitor hook first ++ installations monitor hook second :=
  List.map_append

theorem memberHooks_declared (registry : Registry) (container member path : String) :
    ∀ entry ∈ registry.memberHooks container member path,
      entry.overload ∈ registry.references := by
  intro entry isEntry
  obtain ⟨reference, isMember, rfl⟩ := List.mem_map.mp isEntry
  exact (Registry.mem_memberRefs.mp isMember).1

theorem hookEach_declared (faithful : world.host.Faithful) (monitor : Monitor) (path : String)
    (hook : Hook) {references : List OverloadRef}
    (declared : ∀ reference ∈ references,
      reference ∈ (world.registry monitor.runtime).references) :
    world.hookEach monitor path hook references =
      (references.map fun reference => ⟨reference, path⟩,
        world.installEach
          (installations monitor hook (references.map fun reference => ⟨reference, path⟩))) := by
  induction references generalizing world with
  | nil => rfl
  | cons reference rest inductionHypothesis =>
    obtain ⟨overload, found⟩ := Registry.exists_overload? (declared reference List.mem_cons_self)
    have installs : world.installHook monitor reference path hook =
        (.ok ⟨reference, path⟩, world.hooked monitor overload path hook) :=
      installHook_declared faithful found
    have first : World.Rearmed _ world (world.hooked monitor overload path hook) :=
      rearmed_hooked found
    have declaredRest : ∀ other ∈ rest, other ∈
        ((world.hooked monitor overload path hook).registry monitor.runtime).references := by
      intro other member
      rw [first.references]
      exact declared other (List.mem_cons_of_mem _ member)
    have others := inductionHypothesis (first.host ▸ faithful) declaredRest
    have leads : world.install ⟨monitor, ⟨reference, path⟩, hook⟩ =
        world.hooked monitor overload path hook := congrArg Prod.snd installs
    rw [hookEach, installs]
    dsimp only
    rw [others, ← leads]
    rfl

theorem hookOverloads_declared (faithful : world.host.Faithful) (monitor : Monitor)
    {name : String} {slot : Nat}
    (found : (world.registry monitor.runtime).slotOf? name = some slot) (member path : String)
    (hook : Hook) :
    world.hookOverloads monitor ⟨name, slot⟩ member path hook =
      ((world.registry monitor.runtime).memberHooks name member path,
        world.installEach (installations monitor hook
          ((world.registry monitor.runtime).memberHooks name member path))) := by
  rw [hookOverloads, reportedOverloads, faithful.ghosts, List.filter_nil, List.append_nil,
    Registry.overloadRefs_eq found]
  exact hookEach_declared faithful monitor path hook fun reference member =>
    (Registry.mem_memberRefs.mp member).1

theorem sweep_declared (faithful : world.host.Faithful) (monitor : Monitor) {name : String}
    {slot : Nat} (found : (world.registry monitor.runtime).slotOf? name = some slot)
    (hook : Hook) (members : List String) :
    world.sweep monitor ⟨name, slot⟩ hook members =
      ((world.registry monitor.runtime).sweepHooks name members,
        world.installEach (installations monitor hook
          ((world.registry monitor.runtime).sweepHooks name members))) := by
  induction members generalizing world with
  | nil => rfl
  | cons member rest inductionHypothesis =>
    have first := rearmed_installEach faithful (installations_declared hook
      (memberHooks_declared (world.registry monitor.runtime) name member (name ++ "." ++ member)))
    have others := inductionHypothesis (first.host ▸ faithful)
      ((first.slotOf? monitor.runtime name).trans found)
    have same : Registry.sweepHooks _ name rest =
        (world.registry monitor.runtime).sweepHooks name rest :=
      List.flatMap_congr fun other _ =>
        congrArg (List.map _) (first.memberRefs monitor.runtime name other)
    rw [same] at others
    rw [sweep, hookOverloads_declared faithful monitor found]
    dsimp only
    rw [others, Registry.sweepHooks_cons, installations_append, installEach_append]

theorem resolve_declared (managed : world.host.managed = true) (runtime : RuntimeId)
    {name : String} {slot : Nat} (found : (world.registry runtime).slotOf? name = some slot) :
    world.resolve runtime name = (some ⟨name, slot⟩, world) := by
  rw [resolve, if_neg (not_not.mpr managed), Registry.resolve?, found]
  rfl

theorem resolve_undeclared (managed : world.host.managed = true) (runtime : RuntimeId)
    {name : String} (missing : (world.registry runtime).slotOf? name = none) :
    world.resolve runtime name = (none, world.diagnose (.unknownClass name)) := by
  rw [resolve, if_neg (not_not.mpr managed), Registry.resolve?, missing]
  rfl

theorem visibleMembers_eq (faithful : world.host.Faithful) (runtime : RuntimeId)
    (container : ClassRef) :
    world.visibleMembers runtime container =
      firstOccurrences [] ((world.registry runtime).memberNames container) := by
  rw [visibleMembers, if_pos faithful.managed, reportedMembers, faithful.ghosts, List.filter_nil,
    List.map_nil, List.append_nil]

theorem sweepClass_declared (faithful : world.host.Faithful) (monitor : Monitor) {name : String}
    {container : ClassRef}
    (resolves : (world.registry monitor.runtime).resolve? name = some container) (hook : Hook) :
    world.sweepClass monitor name hook =
      ((world.registry monitor.runtime).classHooks container,
        world.installEach (installations monitor hook.withoutTransforms
          ((world.registry monitor.runtime).classHooks container))) := by
  obtain ⟨rfl, found⟩ := Registry.slotOf?_of_resolve? resolves
  rw [sweepClass, resolve_declared faithful.managed monitor.runtime found]
  dsimp only
  rw [visibleMembers_eq faithful]
  exact sweep_declared faithful monitor found _ _

end World

end Intercept
