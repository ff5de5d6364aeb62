/-
This file takes apart what the entries of a plan do. Every entry comes down to single effects: a
hook is installed, an installation is refused, a failure is reported, a probe is attached. Which
effects these are is settled by the host and by what is declared, and no effect changes either of
them. So an entry has the same effects wherever it is applied, whatever other entries have
installed, or failed at, before it.
-/
import Intercept.Proofs.Undisturbed

namespace Intercept

/-! ### Effects -/

/-- A single effect of an entry. -/
inductive Effect where
  /-- The tracer of a hook is put over the declared body of an overload. -/
  | hooked (monitor : Monitor) (overload : Overload) (path : String) (hook : Hook)
  /-- An installation that the host refuses. It uses up an identity. -/
  | refused
  | diagnosed (failure : HookFailure)
  | probed (attached : Boundary.AttachedProbe) (probe : Boundary.Probe)

namespace Effect

/-- The hook that an effect installs. -/
def hook? : Effect → Option InstalledHook
  | .hooked _ overload path _ => some ⟨overload.reference, path⟩
  | _ => none

/-- The probe that an effect attaches. -/
def attached? : Effect → Option Boundary.AttachedProbe
  | .probed attached _ => some attached
  | _ => none

/-- The failure that an effect reports. -/
def failure? : Effect → Option HookFailure
  | .diagnosed failure => some failure
  | _ => none

/-- What an effect emits to the trace. -/
def emission? : Effect → Option Emission
  | .probed attached probe => some ⟨probe.emitter,
      .probeAttached (Exports.labelText attached.modulePath) attached.symbol attached.address⟩
  | _ => none

/-- Whether an effect installs and attaches nothing. -/
def Idle (effect : Effect) : Prop :=
  effect.hook? = none ∧ effect.attached? = none

theorem Idle.isSome_failure? {effect : Effect} (idle : effect.Idle) (unrefused : effect ≠ .refused) :
    effect.failure?.isSome := by
  cases effect with
  | hooked => cases idle.1
  | refused => exact absurd rfl unrefused
  | diagnosed => rfl
  | probed => cases idle.2

end Effect

namespace World

/-- The world after an effect. -/
def perform (world : World) : Effect → World
  | .hooked monitor overload path hook => world.hooked monitor overload path hook
  | .refused => { world with nextTracer := world.nextTracer + 1 }
  | .diagnosed failure => world.diagnose failure
  | .probed attached probe =>
    { world with boundary := world.boundary.putProbe attached.address probe }.emit probe.emitter
      (.probeAttached (Exports.labelText attached.modulePath) attached.symbol attached.address)

/-- The world after effects one after another. -/
def performAll (world : World) (effects : List Effect) : World :=
  effects.foldl perform world

theorem performAll_append (world : World) (first second : List Effect) :
    world.performAll (first ++ second) = (world.performAll first).performAll second :=
  List.foldl_append

/-! ### What effects add to the sink -/

variable (world : World) (effects : List Effect)

theorem diagnostics_perform (effect : Effect) :
    (world.perform effect).sink.diagnostics =
      world.sink.diagnostics ++ effect.failure?.toList := by
  cases effect with
  | diagnosed failure => rfl
  | _ => exact (List.append_nil _).symm

theorem emissions_perform (effect : Effect) :
    (world.perform effect).sink.emissions = world.sink.emissions ++ effect.emission?.toList := by
  cases effect with
  | probed attached probe => rfl
  | _ => exact (List.append_nil _).symm

theorem diagnostics_performAll :
    (world.performAll effects).sink.diagnostics =
      world.sink.diagnostics ++ effects.filterMap Effect.failure? := by
  induction effects generalizing world with
  | nil => exact (List.append_nil _).symm
  | cons effect rest inductionHypothesis =>
    refine (inductionHypothesis (world.perform effect)).trans ?_
    rw [diagnostics_perform, List.append_assoc, List.filterMap_cons]
    cases effect.failure? <;> rfl

theorem emissions_performAll :
    (world.performAll effects).sink.emissions =
      world.sink.emissions ++ effects.filterMap Effect.emission? := by
  induction effects generalizing world with
  | nil => exact (List.append_nil _).symm
  | cons effect rest inductionHypothesis =>
    refine (inductionHypothesis (world.perform effect)).trans ?_
    rw [emissions_perform, List.append_assoc, List.filterMap_cons]
    cases effect.emission? <;> rfl

variable {world effects}

/-- Effects that install and attach nothing leave hooks and probes alone. -/
theorem performAll_idle (idle : ∀ effect ∈ effects, effect.Idle) :
    (world.performAll effects).registries = world.registries ∧
      (world.performAll effects).boundary = world.boundary := by
  induction effects generalizing world with
  | nil => exact ⟨rfl, rfl⟩
  | cons effect rest inductionHypothesis =>
    obtain ⟨registries, boundary⟩ := @inductionHypothesis (world.perform effect)
      fun other isOther => idle other (List.mem_cons_of_mem _ isOther)
    obtain ⟨noHook, noProbe⟩ := idle effect List.mem_cons_self
    cases effect with
    | hooked => cases noHook
    | probed => cases noProbe
    | _ => exact ⟨registries, boundary⟩

/-! ### The setting -/

/-- That hooking finds the same in two worlds: what is declared, and the host. -/
structure SameSetting (world other : World) : Prop extends world.SameDeclared other where
  host : other.host = world.host

namespace SameSetting

variable {start world : World}

theorem refl (world : World) : world.SameSetting world :=
  ⟨.of_registries rfl, rfl⟩

theorem trans {middle : World} (first : start.SameSetting middle)
    (second : middle.SameSetting world) : start.SameSetting world :=
  ⟨first.toSameDeclared.trans second.toSameDeclared, second.host.trans first.host⟩

theorem hooked (world : World) (monitor : Monitor) (overload : Overload) (path : String)
    (hook : Hook) : world.SameSetting (world.hooked monitor overload path hook) where
  classes runtime := by
    rcases World.registry_setRegistry_cases { world with nextTracer := world.nextTracer + 1 }
      monitor.runtime runtime _ with reads | ⟨rfl, reads⟩ <;> rw [World.hooked, reads] <;> rfl
  declarations runtime := by
    rcases World.registry_setRegistry_cases { world with nextTracer := world.nextTracer + 1 }
      monitor.runtime runtime _ with reads | ⟨rfl, reads⟩ <;> rw [World.hooked, reads]
    · rfl
    · exact Registry.declarations_putBody _ _ _
  host := rfl

/-- Installing hooks does not change the setting. -/
theorem byHooking (start : World) (monitor : Monitor) (hook : Hook) :
    KeptByHooking monitor hook fun _ world => start.SameSetting world where
  hooked _ same := same.trans (hooked _ _ _ _ _)
  refused same := same.trans ⟨.of_registries rfl, rfl⟩
  diagnosed same := same.trans ⟨.of_registries rfl, rfl⟩

/-- Effects do not change the setting. -/
theorem performAll (same : start.SameSetting world) (effects : List Effect) :
    start.SameSetting (world.performAll effects) := by
  induction effects generalizing world with
  | nil => exact same
  | cons effect rest inductionHypothesis =>
    refine inductionHypothesis (same.trans ?_)
    cases effect with
    | hooked monitor overload path hook => exact hooked world monitor overload path hook
    | _ => exact ⟨.of_registries rfl, rfl⟩

theorem resolve? (same : start.SameSetting world) (runtime : RuntimeId) (name : String) :
    (world.registry runtime).resolve? name = (start.registry runtime).resolve? name := by
  rw [Registry.resolve?, same.slotOf?, Registry.resolve?]

/-- A declared overload is found in the same setting, with the same declared body. -/
theorem overload? (same : start.SameSetting world) {runtime : RuntimeId}
    {reference : OverloadRef} {overload : Overload}
    (found : (start.registry runtime).overload? reference = some overload) :
    ∃ other, (world.registry runtime).overload? reference = some other ∧
      other.reference = overload.reference ∧ other.declaredBody = overload.declaredBody := by
  have asked : (Callee.exactly reference).find? (start.registry runtime) [] = some overload := found
  have grows : (start.registry runtime).declarations <+: (world.registry runtime).declarations :=
    same.declarations runtime ▸ List.prefix_rfl
  exact Callee.find?_of_declarations _ grows asked

theorem reportedOverloads (same : start.SameSetting world) (runtime : RuntimeId)
    (container : ClassRef) (member : String) :
    world.reportedOverloads runtime container member =
      start.reportedOverloads runtime container member := by
  simp only [World.reportedOverloads, Registry.overloadRefs, Registry.classAt?,
    ← Registry.memberRefs_eq, same.classes, same.memberRefs, same.host]

theorem visibleMembers (same : start.SameSetting world) (runtime : RuntimeId)
    (container : ClassRef) :
    world.visibleMembers runtime container = start.visibleMembers runtime container := by
  simp only [World.visibleMembers, World.reportedMembers, Registry.memberNames, Registry.classAt?,
    same.classes, same.host]

end SameSetting

/-! ### Actions -/

/-- That an action has the same effects wherever the setting is the same, and hands back what is
picked from them. What is not picked installs and attaches nothing. -/
structure Acts {Item : Type} (start : World) (pick : Effect → Option Item)
    (act : World → List Item × World) (effects : List Effect) : Prop where
  acts : ∀ {world}, start.SameSetting world →
    act world = (effects.filterMap pick, world.performAll effects)
  others : ∀ effect ∈ effects, pick effect = none → effect.Idle
  /-- Only a host that seals overloads refuses installations. -/
  unrefused : start.host.sealedKeys = [] → .refused ∉ effects

namespace Acts

variable {Item : Type} {start : World} {pick : Effect → Option Item}
  {act other : World → List Item × World}

theorem nil : start.Acts pick (fun world => ([], world)) [] where
  acts _ := rfl
  others _ isEffect := nomatch isEffect
  unrefused _ := List.not_mem_nil

theorem congr (acts : start.Acts pick act effects)
    (same : ∀ {world}, start.SameSetting world → other world = act world) :
    start.Acts pick other effects :=
  ⟨fun setting => (same setting).trans (acts.acts setting), acts.others, acts.unrefused⟩

/-- One action and then another one. The second starts in the same setting as the first. -/
theorem append {later : List Effect} (first : start.Acts pick act effects)
    (second : start.Acts pick other later) :
    start.Acts pick
      (fun world => ((act world).1 ++ (other (act world).2).1, (other (act world).2).2))
      (effects ++ later) where
  acts setting := by
    rw [first.acts setting, second.acts (setting.performAll effects), List.filterMap_append,
      performAll_append]
  others effect isEffect :=
    (List.mem_append.mp isEffect).elim (first.others effect) (second.others effect)
  unrefused unsealed isEffect :=
    (List.mem_append.mp isEffect).elim (first.unrefused unsealed) (second.unrefused unsealed)

/-- An action that only reports a failure. -/
theorem diagnosed (failure : HookFailure) (unpicked : pick (.diagnosed failure) = none) :
    start.Acts pick (fun world => ([], world.diagnose failure)) [.diagnosed failure] where
  acts _ := by
    rw [List.filterMap_cons_none unpicked]
    rfl
  others effect isEffect _ := List.mem_singleton.mp isEffect ▸ ⟨rfl, rfl⟩
  unrefused _ isEffect := nomatch List.mem_singleton.mp isEffect

/-- An action with a single effect, which is picked. -/
theorem picked {effect : Effect} {item : Item} (picks : pick effect = some item)
    (unpicked : pick .refused = none)
    (acts : ∀ {world}, start.SameSetting world → act world = ([item], world.perform effect)) :
    start.Acts pick act [effect] where
  acts setting := by
    rw [acts setting, List.filterMap_cons_some picks]
    rfl
  others other isEffect free := by
    rw [List.mem_singleton.mp isEffect, picks] at free
    cases free
  unrefused _ isEffect := by
    rw [List.mem_singleton.mp isEffect, picks] at unpicked
    cases unpicked

end Acts

/-! ### Hooking -/

section Hooking

variable (start : World) (monitor : Monitor) (path : String) (hook : Hook)

/-- A single installation has one of three ends, and which one it has is told by the setting. -/
theorem exists_acts_hookEach_singleton (reference : OverloadRef) :
    ∃ effects, start.Acts Effect.hook?
      (fun world => world.hookEach monitor path hook [reference]) effects := by
  cases found : (start.registry monitor.runtime).overload? reference with
  | none =>
    refine ⟨_, (Acts.diagnosed (.undeclaredOverload reference.key) rfl).congr
      fun {world} setting => ?_⟩
    have missing : (world.registry monitor.runtime).overload? reference = none := by
      rw [Registry.overload?_eq_none_iff, ← Registry.references, setting.references]
      exact Registry.overload?_eq_none_iff.mp found
    rw [World.hookEach, World.installHook, Registry.declaredBody, missing]
    rfl
  | some overload =>
    by_cases isSealed : start.host.sealedKeys.contains reference.key
    · refine ⟨[.refused, .diagnosed (.undeclaredOverload reference.key)], ?_, ?_, ?_⟩
      · intro world setting
        obtain ⟨other, alsoFound, -⟩ := setting.overload? found
        rcases world.installHook_cases monitor reference path hook with
          ⟨missing, -⟩ | ⟨_, -, -, ends⟩ | ⟨_, -, free, -⟩
        · cases missing.symm.trans alsoFound
        · rw [World.hookEach, ends]
          rfl
        · exact absurd (setting.host ▸ isSealed) free
      · intro effect isEffect _
        rcases List.mem_pair.mp isEffect with rfl | rfl <;> exact ⟨rfl, rfl⟩
      · intro unsealed
        rw [unsealed] at isSealed
        cases isSealed
    · refine ⟨[.hooked monitor overload path hook], .picked rfl rfl fun {world} setting => ?_⟩
      obtain ⟨other, alsoFound, sameReference, sameBody⟩ := setting.overload? found
      rcases world.installHook_cases monitor reference path hook with
        ⟨missing, -⟩ | ⟨_, -, taken, -⟩ | ⟨_, reached, -, ends⟩
      · cases missing.symm.trans alsoFound
      · exact absurd (setting.host ▸ taken) isSealed
      · cases reached.symm.trans alsoFound
        rw [World.hookEach, ends, World.perform, World.hooked, World.hooked, sameReference,
          sameBody, ← Registry.reference_of_overload? found]
        rfl

theorem exists_acts_hookEach (references : List OverloadRef) :
    ∃ effects, start.Acts Effect.hook?
      (fun world => world.hookEach monitor path hook references) effects := by
  induction references with
  | nil => exact ⟨[], .nil⟩
  | cons reference rest inductionHypothesis =>
    obtain ⟨effects, first⟩ := start.exists_acts_hookEach_singleton monitor path hook reference
    obtain ⟨later, others⟩ := inductionHypothesis
    refine ⟨_, (first.append others).congr fun {world} _ => ?_⟩
    rw [World.hookEach, World.hookEach]
    rcases world.installHook monitor reference path hook with ⟨_ | _, _⟩ <;> rfl

theorem exists_acts_hookOverloads (container : ClassRef) (member : String) :
    ∃ effects, start.Acts Effect.hook?
      (fun world => world.hookOverloads monitor container member path hook) effects := by
  obtain ⟨effects, acts⟩ := start.exists_acts_hookEach monitor path hook
    (start.reportedOverloads monitor.runtime container member)
  refine ⟨effects, acts.congr fun setting => ?_⟩
  rw [World.hookOverloads, setting.reportedOverloads]

/-- Whether a class is found, and what is reported if it is not, is told by the setting. -/
theorem resolve_cases (runtime : RuntimeId) (name : String) :
    (∃ failure, ∀ {world}, start.SameSetting world →
      world.resolve runtime name = (none, world.diagnose failure)) ∨
    (∃ container, ∀ {world}, start.SameSetting world →
      world.resolve runtime name = (some container, world)) := by
  by_cases managed : start.host.managed
  · cases resolves : (start.registry runtime).resolve? name with
    | none =>
      refine .inl ⟨.unknownClass name, fun setting => ?_⟩
      rw [World.resolve, setting.host, if_neg (not_not.mpr managed), setting.resolve?, resolves]
    | some container =>
      refine .inr ⟨container, fun setting => ?_⟩
      rw [World.resolve, setting.host, if_neg (not_not.mpr managed), setting.resolve?, resolves]
  · refine .inl ⟨.missingCapability "managed runtime", fun setting => ?_⟩
    rw [World.resolve, setting.host, if_pos managed]

theorem exists_acts_hookTarget (name : String) :
    ∃ effects, start.Acts Effect.hook? (fun world => world.hookTarget monitor name hook)
      effects := by
  cases parses : Target.parse name with
  | error failure =>
    refine ⟨_, (Acts.diagnosed failure rfl).congr fun _ => ?_⟩
    rw [World.hookTarget, parses]
  | ok target =>
    rcases start.resolve_cases monitor.runtime target.container with
      ⟨failure, fails⟩ | ⟨container, finds⟩
    · refine ⟨_, (Acts.diagnosed failure rfl).congr fun setting => ?_⟩
      rw [World.hookTarget, parses]
      dsimp only
      rw [fails setting]
    · obtain ⟨effects, acts⟩ :=
        start.exists_acts_hookOverloads monitor name hook container target.member
      have hooks {world : World} (setting : start.SameSetting world) :
          world.hookTarget monitor name hook =
            if (effects.filterMap Effect.hook?).isEmpty ∧
                ¬ (start.visibleMembers monitor.runtime container).contains target.member then
              (effects.filterMap Effect.hook?,
                (world.performAll effects).diagnose (.unknownMember container.name target.member))
            else (effects.filterMap Effect.hook?, world.performAll effects) := by
        rw [World.hookTarget, parses]
        dsimp only
        rw [finds setting]
        dsimp only
        rw [acts.acts setting]
        dsimp only
        rw [(setting.performAll effects).visibleMembers]
      by_cases unknown : (effects.filterMap Effect.hook?).isEmpty ∧
          ¬ (start.visibleMembers monitor.runtime container).contains target.member
      · refine ⟨_, acts.append (.diagnosed (.unknownMember container.name target.member) rfl)
          |>.congr fun setting => ?_⟩
        rw [hooks setting, if_pos unknown, acts.acts setting, List.append_nil]
      · refine ⟨effects, acts.congr fun setting => ?_⟩
        rw [hooks setting, if_neg unknown, acts.acts setting]

theorem exists_acts_sweep (container : ClassRef) (members : List String) :
    ∃ effects, start.Acts Effect.hook?
      (fun world => world.sweep monitor container hook members) effects := by
  induction members with
  | nil => exact ⟨[], .nil⟩
  | cons member rest inductionHypothesis =>
    obtain ⟨effects, acts⟩ := start.exists_acts_hookOverloads monitor
      (container.name ++ "." ++ member) hook container member
    obtain ⟨later, others⟩ := inductionHypothesis
    exact ⟨_, acts.append others⟩

theorem exists_acts_sweepClass (name : String) :
    ∃ effects, start.Acts Effect.hook? (fun world => world.sweepClass monitor name hook)
      effects := by
  rcases start.resolve_cases monitor.runtime name with ⟨failure, fails⟩ | ⟨container, finds⟩
  · refine ⟨_, (Acts.diagnosed failure rfl).congr fun setting => ?_⟩
    rw [World.sweepClass, fails setting]
  · obtain ⟨effects, acts⟩ := start.exists_acts_sweep monitor hook.withoutTransforms container
      (start.visibleMembers monitor.runtime container)
    refine ⟨effects, acts.congr fun setting => ?_⟩
    rw [World.sweepClass, finds setting]
    dsimp only
    rw [setting.visibleMembers]

end Hooking

/-! ### Probing -/

section Probing

variable (start : World) (emitter : EmitterId) (modulePath symbol : String)
  (probe : Boundary.Probe)

/-- Whether a symbol is probed, and what is reported if it is not, is told by the setting. -/
theorem probeSymbol_cases :
    (∃ failure, ∀ {world}, start.SameSetting world →
      world.probeSymbol emitter modulePath symbol probe = (none, world.diagnose failure)) ∨
    (∃ address, ∀ {world}, start.SameSetting world →
      world.probeSymbol emitter modulePath symbol probe =
        (some ⟨modulePath, symbol, address⟩,
          world.perform (.probed ⟨modulePath, symbol, address⟩ { probe with emitter }))) := by
  cases hosted : start.host.symbols with
  | none =>
    refine .inl ⟨.missingCapability "native interception", fun setting => ?_⟩
    rw [World.probeSymbol, setting.host, hosted]
  | some symbols =>
    have attaches {world : World} (setting : start.SameSetting world) :
        world.probeSymbol emitter modulePath symbol probe =
          world.attachSymbol symbols emitter modulePath symbol probe := by
      rw [World.probeSymbol, setting.host, hosted]
    cases exported : symbols.find modulePath symbol with
    | error failure =>
      refine .inl ⟨failure, fun setting => ?_⟩
      rw [attaches setting, World.attachSymbol, exported]
    | ok address =>
      by_cases isSealed : start.host.sealedAddresses.contains address
      · refine .inl ⟨.missingCapability "boundary", fun setting => ?_⟩
        rw [attaches setting, World.attachSymbol, exported]
        dsimp only
        rw [World.attachAt, setting.host, if_pos isSealed]
      · refine .inr ⟨address, fun setting => ?_⟩
        rw [attaches setting, World.attachSymbol, exported]
        dsimp only
        rw [World.attachAt, if_neg (setting.host ▸ isSealed)]
        rfl

theorem exists_acts_probeSymbol :
    ∃ effects, start.Acts Effect.attached?
      (fun world => ((world.probeSymbol emitter modulePath symbol probe).1.toList,
        (world.probeSymbol emitter modulePath symbol probe).2)) effects := by
  rcases start.probeSymbol_cases emitter modulePath symbol probe with
    ⟨failure, fails⟩ | ⟨address, attaches⟩
  · refine ⟨_, (Acts.diagnosed failure rfl).congr fun setting => ?_⟩
    rw [fails setting]
    rfl
  · refine ⟨[.probed ⟨modulePath, symbol, address⟩ { probe with emitter }],
      .picked rfl rfl fun setting => ?_⟩
    rw [attaches setting]
    rfl

end Probing

end World

end Intercept
