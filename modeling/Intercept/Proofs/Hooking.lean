/-
This file says what installing hooks does to a world. A single installation has three ends:
the overload is not declared, the host refuses to replace it, or a fresh tracer over the
declared body is put in force. Hooking by a target and sweeping a class are made of single
installations and of diagnostics, so whatever these two keep, with the hooks installed so far
taken into account, is kept by a whole sweep.
-/
import Intercept.Proofs.Registry
import Intercept.Plan.Application

namespace Intercept

/-! ### Single installations -/

namespace World

/-- The world after the tracer of a hook has been put over an overload. -/
def hooked (world : World) (monitor : Monitor) (overload : Overload) (path : String)
    (hook : Hook) : World :=
  { world with nextTracer := world.nextTracer + 1 }.setRegistry monitor.runtime
    ((world.registry monitor.runtime).putBody overload.reference
      (.traced ⟨world.nextTracer, monitor.emitter, path, hook, overload.declaredBody⟩))

/-- The three ends of an installation. A refused one still uses up an identity. -/
theorem installHook_cases (world : World) (monitor : Monitor) (reference : OverloadRef)
    (path : String) (hook : Hook) :
    ((world.registry monitor.runtime).overload? reference = none ∧
      world.installHook monitor reference path hook =
        (.error (.undeclaredOverload reference.key), world)) ∨
    (∃ overload,
      (world.registry monitor.runtime).overload? reference = some overload ∧
      world.host.sealedKeys.contains reference.key ∧
      world.installHook monitor reference path hook =
        (.error (.undeclaredOverload reference.key),
          { world with nextTracer := world.nextTracer + 1 })) ∨
    (∃ overload,
      (world.registry monitor.runtime).overload? reference = some overload ∧
      ¬ world.host.sealedKeys.contains reference.key ∧
      world.installHook monitor reference path hook =
        (.ok ⟨reference, path⟩, world.hooked monitor overload path hook)) := by
  cases found : (world.registry monitor.runtime).overload? reference with
  | none =>
    refine .inl ⟨rfl, ?_⟩
    simp only [installHook, Registry.declaredBody, found]
  | some overload =>
    have same : ({ world with nextTracer := world.nextTracer + 1 } : World).registry
        monitor.runtime = world.registry monitor.runtime := rfl
    refine .inr ?_
    by_cases refused : world.host.sealedKeys.contains reference.key
    · refine .inl ⟨overload, rfl, refused, ?_⟩
      simp only [installHook, Registry.declaredBody, found, replace, refused, if_true]
    · refine .inr ⟨overload, rfl, refused, ?_⟩
      simp only [installHook, Registry.declaredBody, found, replace, refused, if_false, same,
        Registry.replace, Option.isSome_some, if_true, hooked, Registry.reference_of_overload? found,
        Bool.false_eq_true]

variable {world : World} {monitor : Monitor} {reference : OverloadRef} {overload : Overload}
  {path : String} {hook : Hook}

theorem registry_hooked_self
    (found : (world.registry monitor.runtime).overload? reference = some overload) :
    (world.hooked monitor overload path hook).registry monitor.runtime =
      (world.registry monitor.runtime).putBody overload.reference
        (.traced ⟨world.nextTracer, monitor.emitter, path, hook, overload.declaredBody⟩) := by
  exact registry_setRegistry_self _ _ _ (present_of_overload? found)

theorem registry_hooked_other {runtime : RuntimeId} (different : runtime ≠ monitor.runtime) :
    (world.hooked monitor overload path hook).registry runtime = world.registry runtime := by
  rw [hooked, registry_setRegistry_other _ _ different]
  rfl

/-- After an installation, the hooked overload carries the fresh tracer, and all others are as
before. -/
theorem mem_hooked (distinct : (world.registry monitor.runtime).Distinct)
    (found : (world.registry monitor.runtime).overload? reference = some overload)
    {runtime : RuntimeId} {after : Overload}
    (member : after ∈ ((world.hooked monitor overload path hook).registry runtime).overloads) :
    after ∈ (world.registry runtime).overloads ∧
        (runtime = monitor.runtime → after.reference ≠ overload.reference) ∨
      runtime = monitor.runtime ∧ after = { overload with
        installed := some (.traced
          ⟨world.nextTracer, monitor.emitter, path, hook, overload.declaredBody⟩) } := by
  by_cases same : runtime = monitor.runtime
  · subst same
    rw [registry_hooked_self found] at member
    exact (distinct.mem_putBody found member).imp
      (fun untouched => ⟨untouched.1, fun _ => untouched.2⟩) (fun carries => ⟨rfl, carries⟩)
  · rw [registry_hooked_other same] at member
    exact .inl ⟨member, fun equal => absurd equal same⟩

theorem declarations_hooked
    (found : (world.registry monitor.runtime).overload? reference = some overload)
    (runtime : RuntimeId) :
    ((world.hooked monitor overload path hook).registry runtime).declarations =
      (world.registry runtime).declarations := by
  by_cases same : runtime = monitor.runtime
  · subst same
    rw [registry_hooked_self found, Registry.declarations_putBody]
  · rw [registry_hooked_other same]

end World

/-! ### Many installations -/

/-- That installing a hook through a monitor keeps a property of a world and of the hooks
installed so far. -/
structure KeptByHooking (monitor : Monitor) (hook : Hook)
    (property : List InstalledHook → World → Prop) : Prop where
  hooked : ∀ {installed world reference path overload},
    (world.registry monitor.runtime).overload? reference = some overload →
      property installed world →
        property (installed ++ [⟨reference, path⟩]) (world.hooked monitor overload path hook)
  refused : ∀ {installed world}, property installed world →
    property installed { world with nextTracer := world.nextTracer + 1 }
  diagnosed : ∀ {installed world failure}, property installed world →
    property installed (world.diagnose failure)

namespace KeptByHooking

variable {monitor : Monitor} {hook : Hook} {property : List InstalledHook → World → Prop}

theorem installHook (kept : KeptByHooking monitor hook property)
    (installed : List InstalledHook) {world : World} (reference : OverloadRef) (path : String)
    (holds : property installed world) :
    property (installed ++ (world.installHook monitor reference path hook).1.toOption.toList)
      (world.installHook monitor reference path hook).2 := by
  rcases world.installHook_cases monitor reference path hook with
    ⟨-, ends⟩ | ⟨overload, -, -, ends⟩ | ⟨overload, found, -, ends⟩ <;> rw [ends]
  · simpa only [Except.toOption, Option.toList_none, List.append_nil] using holds
  · simpa only [Except.toOption, Option.toList_none, List.append_nil] using kept.refused holds
  · exact kept.hooked found holds

theorem hookEach (kept : KeptByHooking monitor hook property) {path : String}
    (references : List OverloadRef) {installed : List InstalledHook} {world : World}
    (holds : property installed world) :
    property (installed ++ (world.hookEach monitor path hook references).1)
      (world.hookEach monitor path hook references).2 := by
  induction references generalizing installed world with
  | nil => simpa only [World.hookEach, List.append_nil] using holds
  | cons reference rest inductionHypothesis =>
    have next := kept.installHook installed reference path holds
    unfold World.hookEach
    rcases ends : world.installHook monitor reference path hook with ⟨answer | answer, after⟩ <;>
      rw [ends] at next
    · simp only [Except.toOption, Option.toList_none, List.append_nil] at next
      exact inductionHypothesis (kept.diagnosed next)
    · simp only [Except.toOption, Option.toList_some] at next
      simpa only [List.append_assoc, List.singleton_append] using inductionHypothesis next

theorem hookOverloads (kept : KeptByHooking monitor hook property) (container : ClassRef)
    (member path : String) {installed : List InstalledHook} {world : World}
    (holds : property installed world) :
    property (installed ++ (world.hookOverloads monitor container member path hook).1)
      (world.hookOverloads monitor container member path hook).2 :=
  kept.hookEach _ holds

theorem resolve (kept : KeptByHooking monitor hook property) (runtime : RuntimeId)
    (name : String) {installed : List InstalledHook} {world : World}
    (holds : property installed world) :
    property installed (world.resolve runtime name).2 := by
  unfold World.resolve
  split
  · exact kept.diagnosed holds
  · split
    · exact holds
    · exact kept.diagnosed holds

theorem hookTarget (kept : KeptByHooking monitor hook property) (name : String)
    (installed : List InstalledHook) {world : World} (holds : property installed world) :
    property (installed ++ (world.hookTarget monitor name hook).1)
      (world.hookTarget monitor name hook).2 := by
  unfold World.hookTarget
  split
  · simpa only [List.append_nil] using kept.diagnosed holds
  · next target _ =>
    have resolved := kept.resolve monitor.runtime target.container holds
    split
    · next after found =>
      rw [found] at resolved
      simpa only [List.append_nil] using resolved
    · next container after found =>
      rw [found] at resolved
      have swept := kept.hookOverloads container target.member name resolved
      dsimp only
      split
      · exact kept.diagnosed swept
      · exact swept

theorem sweep (kept : KeptByHooking monitor hook property) {container : ClassRef}
    (members : List String) {installed : List InstalledHook} {world : World}
    (holds : property installed world) :
    property (installed ++ (world.sweep monitor container hook members).1)
      (world.sweep monitor container hook members).2 := by
  induction members generalizing installed world with
  | nil => simpa only [World.sweep, List.append_nil] using holds
  | cons member rest inductionHypothesis =>
    have swept := inductionHypothesis
      (kept.hookOverloads container member (container.name ++ "." ++ member) holds)
    simpa only [World.sweep, List.append_assoc] using swept

end KeptByHooking

theorem World.sweepClass_kept {monitor : Monitor} {hook : Hook}
    {property : List InstalledHook → World → Prop}
    (kept : KeptByHooking monitor hook.withoutTransforms property) (name : String)
    (installed : List InstalledHook) {world : World} (holds : property installed world) :
    property (installed ++ (world.sweepClass monitor name hook).1)
      (world.sweepClass monitor name hook).2 := by
  have resolved := kept.resolve monitor.runtime name holds
  unfold World.sweepClass
  split
  · next after found =>
    rw [found] at resolved
    simpa only [List.append_nil] using resolved
  · next container after found =>
    rw [found] at resolved
    exact kept.sweep _ resolved

end Intercept
