/-
This file applies a plan to a session: methods first, then classes, then native symbols,
each in the order of the plan. An entry that fails is reported, and the next one is
applied all the same.
-/
import Intercept.Plan.Entry
import Intercept.Dispatch.Hooking

namespace Intercept.World

/-- Hooks the methods of a plan. -/
def applyMethods (world : World) (monitor : Monitor) :
    List Plan.MethodRule → List InstalledHook × World
  | [] => ([], world)
  | entry :: rest =>
    let (installed, world) := world.hookTarget monitor entry.target entry.hook
    let (others, world) := applyMethods world monitor rest
    (installed ++ others, world)

/-- Sweeps the classes of a plan. -/
def applySweeps (world : World) (monitor : Monitor) :
    List Plan.SweepRule → List InstalledHook × World
  | [] => ([], world)
  | entry :: rest =>
    let (installed, world) := world.sweepClass monitor entry.name entry.hook
    let (others, world) := applySweeps world monitor rest
    (installed ++ others, world)

/-- Probes the native symbols of a plan. -/
def applyNatives (world : World) (emitter : EmitterId) :
    List Plan.SymbolRule → List Boundary.AttachedProbe × World
  | [] => ([], world)
  | entry :: rest =>
    match entry.probe with
    | .error failure => applyNatives (world.diagnose failure) emitter rest
    | .ok probe =>
      let (attached, world) := world.probeSymbol emitter entry.modulePath entry.symbol probe
      let (others, world) := applyNatives world emitter rest
      (attached.toList ++ others, world)

/-- What a plan installed. -/
structure Instrumentation where
  hooks : List InstalledHook
  probes : List Boundary.AttachedProbe

/-- Applies a plan. -/
def instrument (world : World) (monitor : Monitor) (plan : Plan) : Instrumentation × World :=
  let (methodHooks, world) := world.applyMethods monitor plan.methods
  let (classHooks, world) := world.applySweeps monitor plan.classes
  let (probes, world) := world.applyNatives monitor.emitter plan.natives
  (⟨methodHooks ++ classHooks, probes⟩, world)

end Intercept.World
