/-
This file says that sweeping a class is hooking its members by their names, one after another, for
tracing only. The sweep resolves the class once and puts the name of each member behind that of the
class. Hooking by a name takes these parts from the name again, which splits at its last dot, so the
class may have dots in its name and the members may not; and each time it resolves the class anew
and asks whether the member is listed, in a process in which others have been hooked by then. Hooks
change neither, so what is installed, what is reported and what is left is the same.
-/
import Intercept.Proofs.Effects
import Intercept.Proofs.Targeting

namespace Intercept

namespace World

/-- Hooks every overload of some targets, one target after another. -/
def hookTargets (world : World) (monitor : Monitor) (hook : Hook) :
    List String → List InstalledHook × World
  | [] => ([], world)
  | name :: rest =>
    let (installed, world) := world.hookTarget monitor name hook
    let (others, world) := hookTargets world monitor hook rest
    (installed ++ others, world)

variable {world start : World} {monitor : Monitor} {name : String} {container : ClassRef}

/-- Hooking overloads does not change the setting. -/
theorem SameSetting.hookOverloads (setting : start.SameSetting world) (monitor : Monitor)
    (container : ClassRef) (member path : String) (hook : Hook) :
    start.SameSetting (world.hookOverloads monitor container member path hook).2 :=
  @KeptByHooking.hookOverloads _ _ _ (byHooking start monitor hook) container member path [] _
    setting

/-- Hooking a target whose member can be seen is hooking the overloads of the member: a member
without any is not reported. -/
theorem hookTarget_eq_hookOverloads (managed : world.host.managed = true)
    (resolves : (world.registry monitor.runtime).resolve? name = some container)
    {member path : String} (splits : Target.Splits path name member)
    (visible : member ∈ world.visibleMembers monitor.runtime container) (hook : Hook) :
    world.hookTarget monitor path hook =
      world.hookOverloads monitor container member path hook := by
  obtain ⟨rfl, found⟩ := Registry.slotOf?_of_resolve? resolves
  have setting := (SameSetting.refl world).hookOverloads monitor container member path hook
  have listed : ((world.hookOverloads monitor container member path hook).2.visibleMembers
      monitor.runtime container).contains member := by
    rw [setting.visibleMembers]
    exact List.contains_iff_mem.mpr visible
  rw [hookTarget, Target.parse_of_splits splits]
  dsimp only
  rw [resolve_declared managed monitor.runtime found]
  exact if_neg fun unknown => unknown.2 listed

/-- A sweep of members that can be seen hooks the targets with their names. The class is the same at
every member, since hooks leave the setting. -/
theorem sweep_eq_hookTargets (managed : start.host.managed = true)
    (resolves : (start.registry monitor.runtime).resolve? name = some container)
    (setting : start.SameSetting world) {members : List String}
    (splits : ∀ member ∈ members, Target.Splits (name ++ "." ++ member) name member)
    (visible : ∀ member ∈ members, member ∈ start.visibleMembers monitor.runtime container)
    (hook : Hook) :
    world.sweep monitor container hook members =
      world.hookTargets monitor hook (members.map fun member => name ++ "." ++ member) := by
  have sameName : container.name = name := (Registry.slotOf?_of_resolve? resolves).1
  induction members generalizing world with
  | nil => rfl
  | cons member rest inductionHypothesis =>
    have single := hookTarget_eq_hookOverloads (setting.host ▸ managed)
      ((setting.resolve? _ _).trans resolves) (splits member List.mem_cons_self)
      (setting.visibleMembers _ _ ▸ visible member List.mem_cons_self) hook
    have others := inductionHypothesis
      (setting.hookOverloads monitor container member (name ++ "." ++ member) hook)
      (fun other isOther => splits other (List.mem_cons_of_mem member isOther))
      (fun other isOther => visible other (List.mem_cons_of_mem member isOther))
    rw [sweep, List.map_cons, hookTargets, sameName, single]
    dsimp only
    rw [others]

end World

/-- Sweeping a class is hooking each of its members once by its name, in the order in which they
are first listed, for tracing only. -/
theorem sweep_is_hooking_members (world : World) (monitor : Monitor) {name : String}
    {container : ClassRef} (managed : world.host.managed = true) (named : name ≠ "")
    (resolves : (world.registry monitor.runtime).resolve? name = some container)
    (plain : ∀ member ∈ world.reportedMembers monitor.runtime container,
      member ≠ "" ∧ '.' ∉ member.toList) (hook : Hook) :
    world.sweepClass monitor name hook =
      world.hookTargets monitor hook.withoutTransforms
        ((World.firstOccurrences [] (world.reportedMembers monitor.runtime container)).map
          fun member => name ++ "." ++ member) := by
  have visible : world.visibleMembers monitor.runtime container =
      World.firstOccurrences [] (world.reportedMembers monitor.runtime container) :=
    if_pos managed
  obtain ⟨rfl, found⟩ := Registry.slotOf?_of_resolve? resolves
  rw [World.sweepClass, World.resolve_declared managed monitor.runtime found, ← visible]
  refine World.sweep_eq_hookTargets managed resolves (.refl world) (fun member isMember => ?_)
    (fun member isMember => isMember) hook.withoutTransforms
  rw [visible] at isMember
  obtain ⟨nonempty, undotted⟩ := plain member (World.mem_firstOccurrences.mp isMember).1
  exact ⟨rfl, named, nonempty, undotted⟩

/-- A class with a dot in its name lists a member with two overloads twice, and between them one
without a body. -/
theorem sweep_is_hooking_members_greeter :
    ∃ world : World, world.Reachable ∧
      world.reportedMembers 0 ⟨"pkg.Greeter", 0⟩ = ["greet", "wave", "greet"] ∧
      world.sweepClass ⟨0, 0⟩ "pkg.Greeter" { backtrace := true, transformResult := some .pure } =
        world.hookTargets ⟨0, 0⟩ { backtrace := true }
          ["pkg.Greeter.greet", "pkg.Greeter.wave"] ∧
      (world.sweepClass ⟨0, 0⟩ "pkg.Greeter"
          { backtrace := true, transformResult := some .pure }).1 =
        [⟨⟨"pkg.Greeter", "greet", ⟨["String"]⟩⟩, "pkg.Greeter.greet"⟩,
          ⟨⟨"pkg.Greeter", "greet", ⟨[]⟩⟩, "pkg.Greeter.greet"⟩] := by
  let waving : World :=
    greeterWorld.setRegistry 0 ((greeterWorld.registry 0).declareMember "pkg.Greeter" "wave")
  let world : World :=
    waving.setRegistry 0
      ((waving.registry 0).declareMethod "pkg.Greeter" "greet" [] fun _ _ => .pure .null).2
  obtain ⟨host, runtimes, becomes⟩ := greeterWorld_reachable
  have reachable : world.Reachable :=
    ⟨host, runtimes,
      (becomes.tail (.declared (.declareMember _ _))).tail (.declared (.declareMethod _ _ _ _))⟩
  have reports : world.reportedMembers 0 ⟨"pkg.Greeter", 0⟩ = ["greet", "wave", "greet"] := rfl
  have resolves : (world.registry 0).resolve? "pkg.Greeter" = some ⟨"pkg.Greeter", 0⟩ := rfl
  have named : "pkg.Greeter" ≠ "" := by decide
  have plain : ∀ member ∈ world.reportedMembers 0 ⟨"pkg.Greeter", 0⟩,
      member ≠ "" ∧ '.' ∉ member.toList := by
    rw [reports]
    decide
  have sweeps := sweep_is_hooking_members world ⟨0, 0⟩ rfl named resolves plain
    { backtrace := true, transformResult := some .pure }
  have names : ((World.firstOccurrences [] ["greet", "wave", "greet"]).map fun member =>
      "pkg.Greeter" ++ "." ++ member) = ["pkg.Greeter.greet", "pkg.Greeter.wave"] := by decide
  rw [reports, names] at sweeps
  exact ⟨world, reachable, reports, sweeps, rfl⟩

end Intercept
