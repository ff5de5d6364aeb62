/-
This file says how hooking a target ends. Its name may have no two parts, the class of the first
part may not be declared, or the class may not list the member: then one diagnostic says so, nothing
is hooked, and nothing else changes. Otherwise every overload of the member gets a hook and nothing
is reported. Whether the member is listed is looked up only if no hook was installed; this suffices,
since a class lists the members of all its overloads.
-/
import Intercept.Proofs.Overriding

namespace Intercept

/-! ### Names in two parts -/

namespace Text

variable {separator : Char} {text before after : List Char}

theorem splitLast?_eq_none_iff : splitLast? separator text = none ↔ separator ∉ text := by
  induction text with
  | nil => exact iff_of_true rfl List.not_mem_nil
  | cons head tail inductionHypothesis =>
    rw [splitLast?, List.mem_cons, not_or, ← inductionHypothesis]
    cases splitLast? separator tail with
    | some parts =>
      exact iff_of_false (Option.some_ne_none _) fun absent => Option.some_ne_none _ absent.2
    | none => simp [eq_comm]

theorem splitLast?_append (before : List Char) (absent : separator ∉ after) :
    splitLast? separator (before ++ separator :: after) = some (before, after) := by
  induction before with
  | nil =>
    rw [List.nil_append, splitLast?, splitLast?_eq_none_iff.mpr absent]
    exact if_pos rfl
  | cons head tail inductionHypothesis =>
    rw [List.cons_append, splitLast?, inductionHypothesis]

/-- No separator follows the last one. -/
theorem not_mem_of_splitLast? (split : splitLast? separator text = some (before, after)) :
    separator ∉ after := by
  induction text generalizing before with
  | nil => cases split
  | cons head tail inductionHypothesis =>
    rw [splitLast?] at split
    cases inner : splitLast? separator tail with
    | some parts =>
      rw [inner] at split
      cases split
      exact inductionHypothesis inner
    | none =>
      rw [inner] at split
      obtain ⟨-, same⟩ := Option.ite_none_right_eq_some.mp split
      cases same
      exact splitLast?_eq_none_iff.mp inner

end Text

namespace Target

/-- That a name consists of a container, its last dot and a member, of which no part is empty. -/
structure Splits (name container member : String) : Prop where
  joined : name = container ++ "." ++ member
  named : container ≠ ""
  nonempty : member ≠ ""
  last : '.' ∉ member.toList

theorem parse_of_splits {name container member : String} (splits : Splits name container member) :
    parse name = .ok ⟨container, member⟩ := by
  have parts : name.toList = container.toList ++ '.' :: member.toList := by
    rw [splits.joined]
    simp
  have nonempty : ¬ (container.toList.isEmpty ∨ member.toList.isEmpty) := by
    simp [splits.named, splits.nonempty]
  rw [parse, parts, Text.splitLast?_append _ splits.last]
  dsimp only
  rw [if_neg nonempty, String.ofList_toList, String.ofList_toList]

theorem splits_of_parse {name : String} {target : Target} (parses : parse name = .ok target) :
    Splits name target.container target.member := by
  have joined := (dottedName_of_parse parses).symm
  unfold parse at parses
  split at parses
  · next container member split =>
    split at parses
    · cases parses
    · next nonempty =>
      cases parses
      simp only [not_or, List.isEmpty_iff] at nonempty
      refine ⟨joined, ?_, ?_, ?_⟩
      · simpa using nonempty.1
      · simpa using nonempty.2
      · rw [String.toList_ofList]
        exact Text.not_mem_of_splitLast? split
  · cases parses

theorem parse_of_not_splits {name : String}
    (whole : ∀ container member, ¬ Splits name container member) :
    parse name = .error (.malformedTarget name) := by
  cases parses : parse name with
  | ok target => exact absurd (splits_of_parse parses) (whole _ _)
  | error failure =>
    unfold parse at parses
    split at parses
    · split at parses
      · exact parses.symm
      · cases parses
    · exact parses.symm

/-- A name splits in one way only. -/
theorem Splits.unique {name container member containerOther memberOther : String}
    (splits : Splits name container member)
    (splitsOther : Splits name containerOther memberOther) :
    container = containerOther ∧ member = memberOther := by
  have same := (parse_of_splits splits).symm.trans (parse_of_splits splitsOther)
  exact Target.mk.inj (Except.ok.inj same)

end Target

theorem Registry.Lists.mem_classNames {registry : Registry} {container member : String}
    (listed : registry.Lists container member) : container ∈ registry.classNames := by
  obtain ⟨entry, isEntry, named, -⟩ := listed
  exact List.mem_map.mpr ⟨entry, isEntry, named⟩

/-! ### Endings -/

/-- The ways in which hooking a target can end. -/
inductive TargetEnding where
  | malformed
  | unknownClass (container : String)
  | unknownMember (container member : String)
  | hooked (container member : String)

/-- The condition of an ending: what the name says and what is declared. -/
def TargetEnding.Due (ending : TargetEnding) (registry : Registry) (name : String) : Prop :=
  match ending with
  | .malformed => ∀ container member, ¬ Target.Splits name container member
  | .unknownClass container =>
    (∃ member, Target.Splits name container member) ∧ container ∉ registry.classNames
  | .unknownMember container member =>
    Target.Splits name container member ∧ container ∈ registry.classNames ∧
      ¬ registry.Lists container member
  | .hooked container member =>
    Target.Splits name container member ∧ registry.Lists container member

/-- What hooking a declared member does, up to the hooks that it returns and the state after it. -/
structure World.HooksMember (world : World) (monitor : Monitor) (container member name : String)
    (hook : Hook) (installed : List InstalledHook) (after : World) : Prop where
  /-- Each overload of the member gets one hook under the name, in order of declaration. -/
  each : installed = ((world.registry monitor.runtime).memberRefs container member).map fun
    reference => ⟨reference, name⟩
  /-- Calls of overloads of the member reach them under a fresh tracer with the hook. -/
  carries : ∀ (callee : Callee) (arguments : List Value) (overload : Overload),
    callee.find? (world.registry monitor.runtime) arguments = some overload →
      overload.reference.container = container ∧ overload.reference.member = member →
        ∃ identity, world.nextTracer ≤ identity ∧
          callee.find? (after.registry monitor.runtime) arguments =
            some (overload.under ⟨name, hook, monitor.emitter⟩ identity)
  /-- Calls of other overloads reach them as they were. -/
  others : ∀ (runtime : RuntimeId) (callee : Callee) (arguments : List Value)
    (overload : Overload),
    callee.find? (world.registry runtime) arguments = some overload →
      ¬ (runtime = monitor.runtime ∧ overload.reference.container = container ∧
        overload.reference.member = member) →
        callee.find? (after.registry runtime) arguments = some overload
  originals : ∀ runtime,
    (after.registry runtime).declarations = (world.registry runtime).declarations
  classes : ∀ runtime, (after.registry runtime).classes = (world.registry runtime).classes
  /-- Nothing is emitted, neither to the trace nor to the diagnostics. -/
  silent : after.sink = world.sink

/-- What hooking a target returns and leaves in an ending: no hook and one diagnostic more, or the
hooks of a member. -/
def World.EndsAs (world : World) (monitor : Monitor) (name : String) (hook : Hook)
    (result : List InstalledHook × World) (ending : TargetEnding) : Prop :=
  match ending with
  | .malformed => result = ([], world.diagnose (.malformedTarget name))
  | .unknownClass container => result = ([], world.diagnose (.unknownClass container))
  | .unknownMember container member =>
    result = ([], world.diagnose (.unknownMember container member))
  | .hooked container member =>
    world.HooksMember monitor container member name hook result.1 result.2

namespace TargetEnding

/-- The ending that is due. -/
def of (registry : Registry) (name : String) : TargetEnding :=
  match Target.parse name with
  | .error _ => .malformed
  | .ok target =>
    if target.container ∈ registry.classNames then
      if ∃ entry ∈ registry.classes, entry.name = target.container ∧
          target.member ∈ entry.members then .hooked target.container target.member
      else .unknownMember target.container target.member
    else .unknownClass target.container

variable {registry : Registry} {name : String}

theorem due_of (registry : Registry) (name : String) : (of registry name).Due registry name := by
  rw [of]
  cases parses : Target.parse name with
  | error failure =>
    exact fun container member splits =>
      nomatch parses.symm.trans (Target.parse_of_splits splits)
  | ok target =>
    have splits := Target.splits_of_parse parses
    dsimp only
    split_ifs with declared listed
    · exact ⟨splits, listed⟩
    · exact ⟨splits, declared, listed⟩
    · exact ⟨⟨_, splits⟩, declared⟩

theorem Due.eq_of {ending : TargetEnding} (due : ending.Due registry name) :
    ending = of registry name := by
  rw [of]
  cases ending with
  | malformed => rw [Target.parse_of_not_splits due]
  | unknownClass container =>
    obtain ⟨⟨member, splits⟩, undeclared⟩ := due
    rw [Target.parse_of_splits splits]
    exact (if_neg undeclared).symm
  | unknownMember container member =>
    obtain ⟨splits, declared, unlisted⟩ := due
    rw [Target.parse_of_splits splits]
    exact ((if_pos declared).trans (if_neg unlisted)).symm
  | hooked container member =>
    obtain ⟨splits, listed⟩ := due
    rw [Target.parse_of_splits splits]
    exact ((if_pos listed.mem_classNames).trans (if_pos listed)).symm

end TargetEnding

/-! ### Hooking a target -/

/-- In a coherent registry, a class lists what the list at its slot holds. -/
theorem Registry.Coherent.lists_iff {registry : Registry} (coherent : registry.Coherent)
    {container : String} {slot : Nat} (found : registry.slotOf? container = some slot)
    {member : String} :
    registry.Lists container member ↔ member ∈ registry.memberNames ⟨container, slot⟩ := by
  obtain ⟨entry, isEntry, named, isAt⟩ := classAt?_of_slotOf? found
  rw [memberNames, isAt]
  constructor
  · rintro ⟨listing, isListing, listingNamed, listed⟩
    obtain rfl : entry = listing :=
      List.inj_on_of_nodup_map coherent.named isEntry isListing (named.trans listingNamed.symm)
    exact listed
  · exact fun listed => ⟨entry, isEntry, named, listed⟩

theorem Registry.Coherent.memberRefs_eq_nil {registry : Registry} (coherent : registry.Coherent)
    {container member : String} (unlisted : ¬ registry.Lists container member) :
    registry.memberRefs container member = [] := by
  refine List.eq_nil_iff_forall_not_mem.mpr fun reference isMember => unlisted ?_
  obtain ⟨declared, rfl, rfl⟩ := mem_memberRefs.mp isMember
  exact coherent.listed reference declared

namespace World

variable {world : World} {monitor : Monitor} {name : String}

/-- Hooking a declared member installs one hook after another on its overloads. -/
theorem hooksMember (reachable : world.Reachable) (faithful : world.host.Faithful)
    (monitor : Monitor) (container member name : String) (hook : Hook) :
    world.HooksMember monitor container member name hook
      ((world.registry monitor.runtime).memberHooks container member name)
      (world.installEach (installations monitor hook
        ((world.registry monitor.runtime).memberHooks container member name))) := by
  have covered (callee : Callee) {arguments : List Value} {overload : Overload}
      (reaches : callee.find? (world.registry monitor.runtime) arguments = some overload) :
      overload.reference ∈ ((world.registry monitor.runtime).memberHooks container member
          name).map InstalledHook.overload ↔
        overload.reference.container = container ∧ overload.reference.member = member := by
    rw [Registry.overloads_memberHooks, Registry.mem_memberRefs]
    exact and_iff_right (List.mem_map_of_mem (callee.mem_of_find? reaches))
  have named (reference : OverloadRef) :
      ∀ entry ∈ (world.registry monitor.runtime).memberHooks container member name,
        entry.overload = reference → entry.path = name := by
    intro entry isEntry _
    obtain ⟨_, -, rfl⟩ := List.mem_map.mp isEntry
    rfl
  have declared := memberHooks_declared (world.registry monitor.runtime) container member name
  have rearmed := rearmed_installEach faithful (installations_declared hook declared)
  refine ⟨rfl, ?_, ?_, rearmed.declarations, rearmed.classes, sink_installEach _ _⟩
  · intro callee arguments overload reaches same
    obtain ⟨identity, fresh, -, carries⟩ := rearmed.find?_armed
      (reachable.coherent monitor.runtime).distinct reaches
      ((lastInstrument_installations (named _) _).trans
        (if_pos ⟨rfl, (covered callee reaches).mpr same⟩))
    exact ⟨identity, fresh, carries⟩
  · intro runtime callee arguments overload reaches other
    refine rearmed.find?_kept (reachable.coherent runtime).distinct reaches
      ((lastInstrument_installations (named _) _).trans (if_neg ?_))
    rintro ⟨rfl, isCovered⟩
    exact other ⟨rfl, (covered callee reaches).mp isCovered⟩

theorem SameDeclared.lists_iff {after : World} (same : world.SameDeclared after)
    (runtime : RuntimeId) {container member : String} :
    (after.registry runtime).Lists container member ↔
      (world.registry runtime).Lists container member := by
  rw [Registry.Lists, same.classes, Registry.Lists]

/-- The members that can be seen of a class are those that it lists. -/
theorem visibleMembers_contains (faithful : world.host.Faithful) {runtime : RuntimeId}
    (coherent : (world.registry runtime).Coherent) {container : String} {slot : Nat}
    (found : (world.registry runtime).slotOf? container = some slot) {member : String} :
    (world.visibleMembers runtime ⟨container, slot⟩).contains member ↔
      (world.registry runtime).Lists container member := by
  rw [visibleMembers_eq faithful, List.contains_iff_mem, mem_firstOccurrences,
    coherent.lists_iff found]
  exact and_iff_left List.not_mem_nil

theorem hookTarget_ends (reachable : world.Reachable) (faithful : world.host.Faithful)
    {ending : TargetEnding} (due : ending.Due (world.registry monitor.runtime) name)
    (hook : Hook) :
    world.EndsAs monitor name hook (world.hookTarget monitor name hook) ending := by
  have coherent := reachable.coherent monitor.runtime
  rw [hookTarget]
  cases ending with
  | malformed =>
    rw [Target.parse_of_not_splits due]
    rfl
  | unknownClass container =>
    obtain ⟨⟨member, splits⟩, undeclared⟩ := due
    have missing := Option.not_isSome_iff_eq_none.mp (mt Registry.slotOf?_isSome_iff.mp undeclared)
    rw [Target.parse_of_splits splits]
    dsimp only
    rw [resolve_undeclared faithful.managed monitor.runtime missing]
    rfl
  | unknownMember container member =>
    obtain ⟨splits, declared, unlisted⟩ := due
    obtain ⟨slot, found⟩ := Option.isSome_iff_exists.mp (Registry.slotOf?_isSome_iff.mpr declared)
    rw [Target.parse_of_splits splits]
    dsimp only
    rw [resolve_declared faithful.managed monitor.runtime found]
    dsimp only
    rw [hookOverloads_declared faithful monitor found, Registry.memberHooks,
      coherent.memberRefs_eq_nil unlisted]
    exact if_pos ⟨rfl, mt (visibleMembers_contains faithful coherent found).mp unlisted⟩
  | hooked container member =>
    obtain ⟨splits, listed⟩ := due
    obtain ⟨slot, found⟩ :=
      Option.isSome_iff_exists.mp (Registry.slotOf?_isSome_iff.mpr listed.mem_classNames)
    rw [Target.parse_of_splits splits]
    dsimp only
    rw [resolve_declared faithful.managed monitor.runtime found]
    dsimp only
    rw [hookOverloads_declared faithful monitor found]
    dsimp only
    have rearmed := rearmed_installEach faithful (installations_declared hook
      (memberHooks_declared (world.registry monitor.runtime) container member name))
    have visible := (visibleMembers_contains (rearmed.host ▸ faithful)
      (rearmed.toSameDeclared.coherent coherent) ((rearmed.slotOf? _ _).trans found)).mpr
        ((rearmed.toSameDeclared.lists_iff monitor.runtime).mpr listed)
    rw [if_neg fun reported => reported.2 visible]
    exact hooksMember reachable faithful monitor container member name hook

/-- Without a runtime, either the name is refused or the runtime is missed. -/
theorem hookTarget_unmanaged (unmanaged : world.host.managed = false) (monitor : Monitor)
    (name : String) (hook : Hook) :
    world.hookTarget monitor name hook =
      ([], world.diagnose (match Target.parse name with
        | .error failure => failure
        | .ok _ => .missingCapability "managed runtime")) := by
  rw [hookTarget]
  cases Target.parse name with
  | error failure => rfl
  | ok target =>
    dsimp only
    rw [resolve, if_pos (by simp [unmanaged])]

end World

/-- Hooking a target ends in exactly one of four ways, as its name and what is declared demand. A
name without two parts, a class that is not declared and a member that is not listed are reported,
by one diagnostic, and nothing else changes. The overloads of a declared member get one hook each,
in order of declaration, and nothing is reported, not even if there are none. Without a runtime, one
diagnostic says what is missing, the second part of the name or the runtime. -/
theorem hooking_a_target_ends_in_one_way (world : World) (monitor : Monitor) (name : String)
    (hook : Hook) :
    (world.Reachable → world.host.Faithful →
      ∃! ending : TargetEnding, ending.Due (world.registry monitor.runtime) name ∧
        world.EndsAs monitor name hook (world.hookTarget monitor name hook) ending) ∧
    (world.host.managed = false →
      ((∀ container member, ¬ Target.Splits name container member) →
        world.hookTarget monitor name hook = ([], world.diagnose (.malformedTarget name))) ∧
      ∀ container member, Target.Splits name container member →
        world.hookTarget monitor name hook =
          ([], world.diagnose (.missingCapability "managed runtime"))) := by
  constructor
  · intro reachable faithful
    have due := TargetEnding.due_of (world.registry monitor.runtime) name
    exact ⟨_, ⟨due, World.hookTarget_ends reachable faithful due hook⟩,
      fun other ends => ends.1.eq_of⟩
  · intro unmanaged
    rw [World.hookTarget_unmanaged unmanaged]
    constructor
    · intro whole
      rw [Target.parse_of_not_splits whole]
    · intro container member splits
      rw [Target.parse_of_splits splits]

/-- A member with two overloads, one without any, and a process without a runtime. -/
theorem hooking_a_target_ends_in_one_way_desk :
    let unmanaged : World := { host := { managed := false } }
    (deskWorld.Reachable ∧ deskWorld.host.Faithful ∧
      (deskWorld.hookTarget ⟨0, 0⟩ "Desk.greet" {}).1 =
        [⟨⟨"Desk", "greet", ⟨["Str"]⟩⟩, "Desk.greet"⟩, ⟨⟨"Desk", "greet", ⟨[]⟩⟩, "Desk.greet"⟩] ∧
      ∀ name ∈ ["Desk.greet", "Desk.close", "Desk.open", "Door.open", "Desk."],
        ∃! ending : TargetEnding, ending.Due (deskWorld.registry 0) name ∧
          deskWorld.EndsAs ⟨0, 0⟩ name {} (deskWorld.hookTarget ⟨0, 0⟩ name {}) ending) ∧
    unmanaged.host.managed = false ∧ Target.Splits "Desk.greet" "Desk" "greet" ∧
      unmanaged.hookTarget ⟨0, 0⟩ "Desk.greet" {} =
        ([], unmanaged.diagnose (.missingCapability "managed runtime")) := by
  have faithful : deskWorld.host.Faithful := ⟨rfl, rfl, rfl⟩
  have splits : Target.Splits "Desk.greet" "Desk" "greet" :=
    ⟨rfl, by decide, by decide, by decide⟩
  exact ⟨⟨deskWorld_reachable, faithful, rfl, fun name _ =>
      (hooking_a_target_ends_in_one_way deskWorld ⟨0, 0⟩ name {}).1 deskWorld_reachable faithful⟩,
    rfl, splits, ((hooking_a_target_ends_in_one_way _ ⟨0, 0⟩ "Desk.greet" {}).2 rfl).2 _ _ splits⟩

end Intercept
