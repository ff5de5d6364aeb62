/-
This file says that sweeping a class hooks all of it, once, and nothing else. Every overload is
listed as a member of its class, so going through the listed members misses none. A member that
is listed more than once is visited once, at its first place in the list, and overloads are told
apart by their references, so no overload is hooked twice. What is installed only traces; the
overloads of other classes, all declared bodies, the trace and the diagnostics stay as they are.
-/
import Intercept.Proofs.Installing

namespace Intercept

/-! ### First occurrences -/

namespace World

theorem mem_firstOccurrences {seen names : List String} {name : String} :
    name ∈ firstOccurrences seen names ↔ name ∈ names ∧ name ∉ seen := by
  induction names generalizing seen with
  | nil => simp only [firstOccurrences, List.not_mem_nil, false_and]
  | cons first rest inductionHypothesis =>
    rw [firstOccurrences]
    by_cases before : first ∈ seen
    · rw [if_pos (List.contains_iff_mem.mpr before), inductionHypothesis, List.mem_cons]
      refine and_congr_left fun fresh => (or_iff_right ?_).symm
      rintro rfl
      exact fresh before
    · rw [if_neg (mt List.contains_iff_mem.mp before), List.mem_cons, inductionHypothesis,
        List.mem_cons, List.mem_cons, not_or]
      constructor
      · rintro (rfl | ⟨later, -, fresh⟩)
        · exact ⟨.inl rfl, before⟩
        · exact ⟨.inr later, fresh⟩
      · rintro ⟨rfl | later, fresh⟩
        · exact .inl rfl
        · by_cases same : name = first
          · exact .inl same
          · exact .inr ⟨later, same, fresh⟩

/-- First occurrences stand in the order in which the names first occur. -/
theorem firstOccurrences_pairwise (seen names : List String) :
    (firstOccurrences seen names).Pairwise fun earlier later =>
      names.idxOf earlier < names.idxOf later := by
  induction names generalizing seen with
  | nil => exact .nil
  | cons first rest inductionHypothesis =>
    -- Behind the first name, what is not the first name moves up by one place.
    have moved {seen : List String} (isSeen : first ∈ seen) :
        (firstOccurrences seen rest).Pairwise fun earlier later =>
          (first :: rest).idxOf earlier < (first :: rest).idxOf later := by
      refine (inductionHypothesis seen).imp_of_mem fun {earlier later} isEarlier isLater before => ?_
      have different {name : String} (occurs : name ∈ firstOccurrences seen rest) :
          first ≠ name := fun same => (mem_firstOccurrences.mp occurs).2 (same ▸ isSeen)
      rw [List.idxOf_cons_ne _ (different isEarlier), List.idxOf_cons_ne _ (different isLater)]
      exact Nat.succ_lt_succ before
    rw [firstOccurrences]
    by_cases before : first ∈ seen
    · rw [if_pos (List.contains_iff_mem.mpr before)]
      exact moved before
    · rw [if_neg (mt List.contains_iff_mem.mp before)]
      refine List.pairwise_cons.mpr ⟨fun later isLater => ?_, moved List.mem_cons_self⟩
      have different : first ≠ later := fun same =>
        (mem_firstOccurrences.mp isLater).2 (same ▸ List.mem_cons_self)
      rw [List.idxOf_cons_self, List.idxOf_cons_ne _ different]
      exact Nat.succ_pos _

end World

/-! ### The overloads of a class -/

namespace Registry

/-- That one overload of a class comes before another one: its member was declared first, or
they are overloads of the same member and it was declared first itself. -/
def Precedes (registry : Registry) (container : ClassRef) (first second : OverloadRef) : Prop :=
  (registry.memberNames container).idxOf first.member <
      (registry.memberNames container).idxOf second.member ∨
    first.member = second.member ∧
      registry.references.idxOf first < registry.references.idxOf second

variable {registry : Registry} {container : ClassRef}

/-- In a coherent registry, the list of a class holds the members of all its overloads. -/
theorem Coherent.mem_memberNames (coherent : registry.Coherent)
    {reference : OverloadRef} (declared : reference ∈ registry.references)
    (resolves : registry.resolve? reference.container = some container) :
    reference.member ∈ registry.memberNames container := by
  obtain ⟨named, found⟩ := slotOf?_of_resolve? resolves
  obtain ⟨entry, isEntry, entryNamed, isAt⟩ := classAt?_of_slotOf? found
  obtain ⟨listing, isListing, listingNamed, listed⟩ := coherent.listed reference declared
  obtain rfl : entry = listing :=
    List.inj_on_of_nodup_map coherent.named isEntry isListing (entryNamed.trans listingNamed.symm)
  rw [← named] at isAt
  rw [memberNames, isAt]
  exact listed

theorem overloads_memberHooks (registry : Registry) (name member path : String) :
    (registry.memberHooks name member path).map InstalledHook.overload =
      registry.memberRefs name member := by
  rw [memberHooks, List.map_map]
  exact List.map_id _

/-- The references that a sweep goes through. -/
theorem overloads_sweepHooks (registry : Registry) (name : String) (members : List String) :
    (registry.sweepHooks name members).map InstalledHook.overload =
      members.flatMap (registry.memberRefs name) := by
  rw [sweepHooks, List.map_flatMap]
  exact List.flatMap_congr fun member _ => registry.overloads_memberHooks name member _

theorem path_of_mem_sweepHooks {name : String} {members : List String} {entry : InstalledHook}
    (isEntry : entry ∈ registry.sweepHooks name members) :
    entry.path = name ++ "." ++ entry.overload.member := by
  obtain ⟨member, -, isEntry⟩ := List.mem_flatMap.mp isEntry
  obtain ⟨reference, isReference, rfl⟩ := List.mem_map.mp isEntry
  rw [(mem_memberRefs.mp isReference).2.2]

/-- References are told apart, so they stand in the order of their places. -/
theorem Distinct.pairwise_idxOf (distinct : registry.Distinct) :
    registry.references.Pairwise fun earlier later =>
      registry.references.idxOf earlier < registry.references.idxOf later := by
  have distinct : registry.references.Nodup := distinct
  refine List.pairwise_iff_getElem.mpr fun first second isFirst isSecond before => ?_
  rwa [distinct.idxOf_getElem, distinct.idxOf_getElem]

/-- Members one after another, each with its overloads in order of declaration, give the order
of the class. -/
theorem precedes_sweep (distinct : registry.Distinct) (name : String) {members : List String}
    (ordered : members.Pairwise fun earlier later =>
      (registry.memberNames container).idxOf earlier <
        (registry.memberNames container).idxOf later) :
    (members.flatMap (registry.memberRefs name)).Pairwise (registry.Precedes container) := by
  refine List.pairwise_flatMap.mpr ⟨fun member _ => ?_, ordered.imp ?_⟩
  · have within : (registry.memberRefs name member).Pairwise fun earlier later =>
        registry.references.idxOf earlier < registry.references.idxOf later :=
      distinct.pairwise_idxOf.sublist List.filter_sublist
    refine within.imp_of_mem fun isEarlier isLater before => .inr ⟨?_, before⟩
    rw [(mem_memberRefs.mp isEarlier).2.2, (mem_memberRefs.mp isLater).2.2]
  · intro earlier later before first isFirst second isSecond
    rw [← (mem_memberRefs.mp isFirst).2.2, ← (mem_memberRefs.mp isSecond).2.2] at before
    exact .inl before

theorem Precedes.irrefl (registry : Registry) (container : ClassRef) (reference : OverloadRef) :
    ¬ registry.Precedes container reference reference := by
  rintro (before | ⟨-, before⟩) <;> exact Nat.lt_irrefl _ before

/-- The hooks of a class are on its overloads, and none is missed. -/
theorem Coherent.mem_classHooks (coherent : registry.Coherent)
    (resolves : registry.resolve? container.name = some container) (reference : OverloadRef) :
    reference ∈ (registry.classHooks container).map InstalledHook.overload ↔
      reference ∈ registry.references ∧ reference.container = container.name := by
  rw [classHooks, overloads_sweepHooks, List.mem_flatMap]
  constructor
  · rintro ⟨member, -, isReference⟩
    exact ⟨(mem_memberRefs.mp isReference).1, (mem_memberRefs.mp isReference).2.1⟩
  · rintro ⟨declared, named⟩
    have listed := coherent.mem_memberNames declared (named ▸ resolves)
    exact ⟨_, World.mem_firstOccurrences.mpr ⟨listed, List.not_mem_nil⟩,
      mem_memberRefs.mpr ⟨declared, named, rfl⟩⟩

theorem Coherent.classHooks_ordered (coherent : registry.Coherent) (container : ClassRef) :
    ((registry.classHooks container).map InstalledHook.overload).Pairwise
      (registry.Precedes container) := by
  rw [classHooks, overloads_sweepHooks]
  exact precedes_sweep coherent.distinct _ (World.firstOccurrences_pairwise [] _)

theorem Coherent.classHooks_nodup (coherent : registry.Coherent) (container : ClassRef) :
    ((registry.classHooks container).map InstalledHook.overload).Nodup := by
  refine (coherent.classHooks_ordered container).imp ?_
  rintro reference _ before rfl
  exact Precedes.irrefl registry container reference before

theorem path_of_mem_classHooks {entry : InstalledHook} {reference : OverloadRef}
    (isEntry : entry ∈ registry.classHooks container) (isOn : entry.overload = reference) :
    entry.path = container.name ++ "." ++ reference.member := by
  rw [path_of_mem_sweepHooks isEntry, isOn]

end Registry

/-! ### Sweeps -/

/-- What a sweep of a class does, up to the state after it and the hooks that it returns. -/
structure World.Swept (world : World) (monitor : Monitor) (container : ClassRef) (hook : Hook)
    (installed : List InstalledHook) (after : World) : Prop where
  /-- The overloads of the class are hooked, and no others. -/
  complete : ∀ reference, reference ∈ installed.map InstalledHook.overload ↔
    reference ∈ (world.registry monitor.runtime).references ∧
      reference.container = container.name
  once : (installed.map InstalledHook.overload).Nodup
  ordered : (installed.map InstalledHook.overload).Pairwise
    ((world.registry monitor.runtime).Precedes container)
  paths : ∀ entry ∈ installed, entry.path = container.name ++ "." ++ entry.overload.member
  /-- Calls of overloads of the class reach them under a fresh tracer that only traces. -/
  carries : ∀ (callee : Callee) (arguments : List Value) (overload : Overload),
    callee.find? (world.registry monitor.runtime) arguments = some overload →
      overload.reference.container = container.name →
        ∃ identity, world.nextTracer ≤ identity ∧
          callee.find? (after.registry monitor.runtime) arguments =
            some (overload.under ⟨container.name ++ "." ++ overload.reference.member,
              { backtrace := hook.backtrace }, monitor.emitter⟩ identity)
  /-- Calls of other overloads reach them as they were. -/
  others : ∀ (runtime : RuntimeId) (callee : Callee) (arguments : List Value)
    (overload : Overload),
    callee.find? (world.registry runtime) arguments = some overload →
      (runtime = monitor.runtime → overload.reference.container ≠ container.name) →
        callee.find? (after.registry runtime) arguments = some overload
  originals : ∀ runtime,
    (after.registry runtime).declarations = (world.registry runtime).declarations
  classes : ∀ runtime, (after.registry runtime).classes = (world.registry runtime).classes
  /-- Nothing is emitted, neither to the trace nor to the diagnostics. -/
  silent : after.sink = world.sink

/-- A sweep of a declared class hooks each of its overloads once, in the order in which the
member names and then the overloads were declared, for tracing only; and it changes nothing
else. -/
theorem sweep_hooks_each_once {world : World} (reachable : world.Reachable)
    (faithful : world.host.Faithful) {monitor : Monitor} {name : String} {container : ClassRef}
    (declared : (world.registry monitor.runtime).resolve? name = some container) (hook : Hook) :
    world.Swept monitor container hook (world.sweepClass monitor name hook).1
      (world.sweepClass monitor name hook).2 := by
  have sweeps := World.sweepClass_declared faithful monitor declared hook
  obtain ⟨rfl, -⟩ := Registry.slotOf?_of_resolve? declared
  have coherent := reachable.coherent monitor.runtime
  have complete := coherent.mem_classHooks declared
  have isDeclared := World.installations_declared hook.withoutTransforms fun _ isEntry =>
    ((complete _).mp (List.mem_map_of_mem isEntry)).1
  have rearmed := World.rearmed_installEach faithful isDeclared
  rw [sweeps]
  refine ⟨complete, coherent.classHooks_nodup container,
    coherent.classHooks_ordered container,
    fun _ isEntry => Registry.path_of_mem_classHooks isEntry rfl, ?_, ?_,
    rearmed.declarations, rearmed.classes, World.sink_installEach _ _⟩
  · intro callee arguments overload reaches named
    have covered := (complete overload.reference).mpr
      ⟨List.mem_map_of_mem (callee.mem_of_find? reaches), named⟩
    obtain ⟨identity, fresh, -, carries⟩ := rearmed.find?_armed coherent.distinct reaches
      ((lastInstrument_installations (fun _ => Registry.path_of_mem_classHooks) _).trans
        (if_pos ⟨rfl, covered⟩))
    exact ⟨identity, fresh, carries⟩
  · intro runtime callee arguments overload reaches other
    exact rearmed.find?_kept (reachable.coherent runtime).distinct reaches
      ((lastInstrument_installations (fun _ => Registry.path_of_mem_classHooks) _).trans
        (if_neg fun covered => other covered.1 ((complete overload.reference).mp covered.2).2))

/-- Two classes, one of which lists a member without overloads, a member with two of them, and
one of these members once more. -/
def deskRegistry : Registry :=
  let body : Body := fun _ _ => .pure .null
  let closed := ({} : Registry).declareMember "Desk" "close"
  let greeted := (closed.declareMethod "Desk" "greet" ["Str"] body).2
  let called := (greeted.declareMethod "Desk" "call" [] body).2
  let other := (called.declareMethod "Bell" "ring" [] body).2
  ((other.declareMethod "Desk" "greet" [] body).2).declareMember "Desk" "greet"

/-- The process with these classes. -/
def deskWorld : World :=
  { registries := [deskRegistry] }

theorem deskWorld_reachable : deskWorld.Reachable := by
  let start : World := (State.initial {} 1).world
  have declares {world : World} {registry : Registry} (becomes : start.Becomes world)
      (extend : (world.registry 0).Extends registry) :
      start.Becomes (world.setRegistry 0 registry) :=
    becomes.tail (.declared extend)
  have closed := declares .refl (.declareMember "Desk" "close")
  have greeted := declares closed (.declareMethod "Desk" "greet" ["Str"] fun _ _ => .pure .null)
  have called := declares greeted (.declareMethod "Desk" "call" [] fun _ _ => .pure .null)
  have other := declares called (.declareMethod "Bell" "ring" [] fun _ _ => .pure .null)
  have again := declares other (.declareMethod "Desk" "greet" [] fun _ _ => .pure .null)
  exact ⟨{}, 1, declares again (.declareMember "Desk" "greet")⟩

/-- A sweep of the class with the mixed declarations. -/
theorem sweep_hooks_each_once_desk :
    ∃ container, deskWorld.Reachable ∧ deskWorld.host.Faithful ∧
      (deskWorld.registry 0).resolve? "Desk" = some container ∧
      (deskWorld.sweepClass ⟨0, 0⟩ "Desk" { backtrace := true }).1 =
        [⟨⟨"Desk", "greet", ⟨["Str"]⟩⟩, "Desk.greet"⟩, ⟨⟨"Desk", "greet", ⟨[]⟩⟩, "Desk.greet"⟩,
          ⟨⟨"Desk", "call", ⟨[]⟩⟩, "Desk.call"⟩] ∧
      deskWorld.Swept ⟨0, 0⟩ container { backtrace := true }
        (deskWorld.sweepClass ⟨0, 0⟩ "Desk" { backtrace := true }).1
        (deskWorld.sweepClass ⟨0, 0⟩ "Desk" { backtrace := true }).2 :=
  have faithful : deskWorld.host.Faithful := ⟨rfl, rfl, rfl⟩
  ⟨_, deskWorld_reachable, faithful, rfl, rfl,
    sweep_hooks_each_once deskWorld_reachable faithful rfl _⟩

end Intercept
