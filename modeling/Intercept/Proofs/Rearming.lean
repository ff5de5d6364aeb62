/-
This file compares worlds in which the same is declared and that differ in what has been put
over overloads. In the later world, every overload either is as it was, or carries a fresh tracer
over its declared body, with the instrument that was put over it last; what this instrument is
can be put together from the parts of what happened. Calls reach the same overloads in both
worlds.
-/
import Intercept.Proofs.LastInstallation
import Intercept.Proofs.Reachability

namespace Intercept

/-! ### What is declared -/

namespace Registry

/-- The references of all overloads, in order of declaration. -/
def references (registry : Registry) : List OverloadRef :=
  registry.overloads.map Overload.reference

/-- The references of a member's overloads, in order of declaration. -/
def memberRefs (registry : Registry) (container member : String) : List OverloadRef :=
  registry.references.filter fun reference =>
    reference.container = container ∧ reference.member = member

theorem memberRefs_eq (registry : Registry) (container member : String) :
    registry.memberRefs container member =
      (registry.memberOverloads container member).map Overload.reference :=
  List.filter_map

theorem mem_memberRefs {registry : Registry} {container member : String}
    {reference : OverloadRef} :
    reference ∈ registry.memberRefs container member ↔
      reference ∈ registry.references ∧ reference.container = container ∧
        reference.member = member := by
  rw [memberRefs, List.mem_filter, decide_eq_true_eq]

theorem mem_references {registry : Registry} {reference : OverloadRef} {overload : Overload}
    (found : registry.overload? reference = some overload) : reference ∈ registry.references :=
  reference_of_overload? found ▸ List.mem_map_of_mem (mem_of_overload? found)

theorem exists_overload? {registry : Registry} {reference : OverloadRef}
    (declared : reference ∈ registry.references) :
    ∃ overload, registry.overload? reference = some overload := by
  refine Option.ne_none_iff_exists'.mp fun missing => ?_
  exact overload?_eq_none_iff.mp missing declared

/-- The registry in which something else, or nothing, is installed over an overload. -/
def setInstalled (registry : Registry) (reference : OverloadRef)
    (installed : Option BodyInForce) : Registry :=
  { registry with
    overloads := registry.overloads.map fun overload =>
      if overload.reference = reference then { overload with installed } else overload }

/-- What is installed does not count where an overload is looked up. -/
theorem overload?_setInstalled (registry : Registry) (reference asked : OverloadRef)
    (installed : Option BodyInForce) :
    (registry.setInstalled reference installed).overload? asked =
      (registry.overload? asked).map fun overload =>
        if overload.reference = reference then { overload with installed } else overload := by
  rw [overload?, setInstalled, List.find?_map, overload?]
  refine congrArg (fun asks => (registry.overloads.find? asks).map _) (funext fun overload => ?_)
  rw [Function.comp_apply]
  split <;> rfl

theorem overload?_setInstalled_self {registry : Registry} {reference : OverloadRef}
    {overload : Overload} (found : registry.overload? reference = some overload)
    (installed : Option BodyInForce) :
    (registry.setInstalled reference installed).overload? reference =
      some { overload with installed } := by
  rw [overload?_setInstalled, found, Option.map_some, if_pos (reference_of_overload? found)]

/-- After a body has been put over a reference, the overload that has it carries the body. -/
theorem overload?_putBody_self {registry : Registry} {reference : OverloadRef}
    {overload : Overload} (found : registry.overload? reference = some overload)
    (body : BodyInForce) :
    (registry.putBody reference body).overload? reference =
      some { overload with installed := some body } :=
  overload?_setInstalled_self found (some body)

theorem overload?_putBody_other (registry : Registry) {reference other : OverloadRef}
    (body : BodyInForce) (different : other ≠ reference) :
    (registry.putBody reference body).overload? other = registry.overload? other := by
  show (registry.setInstalled reference (some body)).overload? other = _
  rw [overload?_setInstalled]
  cases found : registry.overload? other with
  | none => rfl
  | some overload =>
    rw [Option.map_some, if_neg (reference_of_overload? found ▸ different)]

end Registry

/-! ### Where calls go -/

namespace Callee

/-- Whether a call with some arguments is one for an overload with a reference. -/
def accepts (callee : Callee) (arguments : List Value) (reference : OverloadRef) : Bool :=
  match callee with
  | .method container member =>
    decide (reference.container = container ∧ reference.member = member) &&
      reference.signature.accepts arguments
  | .exactly exact => reference = exact

theorem find?_eq (callee : Callee) (registry : Registry) (arguments : List Value) :
    callee.find? registry arguments =
      registry.overloads.find? (callee.accepts arguments ∘ Overload.reference) := by
  cases callee with
  | method container member =>
    refine List.find?_filter.trans (congrArg (List.find? · _) (funext fun overload => ?_))
    rw [Bool.decide_and, Bool.decide_eq_true, Bool.decide_eq_true]
    rfl
  | exactly reference => rfl

theorem overload?_of_find? {registry : Registry} (callee : Callee) (distinct : registry.Distinct)
    {arguments : List Value} {overload : Overload}
    (found : callee.find? registry arguments = some overload) :
    registry.overload? overload.reference = some overload := by
  have member := callee.mem_of_find? found
  obtain ⟨itself, denotes⟩ := Registry.exists_overload? (List.mem_map_of_mem member)
  rw [denotes, distinct.eq_of_overload? member rfl denotes]

/-- Where the same references are declared in the same order, a call reaches the overload with
the same reference. -/
theorem find?_of_references (callee : Callee) {registry other : Registry}
    (same : other.references = registry.references) (distinct : registry.Distinct)
    {arguments : List Value} {overload after : Overload}
    (found : callee.find? registry arguments = some overload)
    (present : other.overload? overload.reference = some after) :
    callee.find? other arguments = some after := by
  have asked : registry.references.find? (callee.accepts arguments) =
      some overload.reference := by
    rw [Registry.references, List.find?_map, ← find?_eq, found]
    rfl
  rw [← same, Registry.references, List.find?_map, ← find?_eq] at asked
  obtain ⟨reached, reaches, sameReference⟩ := Option.map_eq_some_iff.mp asked
  have otherDistinct : other.Distinct := by
    rw [Registry.Distinct, ← Registry.references, same]
    exact distinct
  rw [reaches, otherDistinct.eq_of_overload? (callee.mem_of_find? reaches) sameReference present]

end Callee

/-! ### Worlds that differ in hooks only -/

/-- That the same is declared in two worlds. -/
structure World.SameDeclared (world after : World) : Prop where
  classes : ∀ runtime, (after.registry runtime).classes = (world.registry runtime).classes
  declarations : ∀ runtime,
    (after.registry runtime).declarations = (world.registry runtime).declarations

namespace World.SameDeclared

variable {world middle after : World}

theorem of_registries (same : after.registries = world.registries) : world.SameDeclared after := by
  have reads := registry_congr same
  exact ⟨fun runtime => by rw [reads], fun runtime => by rw [reads]⟩

theorem trans (first : world.SameDeclared middle) (second : middle.SameDeclared after) :
    world.SameDeclared after where
  classes runtime := (second.classes runtime).trans (first.classes runtime)
  declarations runtime := (second.declarations runtime).trans (first.declarations runtime)

theorem references (same : world.SameDeclared after) (runtime : RuntimeId) :
    (after.registry runtime).references = (world.registry runtime).references := by
  rw [Registry.references, Registry.references_eq, same.declarations,
    ← Registry.references_eq, Registry.references]

theorem slotOf? (same : world.SameDeclared after) (runtime : RuntimeId) (name : String) :
    (after.registry runtime).slotOf? name = (world.registry runtime).slotOf? name := by
  rw [Registry.slotOf?, same.classes, Registry.slotOf?]

theorem memberRefs (same : world.SameDeclared after) (runtime : RuntimeId)
    (container member : String) :
    (after.registry runtime).memberRefs container member =
      (world.registry runtime).memberRefs container member := by
  rw [Registry.memberRefs, same.references, Registry.memberRefs]

end World.SameDeclared

/-! ### Rearmed overloads -/

/-- The overload with a tracer over it. -/
def Overload.under (overload : Overload) (instrument : Instrument) (identity : Nat) : Overload :=
  { overload with installed := some (.traced ⟨identity, instrument.emitter, instrument.path,
      instrument.hook, overload.declaredBody⟩) }

/-- That a world has come from another one by hooking, with what has been put over the overloads
last: a fresh tracer with an instrument, or nothing. -/
structure World.Rearmed (last : RuntimeId → OverloadRef → Option Instrument)
    (world after : World) : Prop extends world.SameDeclared after where
  host : after.host = world.host
  issued : world.nextTracer ≤ after.nextTracer
  kept : ∀ {runtime reference overload},
    (world.registry runtime).overload? reference = some overload →
      last runtime reference = none →
        (after.registry runtime).overload? reference = some overload
  armed : ∀ {runtime reference overload instrument},
    (world.registry runtime).overload? reference = some overload →
      last runtime reference = some instrument →
        ∃ identity, world.nextTracer ≤ identity ∧ identity < after.nextTracer ∧
          (after.registry runtime).overload? reference =
            some (overload.under instrument identity)

namespace World.Rearmed

variable {first second last other : RuntimeId → OverloadRef → Option Instrument}
  {world middle after : World}

/-- What is not hooking puts nothing over overloads. -/
theorem of_beside (beside : world.Beside after) : World.Rearmed (fun _ _ => none) world after where
  toSameDeclared := .of_registries beside.registries
  host := beside.host
  issued := Nat.le_of_eq beside.issued.symm
  kept found _ := by rwa [registry_congr beside.registries]
  armed _ something := nomatch something

theorem trans (before : World.Rearmed first world middle)
    (behind : World.Rearmed second middle after) :
    World.Rearmed
      (fun runtime reference => (second runtime reference).or (first runtime reference))
      world after where
  toSameDeclared := before.toSameDeclared.trans behind.toSameDeclared
  host := behind.host.trans before.host
  issued := Nat.le_trans before.issued behind.issued
  kept found nothing := by
    obtain ⟨nothingSecond, nothingFirst⟩ := Option.or_eq_none_iff.mp nothing
    exact behind.kept (before.kept found nothingFirst) nothingSecond
  armed := by
    intro runtime reference overload instrument found isLast
    rcases Option.or_eq_some_iff.mp isLast with isSecond | ⟨nothingSecond, isFirst⟩
    · -- Whatever the first part left there, the tracer of the second is over the declared body.
      have standing : ∃ standing,
          (middle.registry runtime).overload? reference = some standing ∧
            ∀ identity, standing.under instrument identity = overload.under instrument identity := by
        cases given : first runtime reference with
        | none => exact ⟨overload, before.kept found given, fun _ => rfl⟩
        | some earlier =>
          obtain ⟨identity, -, -, carries⟩ := before.armed found given
          exact ⟨_, carries, fun _ => rfl⟩
      obtain ⟨standing, stands, same⟩ := standing
      obtain ⟨identity, fresh, issued, carries⟩ := behind.armed stands isSecond
      exact ⟨identity, Nat.le_trans before.issued fresh, issued, same identity ▸ carries⟩
    · obtain ⟨identity, fresh, issued, carries⟩ := before.armed found isFirst
      exact ⟨identity, fresh, Nat.lt_of_lt_of_le issued behind.issued,
        behind.kept carries nothingSecond⟩

/-- Only what is put over declared overloads matters. -/
theorem congr (rearmed : World.Rearmed last world after)
    (same : ∀ runtime, ∀ reference ∈ (world.registry runtime).references,
      last runtime reference = other runtime reference) : World.Rearmed other world after where
  toSameDeclared := rearmed.toSameDeclared
  host := rearmed.host
  issued := rearmed.issued
  kept found nothing :=
    rearmed.kept found ((same _ _ (Registry.mem_references found)).trans nothing)
  armed found isLast :=
    rearmed.armed found ((same _ _ (Registry.mem_references found)).trans isLast)

theorem beside (rearmed : World.Rearmed last world middle) (beside : middle.Beside after) :
    World.Rearmed last world after :=
  (rearmed.trans (.of_beside beside)).congr fun _ _ _ => Option.none_or

section Calls

variable {runtime : RuntimeId} {callee : Callee} {arguments : List Value} {overload : Overload}
  (rearmed : World.Rearmed last world after) (distinct : (world.registry runtime).Distinct)
  (found : callee.find? (world.registry runtime) arguments = some overload)

include rearmed distinct found

/-- A call that reached an overload reaches it as it was, if nothing was put over it. -/
theorem find?_kept (nothing : last runtime overload.reference = none) :
    callee.find? (after.registry runtime) arguments = some overload :=
  callee.find?_of_references (rearmed.references runtime) distinct found
    (rearmed.kept (callee.overload?_of_find? distinct found) nothing)

/-- A call that reached an overload reaches it under the tracer that was put over it last. -/
theorem find?_armed {instrument : Instrument}
    (isLast : last runtime overload.reference = some instrument) :
    ∃ identity, world.nextTracer ≤ identity ∧ identity < after.nextTracer ∧
      callee.find? (after.registry runtime) arguments =
        some (overload.under instrument identity) := by
  obtain ⟨identity, fresh, issued, carries⟩ :=
    rearmed.armed (callee.overload?_of_find? distinct found) isLast
  exact ⟨identity, fresh, issued,
    callee.find?_of_references (rearmed.references runtime) distinct found carries⟩

end Calls

end World.Rearmed

end Intercept
