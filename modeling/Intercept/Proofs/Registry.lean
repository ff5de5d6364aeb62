/-
This file says how registries are looked up and changed. Declarations append an overload with
no body over it and only where none with the same reference is declared, so references stay
distinct, and a reference denotes every overload that has it. Putting a body over an overload
keeps all references and all declared bodies.
-/
import Intercept.Proofs.Episode
import Mathlib.Data.List.Nodup

namespace Intercept

/-! ### Registries of a world -/

namespace World

theorem registry_setRegistry_self (world : World) (runtime : RuntimeId) (registry : Registry)
    (present : runtime < world.registries.length) :
    (world.setRegistry runtime registry).registry runtime = registry := by
  simp only [World.registry, setRegistry, List.getD_eq_getElem?_getD,
    List.getElem?_set_self present, Option.getD_some]

theorem registry_setRegistry_other (world : World) {runtime other : RuntimeId}
    (registry : Registry) (different : other ≠ runtime) :
    (world.setRegistry runtime registry).registry other = world.registry other := by
  simp only [World.registry, setRegistry, List.getD_eq_getElem?_getD,
    List.getElem?_set_ne different.symm]

theorem registry_congr {world other : World} (same : other.registries = world.registries) :
    other.registry = world.registry := by
  funext runtime
  rw [World.registry, World.registry, same]

/-- A runtime outside the process has no registry to put. -/
theorem setRegistry_absent (world : World) {runtime : RuntimeId} (registry : Registry)
    (absent : world.registries.length ≤ runtime) :
    world.setRegistry runtime registry = world := by
  simp only [setRegistry, List.set_eq_of_length_le absent]

/-- A put registry is read back in its own runtime, if there is one; else nothing changed. -/
theorem registry_setRegistry_cases (world : World) (runtime reader : RuntimeId)
    (registry : Registry) :
    (world.setRegistry runtime registry).registry reader = world.registry reader ∨
      reader = runtime ∧ (world.setRegistry runtime registry).registry reader = registry := by
  by_cases same : reader = runtime
  · subst same
    by_cases present : reader < world.registries.length
    · exact .inr ⟨rfl, world.registry_setRegistry_self reader registry present⟩
    · rw [setRegistry_absent _ _ (Nat.le_of_not_lt present)]
      exact .inl rfl
  · exact .inl (world.registry_setRegistry_other registry same)

/-- A runtime with a declared overload is one of the process. -/
theorem present_of_overload? {world : World} {runtime : RuntimeId} {reference : OverloadRef}
    {overload : Overload}
    (found : (world.registry runtime).overload? reference = some overload) :
    runtime < world.registries.length := by
  refine Nat.lt_of_not_le fun absent => ?_
  have empty : world.registry runtime = {} := by
    simp only [World.registry, List.getD_eq_getElem?_getD, List.getElem?_eq_none absent,
      Option.getD_none]
  rw [empty] at found
  cases found

end World

/-! ### Looking overloads up -/

namespace Registry

theorem mem_of_overload? {registry : Registry} {reference : OverloadRef} {overload : Overload}
    (found : registry.overload? reference = some overload) : overload ∈ registry.overloads :=
  List.mem_of_find?_eq_some found

theorem reference_of_overload? {registry : Registry} {reference : OverloadRef}
    {overload : Overload} (found : registry.overload? reference = some overload) :
    overload.reference = reference := by
  have accepted := List.find?_some found
  exact of_decide_eq_true accepted

theorem overload?_eq_none_iff {registry : Registry} {reference : OverloadRef} :
    registry.overload? reference = none ↔
      reference ∉ registry.overloads.map Overload.reference := by
  simp only [overload?, List.find?_eq_none, decide_eq_true_eq, List.mem_map, not_exists, not_and]

/-- That no two overloads have the same reference. -/
def Distinct (registry : Registry) : Prop :=
  (registry.overloads.map Overload.reference).Nodup

/-- Where references are distinct, a reference denotes the overload that has it. -/
theorem Distinct.eq_of_overload? {registry : Registry} (distinct : registry.Distinct)
    {reference : OverloadRef} {overload found : Overload}
    (member : overload ∈ registry.overloads) (same : overload.reference = reference)
    (finds : registry.overload? reference = some found) : overload = found :=
  List.inj_on_of_nodup_map distinct member (mem_of_overload? finds)
    (same.trans (reference_of_overload? finds).symm)

/-! ### Declarations -/

@[simp]
theorem overloads_declareClass (registry : Registry) (name : String) :
    (registry.declareClass name).overloads = registry.overloads := by
  unfold declareClass
  split <;> rfl

@[simp]
theorem overloads_declareMember (registry : Registry) (container member : String) :
    (registry.declareMember container member).overloads = registry.overloads := by
  simp only [declareMember, noteMember, overloads_declareClass]

/-- A declaration either is refused and changes nothing, or appends an overload whose
reference was free. -/
theorem declareMethod_cases (registry : Registry) (container member : String)
    (parameters : List String) (body : Body) :
    ((registry.overload? ⟨container, member, ⟨parameters⟩⟩).isSome ∧
      registry.declareMethod container member parameters body =
        (.error (.declaredTwice (OverloadRef.key ⟨container, member, ⟨parameters⟩⟩)),
          registry)) ∨
    (registry.overload? ⟨container, member, ⟨parameters⟩⟩ = none ∧
      (registry.declareMethod container member parameters body).1 =
        .ok ⟨container, member, ⟨parameters⟩⟩ ∧
      (registry.declareMethod container member parameters body).2.overloads =
        registry.overloads ++ [⟨⟨container, member, ⟨parameters⟩⟩, body, none⟩]) := by
  unfold declareMethod
  by_cases declared : (registry.overload? ⟨container, member, ⟨parameters⟩⟩).isSome
  · exact .inl ⟨declared, if_pos declared⟩
  · refine .inr ⟨Option.not_isSome_iff_eq_none.mp declared, ?_⟩
    simp only [if_neg declared, overloads_declareMember, and_self]

/-- What a declaration does to a registry: it leaves all overloads, or appends one whose
reference was free, with a permitted body and no body over it. -/
inductive Declares (permitted : Body → Prop) (registry after : Registry) : Prop where
  | classes (same : after.overloads = registry.overloads)
  | method {reference : OverloadRef} {body : Body}
      (free : registry.overload? reference = none) (allowed : permitted body)
      (appended : after.overloads = registry.overloads ++ [⟨reference, body, none⟩])

theorem declareMethod_declares {permitted : Body → Prop} (registry : Registry)
    (container member : String) (parameters : List String) {body : Body}
    (allowed : permitted body) :
    registry.Declares permitted
      (registry.declareMethod container member parameters body).2 := by
  rcases registry.declareMethod_cases container member parameters body with
    ⟨-, unchanged⟩ | ⟨free, -, appended⟩
  · exact .classes (congrArg (fun answer => answer.2.overloads) unchanged)
  · exact .method free allowed appended

theorem Declares.imp {permitted allowed : Body → Prop} {registry after : Registry}
    (declares : registry.Declares permitted after)
    (weaker : ∀ body, permitted body → allowed body) : registry.Declares allowed after := by
  cases declares with
  | classes same => exact .classes same
  | method free isPermitted appended => exact .method free (weaker _ isPermitted) appended

theorem Declares.mem {permitted : Body → Prop} {registry after : Registry}
    (declares : registry.Declares permitted after) {overload : Overload}
    (member : overload ∈ after.overloads) :
    overload ∈ registry.overloads ∨
      ∃ reference body, registry.overload? reference = none ∧ permitted body ∧
        overload = ⟨reference, body, none⟩ := by
  cases declares with
  | classes same =>
    rw [same] at member
    exact .inl member
  | method free allowed appended =>
    rw [appended, List.mem_append, List.mem_singleton] at member
    exact member.imp id fun fresh => ⟨_, _, free, allowed, fresh⟩

theorem Declares.references_subset {permitted : Body → Prop} {registry after : Registry}
    (declares : registry.Declares permitted after) :
    registry.overloads.map Overload.reference ⊆ after.overloads.map Overload.reference := by
  cases declares with
  | classes same =>
    rw [same]
    exact List.Subset.refl _
  | method _ _ appended =>
    rw [appended, List.map_append]
    exact List.subset_append_left _ _

theorem Declares.distinct {permitted : Body → Prop} {registry after : Registry}
    (declares : registry.Declares permitted after) (distinct : registry.Distinct) :
    after.Distinct := by
  cases declares with
  | classes same =>
    rw [Distinct, same]
    exact distinct
  | method free _ appended =>
    rw [Distinct, appended, List.map_append, List.map_cons, List.map_nil]
    refine List.nodup_append.mpr ⟨distinct, List.nodup_singleton _, ?_⟩
    intro taken isTaken fresh isFresh equal
    rw [equal, List.mem_singleton.mp isFresh] at isTaken
    exact overload?_eq_none_iff.mp free isTaken

end Registry

namespace World

variable {permitted : Body → Prop} {world : World} {runtime : RuntimeId} {registry : Registry}

/-- After a declaration, an overload was declared before, or it is the declared one, which had a
free reference and has nothing installed over it. -/
theorem mem_declared (declares : (world.registry runtime).Declares permitted registry)
    {reader : RuntimeId} {overload : Overload}
    (member : overload ∈ ((world.setRegistry runtime registry).registry reader).overloads) :
    overload ∈ (world.registry reader).overloads ∨
      ∃ reference body, (world.registry reader).overload? reference = none ∧ permitted body ∧
        overload = ⟨reference, body, none⟩ := by
  rcases world.registry_setRegistry_cases runtime reader registry with reads | ⟨rfl, reads⟩ <;>
    rw [reads] at member
  · exact .inl member
  · exact declares.mem member

theorem references_declared (declares : (world.registry runtime).Declares permitted registry)
    (reader : RuntimeId) :
    (world.registry reader).overloads.map Overload.reference ⊆
      ((world.setRegistry runtime registry).registry reader).overloads.map
        Overload.reference := by
  rcases world.registry_setRegistry_cases runtime reader registry with reads | ⟨rfl, reads⟩ <;>
    rw [reads]
  · exact List.Subset.refl _
  · exact declares.references_subset

end World

/-! ### Calls -/

theorem Callee.mem_of_find? (callee : Callee) {registry : Registry} {arguments : List Value}
    {overload : Overload} (found : callee.find? registry arguments = some overload) :
    overload ∈ registry.overloads := by
  cases callee with
  | method container member =>
    exact List.mem_of_mem_filter (List.mem_of_find?_eq_some found)
  | exactly reference => exact Registry.mem_of_overload? found

namespace Registry

/-! ### Putting bodies -/

/-- What is declared: the references and the declared bodies, in order. -/
def declarations (registry : Registry) : List (OverloadRef × Body) :=
  registry.overloads.map fun overload => (overload.reference, overload.declaredBody)

theorem declarations_putBody (registry : Registry) (reference : OverloadRef)
    (body : BodyInForce) :
    (registry.putBody reference body).declarations = registry.declarations := by
  simp only [declarations, putBody, List.map_map]
  refine List.map_congr_left fun overload _ => ?_
  simp only [Function.comp_apply]
  split <;> rfl

theorem references_eq (registry : Registry) :
    registry.overloads.map Overload.reference = registry.declarations.map Prod.fst := by
  rw [declarations, List.map_map]
  rfl

theorem Distinct.putBody {registry : Registry} (distinct : registry.Distinct)
    (reference : OverloadRef) (body : BodyInForce) :
    (registry.putBody reference body).Distinct := by
  rw [Distinct, references_eq, declarations_putBody, ← references_eq]
  exact distinct

/-- After a body has been put over the reference of a declared overload, this overload carries
it, and the overloads with other references are as before. -/
theorem Distinct.mem_putBody {registry : Registry} (distinct : registry.Distinct)
    {reference : OverloadRef} {overload after : Overload} {body : BodyInForce}
    (found : registry.overload? reference = some overload)
    (member : after ∈ (registry.putBody overload.reference body).overloads) :
    after ∈ registry.overloads ∧ after.reference ≠ overload.reference ∨
      after = { overload with installed := some body } := by
  obtain ⟨before, isBefore, rfl⟩ := List.mem_map.mp member
  by_cases same : before.reference = overload.reference
  · have itself := distinct.eq_of_overload? isBefore
      (same.trans (reference_of_overload? found)) found
    subst itself
    exact .inr (if_pos rfl)
  · rw [if_neg same]
    exact .inl ⟨isBefore, same⟩

end Registry

end Intercept
