/-
This file says what the keys of a process identify. Overloads of a runtime have the same key exactly
if their references read alike, so a key names one overload among those that can be read from their
keys. Where all overloads of a runtime can, the frames of open calls, the refusal to declare an
overload again, and the refusal of an unknown one each name what they are about and nothing else.
An overload that cannot be read from its key can come to share it with another one.
-/
import Intercept.Proofs.Forwarding
import Intercept.Proofs.Keys
import Intercept.Proofs.Stacks
import Intercept.Proofs.Undisturbed

namespace Intercept

/-! ### Overloads stay declared -/

namespace World

variable {world after : World}

theorem Becomes.references (becomes : world.Becomes after) (runtime : RuntimeId) :
    (world.registry runtime).references ⊆ (after.registry runtime).references := by
  rw [Registry.references, Registry.references, Registry.references_eq, Registry.references_eq]
  exact ((becomes.declarations runtime).map Prod.fst).subset

/-- Any overload can come to be declared. -/
theorem exists_declared (world : World) {runtime : RuntimeId}
    (present : runtime < world.registries.length) (reference : OverloadRef) :
    ∃ after, world.Becomes after ∧ reference ∈ (after.registry runtime).references := by
  obtain ⟨container, member, ⟨parameters⟩⟩ := reference
  let body : Body := fun _ _ => .pure .null
  have extend : (world.registry runtime).Extends _ :=
    .declareMethod container member parameters body
  refine ⟨_, .single (.declared extend), ?_⟩
  rw [world.registry_setRegistry_self runtime _ present, Registry.references]
  rcases (world.registry runtime).declareMethod_cases container member parameters body with
    ⟨declared, unchanged⟩ | ⟨-, -, appended⟩
  · obtain ⟨overload, found⟩ := Option.isSome_iff_exists.mp declared
    rw [unchanged]
    exact Registry.mem_references found
  · rw [appended, List.map_append]
    exact List.mem_append_right _ (List.mem_singleton_self _)

end World

/-- That the overloads of all open calls are declared in their runtimes, and so is the overload that
is called. -/
structure Moment.Registered (moment : Moment) : Prop where
  present : moment.task.Present (moment.state.world.registry moment.runtime)
  calls : ∀ call ∈ moment.calls,
    call.reference ∈ (moment.state.world.registry call.runtime).references

theorem Moment.Registered.of_leads {moment next : Moment} (leads : moment.Leads next)
    (registered : moment.Registered) : next.Registered := by
  obtain ⟨present, calls⟩ := registered
  have becomes := leads.becomes
  have stay : ∀ call ∈ moment.calls,
      call.reference ∈ (next.state.world.registry call.runtime).references :=
    fun call isOpen => becomes.references _ (calls call isOpen)
  cases leads with
  | spawn => exact ⟨trivial, fun _ isOpen => nomatch isOpen⟩
  | @dispatched _ callee _ _ _ _ _ _ found => exact ⟨callee.mem_of_find? found, stay⟩
  | plain | straight | rewriting | forwarding | settling =>
    -- The overload that is called has been found before the call is opened.
    have opened := becomes.references _ (List.mem_map_of_mem present)
    exact ⟨trivial, List.forall_mem_cons.mpr ⟨opened, stay⟩⟩
  | _ => exact ⟨trivial, stay⟩

/-! ### Keys in a registry -/

namespace Registry

/-- That a text is the key of exactly one overload of a registry. -/
structure Names (registry : Registry) (text : String) (overload : Overload) : Prop where
  isOverload : overload ∈ registry.overloads
  key : overload.reference.key = text
  only : ∀ other ∈ registry.overloads, other.reference.key = text → other = overload

/-- That all overloads of a registry can be read from their keys. -/
def Legible (registry : Registry) : Prop :=
  ∀ overload ∈ registry.overloads, overload.reference.Legible

instance : DecidablePred Legible := fun registry =>
  inferInstanceAs (Decidable (∀ overload ∈ registry.overloads, overload.reference.Legible))

/-- That the texts in which a registry shows keys name what they are about. -/
structure Identifies (registry : Registry) : Prop where
  keys : ∀ overload ∈ registry.overloads, registry.Names overload.reference.key overload
  /-- The refusal to declare an overload again names the one that is declared. -/
  again : ∀ container member parameters body text,
    (registry.declareMethod container member parameters body).1 = .error (.declaredTwice text) →
      ∃ overload, registry.Names text overload ∧
        overload.reference = ⟨container, member, ⟨parameters⟩⟩
  /-- The refusal of an unknown overload names this one, and no other that can be read. -/
  unknown : ∀ reference text, reference.Legible →
    (registry.declaredBody reference = .error (.undeclaredOverload text) ∨
      ∃ body, registry.replace reference body = .error (.undeclaredOverload text)) →
      text = reference.key ∧ reference ∉ registry.references ∧
        ∀ other : OverloadRef, other.Legible → other.key = text → other = reference

variable {registry : Registry} {overload other : Overload}

/-- Overloads that can be read from their keys are told apart by them. -/
theorem Coherent.eq_of_key (coherent : registry.Coherent)
    (isOverload : overload ∈ registry.overloads) (isOther : other ∈ registry.overloads)
    (legible : overload.reference.Legible) (legibleOther : other.reference.Legible)
    (same : overload.reference.key = other.reference.key) : overload = other :=
  List.inj_on_of_nodup_map coherent.distinct isOverload isOther
    (legible.eq_of_key legibleOther same)

theorem Coherent.names (coherent : registry.Coherent) (legible : registry.Legible)
    (isOverload : overload ∈ registry.overloads) :
    registry.Names overload.reference.key overload where
  isOverload := isOverload
  key := rfl
  only other isOther same :=
    coherent.eq_of_key isOther isOverload (legible other isOther) (legible overload isOverload) same

theorem Coherent.identifies (coherent : registry.Coherent) (legible : registry.Legible) :
    registry.Identifies where
  keys _ isOverload := coherent.names legible isOverload
  again container member parameters body text refused := by
    rcases registry.declareMethod_cases container member parameters body with
      ⟨declared, isRefused⟩ | ⟨-, accepted, -⟩
    · obtain ⟨overload, found⟩ := Option.isSome_iff_exists.mp declared
      have same := reference_of_overload? found
      rw [isRefused] at refused
      cases refused
      exact ⟨overload, same ▸ coherent.names legible (mem_of_overload? found), same⟩
    · cases accepted.symm.trans refused
  unknown reference text isLegible refused := by
    obtain ⟨free, rfl⟩ : registry.overload? reference = none ∧ reference.key = text := by
      rcases refused with refused | ⟨body, refused⟩
      · unfold declaredBody at refused
        split at refused
        · cases refused
        · next free => exact ⟨free, HookFailure.undeclaredOverload.inj (Except.error.inj refused)⟩
      · unfold replace at refused
        split_ifs at refused with declared
        exact ⟨Option.not_isSome_iff_eq_none.mp declared,
          HookFailure.undeclaredOverload.inj (Except.error.inj refused)⟩
    exact ⟨rfl, overload?_eq_none_iff.mp free, fun other legibleOther same =>
      legibleOther.eq_of_key isLegible same⟩

end Registry

namespace World

variable {world : World}

/-- An overload that cannot be read from its key comes to share it with another one, if both are
declared. -/
theorem exists_shared_key {runtime : RuntimeId} (present : runtime < world.registries.length)
    {reference : OverloadRef} (illegible : ¬ reference.Legible) :
    ∃ after, world.Becomes after ∧ ∃ overload ∈ (after.registry runtime).overloads,
      ∃ other ∈ (after.registry runtime).overloads, overload.reference = reference ∧
        other.reference.Legible ∧ other ≠ overload ∧
          other.reference.key = overload.reference.key := by
  obtain ⟨legible, sameKey⟩ := reference.reading_spec
  obtain ⟨middle, becomes, declared⟩ := world.exists_declared present reference
  obtain ⟨after, becomesThen, declaredToo⟩ :=
    middle.exists_declared (becomes.runtimes.symm ▸ present) reference.reading
  obtain ⟨overload, isOverload, same⟩ := List.mem_map.mp (becomesThen.references _ declared)
  obtain ⟨other, isOther, sameToo⟩ := List.mem_map.mp declaredToo
  refine ⟨after, becomes.trans becomesThen, overload, isOverload, other, isOther, same,
    sameToo ▸ legible, ?_, ?_⟩
  · rintro rfl
    exact illegible (same ▸ sameToo ▸ legible)
  · rw [same, sameToo, sameKey]

end World

/-- At every moment of a run, the overloads of the open calls are declared. -/
theorem Moment.Arrives.registered {start moment : Moment} (arrives : start.Arrives moment)
    (fresh : start.calls = [])
    (present : start.task.Present (start.state.world.registry start.runtime)) :
    moment.Registered := by
  refine arrives.keeps Moment.Registered.of_leads ⟨present, ?_⟩
  rw [fresh]
  exact fun _ isOpen => nomatch isOpen

/-- Keys identify the overloads that can be read from them. In whatever state a process is, two
overloads of a runtime have the same key exactly if they read alike, and never if both can be read
from their keys. Where all can, each key and each refusal names what it is about. During every run,
the frames are the keys of the open calls, and each one names the overload of its call. But any
overload that cannot be read from its key can come to share it. -/
theorem keys_identify_legible_overloads {world : World} (reachable : world.Reachable) :
    (∀ runtime, ∀ overload ∈ (world.registry runtime).overloads,
      ∀ other ∈ (world.registry runtime).overloads,
        (overload.reference.key = other.reference.key ↔
          overload.reference.reading = other.reference.reading) ∧
        (overload.reference.Legible → other.reference.Legible →
          overload.reference.key = other.reference.key → overload = other)) ∧
    (∀ runtime, (world.registry runtime).Legible → (world.registry runtime).Identifies) ∧
    (∀ runtime task moment, task.Present (world.registry runtime) →
      Moment.Arrives ⟨runtime, task, { world }, [], []⟩ moment →
        moment.state.thread.frames = moment.keys ∧
        ∀ call ∈ moment.calls, (moment.state.world.registry call.runtime).Legible →
          ∃ overload, overload.reference = call.reference ∧
            (moment.state.world.registry call.runtime).Names call.reference.key overload) ∧
    (∀ runtime reference, runtime < world.registries.length → ¬ reference.Legible →
      ∃ after, world.Becomes after ∧ ∃ overload ∈ (after.registry runtime).overloads,
        ∃ other ∈ (after.registry runtime).overloads, overload.reference = reference ∧
          other.reference.Legible ∧ other ≠ overload ∧
            other.reference.key = overload.reference.key) := by
  refine ⟨fun runtime overload isOverload other isOther => ⟨OverloadRef.key_eq_iff, ?_⟩,
    fun runtime => (reachable.coherent runtime).identifies,
    fun runtime task moment present arrives => ⟨?_, fun call isOpen legible => ?_⟩,
    fun runtime reference present illegible => World.exists_shared_key present illegible⟩
  · exact (reachable.coherent runtime).eq_of_key isOverload isOther
  · exact (arrives.keeps Moment.Stacked.of_leads ⟨rfl, rfl⟩).frames
  · obtain ⟨overload, isOverload, same⟩ :=
      List.mem_map.mp ((arrives.registered rfl present).calls call isOpen)
    have later : moment.state.world.Reachable := World.Reachable.of_arrives reachable arrives
    have coherent := later.coherent call.runtime
    exact ⟨overload, same, same ▸ coherent.names legible isOverload⟩

/-- A class with overloads, a call in it, and an overload that comes to share its key. -/
theorem keys_identify_legible_overloads_desk :
    deskWorld.Reachable ∧ (deskWorld.registry 0).Legible ∧ (deskWorld.registry 0).Identifies ∧
      (∃ moment overload,
        Moment.Arrives
          ⟨0, .dispatch (.method "Desk" "call") .null [], { world := deskWorld }, [], []⟩ moment ∧
        moment.state.thread.frames = ["Desk.call()"] ∧
        overload.reference = ⟨"Desk", "call", ⟨[]⟩⟩ ∧
        (moment.state.world.registry 0).Names "Desk.call()" overload) ∧
      ∃ after, deskWorld.Becomes after ∧ ∃ overload ∈ (after.registry 0).overloads,
        ∃ other ∈ (after.registry 0).overloads,
          overload.reference = ⟨"pkg", "Greeter.greet", ⟨[]⟩⟩ ∧ other ≠ overload ∧
            other.reference.key = overload.reference.key := by
  have legible : (deskWorld.registry 0).Legible := by decide
  obtain ⟨-, identifies, frames, shares⟩ := keys_identify_legible_overloads deskWorld_reachable
  have arrives : Moment.Arrives
      ⟨0, .dispatch (.method "Desk" "call") .null [], { world := deskWorld }, [], []⟩ _ :=
    (Relation.ReflTransGen.single (.dispatched rfl)).tail (.plain rfl)
  obtain ⟨shown, named⟩ := frames 0 (.dispatch (.method "Desk" "call") .null []) _ trivial arrives
  obtain ⟨overload, same, names⟩ := named _ List.mem_cons_self legible
  obtain ⟨after, becomes, shared, isShared, other, isOther, isDotted, -, differs, sameKey⟩ :=
    shares 0 ⟨"pkg", "Greeter.greet", ⟨[]⟩⟩ (by decide) (by decide)
  exact ⟨deskWorld_reachable, legible, identifies 0 legible,
    ⟨_, overload, arrives, shown, same, names⟩,
    after, becomes, shared, isShared, other, isOther, isDotted, differs, sameKey⟩

/-- The process with two overloads, the classes and members of which join to the same name. -/
def ambiguousWorld : World :=
  let body : Body := fun _ _ => .pure .null
  let dotted := (({} : Registry).declareMethod "pkg" "Greeter.greet" [] body).2
  { registries := [(dotted.declareMethod "pkg.Greeter" "greet" [] body).2] }

/-- The two overloads have the same key, so it does not name one of them. -/
theorem dotted_member_shares_its_key :
    ambiguousWorld.Reachable ∧
      (ambiguousWorld.registry 0).references =
        [⟨"pkg", "Greeter.greet", ⟨[]⟩⟩, ⟨"pkg.Greeter", "greet", ⟨[]⟩⟩] ∧
      ((ambiguousWorld.registry 0).references.map OverloadRef.key) =
        ["pkg.Greeter.greet()", "pkg.Greeter.greet()"] ∧
      ¬ (ambiguousWorld.registry 0).Identifies := by
  let start : World := (State.initial {} 1).world
  have declares {world : World} {registry : Registry} (becomes : start.Becomes world)
      (extend : (world.registry 0).Extends registry) :
      start.Becomes (world.setRegistry 0 registry) :=
    becomes.tail (.declared extend)
  have dotted := declares .refl (.declareMethod "pkg" "Greeter.greet" [] fun _ _ => .pure .null)
  have plain := declares dotted (.declareMethod "pkg.Greeter" "greet" [] fun _ _ => .pure .null)
  refine ⟨⟨{}, 1, plain⟩, rfl, rfl, fun identifies => ?_⟩
  have named := identifies.keys _ List.mem_cons_self
  have same := named.only _ (List.mem_cons_of_mem _ List.mem_cons_self) rfl
  exact absurd (congrArg (fun overload => overload.reference.container) same) (by decide)

end Intercept
