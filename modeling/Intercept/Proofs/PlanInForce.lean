/-
This file says which entry of a plan is in force for an overload: the last one that covers it,
methods before classes. Whatever has been over the overload does not matter, so calls go as if
it had been hooked only once, by this entry; to say so, the world after the plan is compared with
the one in which the overload has been stripped and hooked again, and these two differ in
identities only. Where no entry covers the overload, calls of it go as before.
-/
import Intercept.Proofs.Covering
import Intercept.Proofs.Reissuing

namespace Intercept

/-! ### What entries rewrite -/

namespace Plan.Entry

/-- The arguments that an entry forwards: those of a method after its edits, in order. -/
def forwards (entry : Entry) (arguments : List Value) : List Value :=
  match entry with
  | .method rule => applyEdits rule.argumentEdits arguments
  | .sweep _ => arguments

/-- Whether an entry edits arguments. -/
def editsArguments : Entry → Bool
  | .method rule => ! rule.argumentEdits.isEmpty
  | .sweep _ => false

/-- The result that an entry delivers: that of a method after its edit, if it has one. -/
def settles (entry : Entry) (value : Value) : Value :=
  match entry with
  | .method rule => (rule.resultEdit.map fun edit => edit.apply value).getD value
  | .sweep _ => value

/-- Whether an entry edits results. -/
def editsResult : Entry → Bool
  | .method rule => rule.resultEdit.isSome
  | .sweep _ => false

/-- That a tracer rewrites what an entry says, at once and without being seen. -/
structure Performs (entry : Entry) (tracer : Tracer) : Prop where
  forwards : ∀ fuel runtime arguments state,
    tracer.forwardedArguments (run (fuel + 1)) runtime arguments state =
      some ((entry.forwards arguments, entry.editsArguments), state)
  settles : ∀ fuel runtime value state,
    tracer.close (run (fuel + 1)) runtime (.returned value) state =
      some (.returned (entry.settles value),
        state.emit tracer.emitter (.left tracer.path value.render
          (if entry.editsResult then some (entry.settles value).render else none)))

/-- Tracers with the hook of an entry rewrite what the entry says. -/
theorem performs (entry : Entry) {tracer : Tracer} (same : tracer.hook = entry.hook) :
    entry.Performs tracer := by
  cases entry with
  | sweep rule =>
    constructor
    · intro fuel runtime arguments state
      rw [Tracer.forwardedArguments, same]
      rfl
    · intro fuel runtime value state
      rw [Tracer.close, same]
      rfl
  | method rule =>
    obtain ⟨target, backtrace, edits, edit⟩ := rule
    constructor
    · intro fuel runtime arguments state
      rw [Tracer.forwardedArguments, same]
      cases edits <;> cases edit <;> rfl
    · intro fuel runtime value state
      rw [Tracer.close, same]
      cases edits <;> cases edit <;> rfl

end Plan.Entry

/-! ### Hooked only once -/

/-- The registry with nothing over an overload. -/
def Registry.strip (registry : Registry) (reference : OverloadRef) : Registry :=
  { registry with
    overloads := registry.overloads.map fun overload =>
      if overload.reference = reference then { overload with installed := none } else overload }

/-- The world with nothing over an overload. -/
def World.strip (world : World) (runtime : RuntimeId) (reference : OverloadRef) : World :=
  world.setRegistry runtime ((world.registry runtime).strip reference)

/-- The world in which an overload has been hooked only once. -/
def World.hookedOnce (world : World) (monitor : Monitor) (reference : OverloadRef) (path : String)
    (hook : Hook) : World :=
  ((world.strip monitor.runtime reference).installHook monitor reference path hook).2

/-- The renaming that gives the tracer with one identity the next identity to be issued, so that
those that would be issued next move up by one. -/
def reissue (identity next : Nat) (before after : Nat) : Prop :=
  before = identity ∧ after = next ∨ before ≠ identity ∧ before < next ∧ after = before ∨
    next ≤ before ∧ after = before + 1

theorem reissue_biUnique {identity next : Nat} (issued : identity < next) :
    Relator.BiUnique (reissue identity next) := by
  constructor
  · intro first second after isFirst isSecond
    unfold reissue at isFirst isSecond
    omega
  · intro before first second isFirst isSecond
    unfold reissue at isFirst isSecond
    omega

theorem Registry.overload?_strip_self {registry : Registry} {reference : OverloadRef}
    {overload : Overload} (found : registry.overload? reference = some overload) :
    (registry.strip reference).overload? reference = some { overload with installed := none } :=
  overload?_setInstalled_self found none

namespace World

variable {world : World} {monitor : Monitor} {reference : OverloadRef} {overload : Overload}
  {path : String} {hook : Hook}

/-- Hooking an overload once puts the next identity over it. -/
theorem hookedOnce_eq (faithful : world.host.Faithful)
    (found : (world.registry monitor.runtime).overload? reference = some overload) :
    world.hookedOnce monitor reference path hook =
      { world with nextTracer := world.nextTracer + 1 }.setRegistry monitor.runtime
        (((world.registry monitor.runtime).strip reference).putBody reference
          (.traced ⟨world.nextTracer, monitor.emitter, path, hook, overload.declaredBody⟩)) := by
  have reads : (world.strip monitor.runtime reference).registry monitor.runtime =
      (world.registry monitor.runtime).strip reference :=
    world.registry_setRegistry_self _ _ (present_of_overload? found)
  have stripped := Registry.overload?_strip_self found
  rw [← reads] at stripped
  have faithful : (world.strip monitor.runtime reference).host.Faithful := faithful
  rw [hookedOnce, installHook_declared faithful stripped, hooked, reads,
    Registry.reference_of_overload? found]
  simp only [strip, setRegistry, List.set_set]

/-- An overload under a tracer is as if it had been hooked only once, but for identities. -/
theorem reissued_hookedOnce (faithful : world.host.Faithful) (issued : world.Issued)
    (found : (world.registry monitor.runtime).overload? reference = some overload)
    {identity : Nat} (installed : overload.installed =
      some (.traced ⟨identity, monitor.emitter, path, hook, overload.declaredBody⟩)) :
    world.Reissued (reissue identity world.nextTracer)
      (world.hookedOnce monitor reference path hook) := by
  have isReference := Registry.reference_of_overload? found
  have worn : world.Wears monitor.runtime reference identity :=
    ⟨overload, Registry.mem_of_overload? found, isReference, _, installed, rfl⟩
  -- A tracer over another overload has an identity that is neither renamed nor moved.
  have others {runtime : RuntimeId} {standing : Overload}
      (isStanding : standing ∈ (world.registry runtime).overloads)
      (other : runtime = monitor.runtime → standing.reference ≠ reference) :
      standing.Reissued (reissue identity world.nextTracer) standing := by
    refine ⟨rfl, rfl, ?_⟩
    cases isInstalled : standing.installed with
    | none => exact .none
    | some body =>
      cases body with
      | plain body => exact .some .plain
      | traced tracer =>
        have alsoWorn : world.Wears runtime standing.reference tracer.identity :=
          ⟨standing, isStanding, rfl, tracer, isInstalled, rfl⟩
        refine .some (.traced (.inr (.inl ⟨fun same => ?_, issued.before alsoWorn, rfl⟩)))
        obtain ⟨sameRuntime, sameReference⟩ := issued.once (same ▸ alsoWorn) worn
        exact other sameRuntime sameReference
  rw [hookedOnce_eq faithful found]
  refine ⟨rfl, rfl, rfl, List.length_set.symm, fun runtime => ?_, fun later => ?_⟩
  · by_cases same : runtime = monitor.runtime
    · subst same
      have present : monitor.runtime <
          ({ world with nextTracer := world.nextTracer + 1 } : World).registries.length :=
        present_of_overload? found
      rw [registry_setRegistry_self _ _ _ present]
      refine ⟨rfl, ?_⟩
      refine List.forall₂_map_right_iff.mpr (List.forall₂_map_right_iff.mpr ?_)
      refine List.forall₂_same.mpr fun standing isStanding => ?_
      by_cases isIt : standing.reference = reference
      · obtain rfl := (issued.coherent _).distinct.eq_of_overload? isStanding isIt found
        rw [if_pos isIt, if_pos isIt]
        refine ⟨rfl, rfl, ?_⟩
        rw [installed]
        exact .some (.traced (.inl ⟨rfl, rfl⟩))
      · rw [if_neg isIt, if_neg isIt]
        exact others isStanding fun _ => isIt
    · rw [registry_setRegistry_other _ _ same]
      exact ⟨rfl, List.forall₂_same.mpr fun _ isStanding =>
        others isStanding fun sameRuntime => absurd sameRuntime same⟩
  · exact .inr (.inr ⟨Nat.le_add_right _ _, Nat.add_right_comm _ _ _⟩)

end World

/-! ### The entry in force -/

/-- What a plan does to the calls of an overload, from the world before it to the one after. If no
entry covers the overload, its calls reach it as they did. Otherwise they reach it under a fresh
tracer with the path and the hook of the entry that counts for it, which rewrites what the entry
says, and they are served as if the overload had been hooked only once. -/
def Plan.Settles (plan : Plan) (monitor : Monitor) (reference : OverloadRef)
    (world after : World) : Prop :=
  match plan.entryFor? reference with
  | none =>
    ∀ (callee : Callee) arguments overload,
      callee.find? (world.registry monitor.runtime) arguments = some overload →
        overload.reference = reference →
          callee.find? (after.registry monitor.runtime) arguments = some overload
  | some entry =>
    (∀ (callee : Callee) arguments overload,
      callee.find? (world.registry monitor.runtime) arguments = some overload →
        overload.reference = reference →
          ∃ tracer : Tracer, world.nextTracer ≤ tracer.identity ∧
            callee.find? (after.registry monitor.runtime) arguments =
              some { overload with installed := some (.traced tracer) } ∧
            tracer.declaredBody = overload.declaredBody ∧ tracer.path = entry.path reference ∧
            tracer.hook = entry.hook ∧ tracer.emitter = monitor.emitter ∧
            entry.Performs tracer) ∧
    ∀ requests answers, Serves { world := after } requests answers ↔
      Serves { world := after.hookedOnce monitor reference (entry.path reference) entry.hook }
        requests answers

/-- The last entry that covers an overload counts. -/
theorem last_covering_entry_counts {world : World} (reachable : world.Reachable)
    (faithful : world.host.Faithful) (monitor : Monitor) (plan : Plan) {reference : OverloadRef}
    (declared : reference ∈ (world.registry monitor.runtime).references) :
    plan.Settles monitor reference world (world.instrument monitor plan).2 := by
  have coherent := reachable.coherent monitor.runtime
  have rearmed := World.rearmed_instrument faithful coherent plan
  have puts : plan.puts monitor monitor.runtime reference =
      (plan.entryFor? reference).map (·.instrument monitor reference) := if_pos rfl
  unfold Plan.Settles
  cases given : plan.entryFor? reference with
  | none =>
    rw [given] at puts
    rintro callee arguments overload reaches rfl
    exact rearmed.find?_kept coherent.distinct reaches puts
  | some entry =>
    rw [given] at puts
    constructor
    · rintro callee arguments overload reaches rfl
      obtain ⟨identity, fresh, -, carries⟩ := rearmed.find?_armed coherent.distinct reaches puts
      exact ⟨_, fresh, carries, rfl, rfl, rfl, rfl, entry.performs rfl⟩
    · obtain ⟨overload, found⟩ := Registry.exists_overload? declared
      obtain ⟨identity, -, issued, carries⟩ := rearmed.armed found puts
      have reissued := World.reissued_hookedOnce (rearmed.host ▸ faithful)
        (reachable.instrument monitor plan).issued carries rfl
      exact reissued.serves_iff (reissue_biUnique issued)

/-- A plan with two entries for the same method, and one for its class. -/
def deskPlan : Plan where
  methods :=
    [{ target := "Desk.greet", argumentEdits := [.drop 0] },
      { target := "Desk.greet", backtrace := true, resultEdit := some .uppercase }]
  classes := [{ name := "Bell" }]

/-- In a class that has been swept before, the second entry for the method counts. -/
theorem last_covering_entry_counts_desk :
    ∃ world : World, world.Reachable ∧ world.host.Faithful ∧
      (world.registry 0).isHooked ⟨"Desk", "greet", ⟨["Str"]⟩⟩ ∧
      ⟨"Desk", "greet", ⟨["Str"]⟩⟩ ∈ (world.registry 0).references ∧
      deskPlan.entryFor? ⟨"Desk", "greet", ⟨["Str"]⟩⟩ =
        some (.method
          { target := "Desk.greet", backtrace := true, resultEdit := some .uppercase }) ∧
      deskPlan.Settles ⟨0, 0⟩ ⟨"Desk", "greet", ⟨["Str"]⟩⟩ world
        (world.instrument ⟨0, 0⟩ deskPlan).2 := by
  let swept : Plan := { classes := [{ name := "Desk" }] }
  have reachable := deskWorld_reachable.instrument ⟨0, 0⟩ swept
  have declared : (⟨"Desk", "greet", ⟨["Str"]⟩⟩ : OverloadRef) ∈
      ((deskWorld.instrument ⟨0, 0⟩ swept).2.registry 0).references :=
    List.mem_cons_self
  exact ⟨_, reachable, ⟨rfl, rfl, rfl⟩, rfl, declared, rfl,
    last_covering_entry_counts reachable ⟨rfl, rfl, rfl⟩ ⟨0, 0⟩ deskPlan declared⟩

end Intercept
