/-
This file says what runs keep. A run changes the world by declarations, by installations, and
by what it emits and counts, so a property of worlds that these three keep is kept by every run;
a property that installations do not keep is still kept by runs that install nothing. Two
things are kept by every run: the stacks of its thread, and that every installed body is a
tracer over the declared body.
-/
import Intercept.Proofs.Hooking
import Intercept.Proofs.Quiet

namespace Intercept

/-! ### Properties of worlds -/

/-- That a property is kept by what runs do to a world. Where runs may not install hooks, no
call may do so either. -/
structure Kept (installs : Prop) (property : World → Prop) : Prop where
  quiet : ∀ {world}, property world → installs ∨ world.Quiet
  aside : ∀ {world other}, property world → other.registries = world.registries →
    other.nextTracer = world.nextTracer → other.boundary = world.boundary → property other
  crossed : ∀ {world address probe crossing boundary},
    world.boundary.probeAt? address = some probe →
      world.boundary.beginCrossing = (crossing, boundary) →
        property world → property { world with boundary }
  declared : ∀ {world runtime registry},
    (world.registry runtime).Declares (fun body => installs ∨ Body.Quiet body) registry →
      property world → property (world.setRegistry runtime registry)
  hooked : ∀ {world monitor reference overload path hook}, installs →
    (world.registry monitor.runtime).overload? reference = some overload →
      property world → property (world.hooked monitor overload path hook)
  refused : ∀ {world}, installs → property world →
    property { world with nextTracer := world.nextTracer + 1 }

namespace Kept

variable {installs : Prop} {property : World → Prop}

theorem byHooking (kept : Kept installs property) (allowed : installs) (monitor : Monitor)
    (hook : Hook) : KeptByHooking monitor hook fun _ world => property world where
  hooked := kept.hooked allowed
  refused := kept.refused allowed
  diagnosed := fun holds => kept.aside holds rfl rfl rfl

theorem emitAll (kept : Kept installs property) {world : World} (emitter : EmitterId)
    (events : List Event) (holds : property world) :
    property (world.emitAll emitter events) := by
  rw [World.emitAll_eq]
  exact kept.aside holds rfl rfl rfl

end Kept

/-- What a procedure and all calls keep is kept by a run. -/
theorem Completes.keeps {installs : Prop} {property : World → Prop}
    (kept : Kept installs property) {runtime : RuntimeId} {task : Task} {state after : State}
    {episodes : List Episode} {outcome : Outcome}
    (completes : Completes runtime task state episodes outcome after)
    (confined : installs ∨ task.Quiet) (holds : property state.world) :
    property after.world := by
  induction completes with
  | finish | refused => exact holds
  | call _ _ called rest =>
    refine rest (confined.imp id fun quiet => ?_) (called (.inr trivial) holds)
    cases quiet with
    | call quietRest => exact quietRest _
  | frames _ rest =>
    refine rest (confined.imp id fun quiet => ?_) holds
    cases quiet with
    | frames quietRest => exact quietRest _
  | spawn _ _ worked rest =>
    refine rest (confined.imp id fun quiet => ?_)
      (worked (confined.imp id fun quiet => ?_) holds)
    · cases quiet with
      | spawn _ quietRest => exact quietRest _
    · cases quiet with
      | spawn quietWork _ => exact quietWork
  | hook _ rest =>
    rcases confined with allowed | quiet
    · exact rest (.inl allowed) ((kept.byHooking allowed _ _).hookTarget _ [] holds)
    · cases quiet
  | install _ rest =>
    rcases confined with allowed | quiet
    · exact rest (.inl allowed) ((kept.byHooking allowed _ _).installHook [] _ _ holds)
    · cases quiet
  | define _ rest =>
    refine rest (confined.imp id fun quiet => ?_)
      (kept.declared (Registry.declareMethod_declares _ _ _ _
        (confined.imp id fun quiet => ?_)) holds)
    · cases quiet with
      | define _ quietRest => exact quietRest _
    · cases quiet with
      | define quietBody _ => exact quietBody
  | nativeUnprobed _ _ _ called rest =>
    refine rest (confined.imp id fun quiet => ?_)
      (called (confined.imp id fun quiet => ?_) holds)
    · cases quiet with
      | native _ quietRest => exact quietRest _
    · cases quiet with
      | native quietCallee _ => exact quietCallee
  | nativeProbed probed begun _ _ _ called rest =>
    refine rest (confined.imp id fun quiet => ?_) (kept.emitAll _ _
      (called (confined.imp id fun quiet => ?_) (kept.emitAll _ _ (kept.crossed probed begun holds))))
    · cases quiet with
      | native _ quietRest => exact quietRest _
    · cases quiet with
      | native quietCallee _ => exact quietCallee
  | @dispatched _ callee _ _ overload _ _ _ _ found _ called =>
    refine called ((kept.quiet holds).imp id fun quiet => ?_) holds
    exact (quiet _ overload (callee.mem_of_find? found)).bodyInForce
  | plain force _ ran =>
    refine ran (confined.imp id fun quiet => ?_) holds
    rw [Task.Quiet, force] at quiet
    exact quiet _ _
  | straight force _ _ ran =>
    refine ran (confined.imp id fun quiet => ?_) holds
    rw [Task.Quiet, force] at quiet
    exact quiet.declaredBody _ _
  | traced force _ _ _ _ _ rewrote forwarded delivered =>
    have quietTracer : installs ∨ Tracer.Quiet _ := confined.imp id fun quiet => by
      rw [Task.Quiet, force] at quiet
      exact quiet
    have entered := rewrote (quietTracer.imp id fun quiet => quiet.rewriting _) holds
    have left := forwarded (quietTracer.imp id fun quiet => quiet.declaredBody _ _)
      (kept.emitAll _ _ entered)
    have settled := delivered (quietTracer.imp id fun quiet => quiet.settling _) left
    exact kept.aside settled rfl rfl rfl

/-! ### Installed bodies -/

/-- That references are distinct in every runtime, and that whatever is installed over an
overload is a tracer that forwards to the declared body of the same overload. -/
structure World.Pristine (world : World) : Prop where
  distinct : ∀ runtime, (world.registry runtime).Distinct
  wraps : ∀ runtime, ∀ overload ∈ (world.registry runtime).overloads,
    ∀ body ∈ overload.installed, ∃ tracer,
      body = .traced tracer ∧ tracer.declaredBody = overload.declaredBody

/-- No run and no installation ever puts a tracer over another tracer. -/
theorem World.Pristine.kept : Kept True World.Pristine where
  quiet _ := .inl trivial
  aside holds same _ _ :=
    ⟨World.registry_congr same ▸ holds.distinct, World.registry_congr same ▸ holds.wraps⟩
  crossed _ _ holds := ⟨holds.distinct, holds.wraps⟩
  declared := by
    intro world runtime registry declares holds
    constructor
    · intro reader
      rcases world.registry_setRegistry_cases runtime reader registry with
        reads | ⟨rfl, reads⟩ <;> rw [reads]
      · exact holds.distinct reader
      · exact declares.distinct (holds.distinct reader)
    · intro reader overload member body installed
      rcases World.mem_declared declares member with before | ⟨_, _, -, -, rfl⟩
      · exact holds.wraps reader overload before body installed
      · cases installed
  hooked := by
    intro world monitor reference overload path hook _ found holds
    constructor
    · intro reader
      by_cases same : reader = monitor.runtime
      · subst same
        rw [World.registry_hooked_self found]
        exact (holds.distinct _).putBody _ _
      · rw [World.registry_hooked_other same]
        exact holds.distinct reader
    · intro reader after member body installed
      rcases World.mem_hooked (holds.distinct _) found member with ⟨before, -⟩ | ⟨rfl, rfl⟩
      · exact holds.wraps reader after before body installed
      · cases installed
        exact ⟨_, rfl, rfl⟩
  refused _ holds := ⟨holds.distinct, holds.wraps⟩

theorem World.pristine_initial {world : World} (empty : ∀ runtime, world.registry runtime = {}) :
    world.Pristine where
  distinct runtime := by
    rw [empty runtime]
    exact List.nodup_nil
  wraps runtime overload member := by
    rw [empty runtime] at member
    cases member

/-- Runs do not change which runtimes there are. -/
theorem World.runtimes_kept (runtimes : Nat) :
    Kept True fun world => world.registries.length = runtimes where
  quiet _ := .inl trivial
  aside holds same _ _ := (congrArg List.length same).trans holds
  crossed _ _ holds := holds
  declared _ holds := List.length_set.trans holds
  hooked _ _ holds := List.length_set.trans holds
  refused _ holds := holds

/-- Where nothing is probed, nothing is counted. -/
theorem World.unprobed_kept : Kept True fun world => world.boundary = {} where
  quiet _ := .inl trivial
  aside holds _ _ same := same.trans holds
  crossed := by
    intro world address probe crossing boundary probed _ holds
    rw [holds] at probed
    cases probed
  declared _ holds := holds
  hooked _ _ holds := holds
  refused _ holds := holds

/-! ### The stacks of a thread -/

/-- A run leaves the stacks of its thread as it found them, whatever its outcome. -/
theorem Completes.thread {runtime : RuntimeId} {task : Task} {state after : State}
    {episodes : List Episode} {outcome : Outcome}
    (completes : Completes runtime task state episodes outcome after) :
    after.thread = state.thread := by
  induction completes with
  | finish | refused => rfl
  | call _ _ called rest | nativeUnprobed _ _ _ called rest => exact rest.trans called
  | frames _ rest | hook _ rest | install _ rest | define _ rest => exact rest
  | spawn _ _ _ rest => exact rest
  | nativeProbed _ _ _ _ _ called rest => exact rest.trans called
  | dispatched _ _ called => exact called
  | plain _ _ ran | straight _ _ _ ran => rw [State.popFrame, ran, State.pushFrame, List.tail_cons]
  | traced _ _ _ _ _ _ rewrote forwarded delivered =>
    rw [State.popFrame, State.emit, delivered, State.endForward, forwarded, State.beginForward,
      State.emitAll, rewrote, State.pushFrame, List.tail_cons, List.tail_cons]

end Intercept
