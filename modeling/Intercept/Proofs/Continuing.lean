/-
This file says that calls which are dispatched to an overload are dispatched to it ever after.
Several overloads of a member may accept the same arguments, and then the one that was declared
first is called. Whatever is done to a process from outside, what is declared later comes behind
what has been declared already, so calls that have gone somewhere are not taken over. Hooks, sweeps,
probes and plans declare nothing, so they do not even change which calls are refused.
-/
import Intercept.Proofs.Independence
import Intercept.Proofs.Selection

namespace Intercept

/-! ### Interventions -/

/-- Something that is done to a process from outside: an operation, a probe or a whole plan. -/
inductive Intervention where
  | operation (operation : Operation)
  /-- Attaches a probe to an exported symbol. -/
  | probe (emitter : EmitterId) (modulePath symbol : String) (probe : Boundary.Probe)
  | plan (monitor : Monitor) (plan : Plan)

namespace Intervention

/-- That an intervention only instruments: it declares nothing, and it calls nothing. -/
def Instruments : Intervention → Prop
  | .operation (.declareClass ..) => False
  | .operation (.declareMember ..) => False
  | .operation (.declareMethod ..) => False
  | .operation (.call ..) => False
  | _ => True

/-- That an intervention leads from a state to another one, whether it succeeds or fails. -/
inductive Leads : Intervention → State → State → Prop where
  | operation {operation : Operation} {installed : List Installation} {state after : State}
      (leads : operation.Leads state installed after) : Leads (.operation operation) state after
  | probe {emitter : EmitterId} {modulePath symbol : String} {probe : Boundary.Probe}
      {state : State} :
      Leads (.probe emitter modulePath symbol probe) state
        { state with world := (state.world.probeSymbol emitter modulePath symbol probe).2 }
  | plan {monitor : Monitor} {plan : Plan} {state : State} :
      Leads (.plan monitor plan) state
        { state with world := (state.world.instrument monitor plan).2 }

variable {intervention : Intervention} {state after : State}

/-- Whatever is done to a process is done by single changes. -/
theorem Leads.becomes (leads : intervention.Leads state after) :
    state.world.Becomes after.world := by
  cases leads with
  | operation leads => exact leads.becomes .refl
  | probe => exact .single (.aside (World.probeSymbol_beside _ _ _ _ _))
  | plan => exact World.becomes_instrument _ _ _

/-- Instrumenting changes nothing that is declared. -/
theorem Leads.sameSetting (leads : intervention.Leads state after)
    (instruments : intervention.Instruments) : state.world.SameSetting after.world := by
  have byHooking := World.SameSetting.byHooking state.world
  cases leads with
  | operation leads =>
    cases leads with
    | declareClass | declareMember | declareMethod | call => cases instruments
    | install => exact (byHooking _ _).installHook [] _ _ (.refl _)
    | hookTarget => exact (byHooking _ _).hookTarget _ [] (.refl _)
    | sweepClass => exact World.sweepClass_kept (byHooking _ _) _ [] (.refl _)
  | @probe emitter modulePath symbol probe =>
    have beside := state.world.probeSymbol_beside emitter modulePath symbol probe
    exact ⟨.of_registries beside.registries, beside.host⟩
  | @plan monitor plan =>
    obtain ⟨effects, decomposes⟩ := state.world.exists_decomposes monitor
    rw [decomposes.applies (.refl _) plan]
    exact (World.SameSetting.refl _).performAll _

end Intervention

/-- That permitted interventions, one after another, lead from a state to another one. -/
def State.Continues (permitted : Intervention → Prop) : State → State → Prop :=
  Relation.ReflTransGen fun state after =>
    ∃ intervention, permitted intervention ∧ intervention.Leads state after

namespace State.Continues

variable {permitted : Intervention → Prop} {state after : State}

theorem becomes (continues : state.Continues permitted after) :
    state.world.Becomes after.world := by
  induction continues with
  | refl => exact .refl
  | tail _ step inductionHypothesis =>
    obtain ⟨_, -, leads⟩ := step
    exact inductionHypothesis.trans leads.becomes

theorem sameSetting (continues : state.Continues Intervention.Instruments after) :
    state.world.SameSetting after.world := by
  induction continues with
  | refl => exact .refl _
  | tail _ step inductionHypothesis =>
    obtain ⟨_, instruments, leads⟩ := step
    exact inductionHypothesis.trans (leads.sameSetting instruments)

end State.Continues

/-! ### Dispatching -/

/-- That calls of a method with some arguments are dispatched to an overload, which is declared with
some body: on whatever thread, they are calls of what carries this reference. -/
def World.Dispatches (world : World) (runtime : RuntimeId) (name member : String)
    (arguments : List Value) (reference : OverloadRef) (declaredBody : Body) : Prop :=
  ∃ overload : Overload,
    (world.registry runtime).select? name member arguments = some overload ∧
    overload.reference = reference ∧ overload.declaredBody = declaredBody ∧
    ∀ runner receiver thread,
      dispatch runner runtime name member receiver arguments ⟨world, thread⟩ =
        overload.call runner runtime receiver arguments ⟨world, thread⟩

/-- To which overload calls are dispatched is told by what is declared. -/
theorem World.dispatches_iff {world : World} {runtime : RuntimeId} {name member : String}
    {arguments : List Value} {reference : OverloadRef} {declaredBody : Body} :
    world.Dispatches runtime name member arguments reference declaredBody ↔
      (world.registry runtime).declarations.find?
          ((Callee.method name member).accepts arguments ∘ Prod.fst) =
        some (reference, declaredBody) := by
  have asked := (Callee.method name member).find?_declared (world.registry runtime) arguments
  rw [← asked, Option.map_eq_some_iff]
  constructor
  · rintro ⟨overload, selected, rfl, rfl, -⟩
    exact ⟨overload, selected, rfl⟩
  · rintro ⟨overload, selected, same⟩
    cases same
    refine ⟨overload, selected, rfl, rfl, fun runner receiver thread => ?_⟩
    rw [dispatch, show (world.registry runtime).select? name member arguments = some overload
      from selected]

/-- What is done to a process later leaves calls with the overload to which they are dispatched, and
what only instruments does not bring others there either. -/
theorem selection_is_stable {state after : State} (runtime : RuntimeId) (name member : String)
    (arguments : List Value) (reference : OverloadRef) (declaredBody : Body) :
    (state.Continues (fun _ => True) after →
      state.world.Dispatches runtime name member arguments reference declaredBody →
        after.world.Dispatches runtime name member arguments reference declaredBody) ∧
    (state.Continues Intervention.Instruments after →
      (after.world.Dispatches runtime name member arguments reference declaredBody ↔
        state.world.Dispatches runtime name member arguments reference declaredBody)) := by
  simp only [World.dispatches_iff]
  constructor
  · intro continues dispatched
    obtain ⟨later, appended⟩ := continues.becomes.declarations runtime
    rw [← appended, List.find?_append, dispatched, Option.some_or]
  · intro continues
    rw [continues.sameSetting.declarations]

/-- Two overloads accept the null reference. Calls with it stay with the first of them after a sweep
of the class, and after a third one has been declared. -/
theorem selection_is_stable_log :
    ∃ swept after : State,
      State.Continues Intervention.Instruments { world := logWorld } swept ∧
      swept.Continues (fun _ => True) after ∧
      (after.world.registry 0).references =
        [⟨"Log", "say", ⟨["Object"]⟩⟩, ⟨"Log", "say", ⟨["String"]⟩⟩, ⟨"Log", "say", ⟨["Log"]⟩⟩] ∧
      swept.world.Dispatches 0 "Log" "say" [.null] ⟨"Log", "say", ⟨["Object"]⟩⟩
        (fun _ _ => .pure .null) ∧
      after.world.Dispatches 0 "Log" "say" [.null] ⟨"Log", "say", ⟨["Object"]⟩⟩
        (fun _ _ => .pure .null) := by
  let plan : Plan := { classes := [{ name := "Log" }, { name := "Blog" }] }
  let swept : State := { world := (logWorld.instrument ⟨0, 0⟩ plan).2 }
  let declare : Operation := .declareMethod 0 "Log" "say" ["Log"] fun _ _ => .pure .void
  have sweeps : State.Continues Intervention.Instruments { world := logWorld } swept :=
    .single ⟨.plan ⟨0, 0⟩ plan, trivial, .plan⟩
  have declares : swept.Continues (fun _ => True) _ :=
    .single ⟨.operation declare, trivial, .operation .declareMethod⟩
  have dispatched : swept.world.Dispatches 0 "Log" "say" [.null] ⟨"Log", "say", ⟨["Object"]⟩⟩
      (fun _ _ => .pure .null) :=
    ((selection_is_stable _ _ _ _ _ _).2 sweeps).mpr ⟨_, rfl, rfl, rfl, fun _ _ _ => rfl⟩
  exact ⟨swept, _, sweeps, declares, rfl, dispatched,
    (selection_is_stable _ _ _ _ _ _).1 declares dispatched⟩

end Intercept
