/-
This file says that the two ways of calling agree. A caller can name a method, or it can resolve the
class, take the first of the member's overloads that accepts the arguments, and call this overload
by its reference. The one looks for an overload, and the other looks a reference up that it has
found before; since references tell overloads apart, both come to the same overload. From there on
the calls are one and the same, whether they end or not. If there is no such class, or no overload
of the member accepts the arguments, the call by name is refused, and nothing else happens.
-/
import Intercept.Proofs.Overriding

namespace Intercept

/-! ### Selecting references -/

namespace Registry

variable {registry : Registry} {name member : String} {container : ClassRef}
  {arguments : List Value}

/-- Of the references to a member's overloads, the first that accepts arguments is that of the
overload which is selected for them. -/
theorem find?_overloadRefs (resolves : registry.resolve? name = some container) :
    ((registry.overloadRefs container member).find? fun reference =>
        reference.signature.accepts arguments) =
      (registry.select? name member arguments).map Overload.reference := by
  obtain ⟨rfl, found⟩ := slotOf?_of_resolve? resolves
  rw [overloadRefs_eq found, memberRefs_eq, List.find?_map]
  rfl

/-- Nothing is selected in a class that is not declared. -/
theorem Coherent.select?_eq_none (coherent : registry.Coherent)
    (missing : registry.resolve? name = none) :
    registry.select? name member arguments = none := by
  have unused := coherent.memberRefs_of_missing (Option.map_eq_none_iff.mp missing) member
  rw [memberRefs_eq, List.map_eq_nil_iff] at unused
  rw [select?, unused, List.find?_nil]

end Registry

/-! ### Calls that agree -/

/-- That two tasks are one and the same from a state on: any fuel runs them alike, they complete
alike, and runs from them come to the same moments. -/
structure Task.Agree (task other : Task) (runtime : RuntimeId) (state : State) : Prop where
  performed : ∀ fuel, task.perform fuel runtime state = other.perform fuel runtime state
  completed : ∀ {episodes outcome after},
    Completes runtime task state episodes outcome after ↔
      Completes runtime other state episodes outcome after
  followed : ∀ {calls observed next},
    Moment.Leads ⟨runtime, task, state, calls, observed⟩ next ↔
      Moment.Leads ⟨runtime, other, state, calls, observed⟩ next

/-- That a task raises a fault in a state, and does nothing else. -/
structure Task.Refused (task : Task) (runtime : RuntimeId) (state : State) (fault : Fault) :
    Prop where
  performed : ∀ fuel, task.perform fuel runtime state = some (.raised fault, state)
  completed : ∀ {episodes outcome after},
    Completes runtime task state episodes outcome after ↔
      episodes = [] ∧ outcome = .raised fault ∧ after = state
  followed : ∀ calls observed next, ¬ Moment.Leads ⟨runtime, task, state, calls, observed⟩ next

namespace Callee

variable {callee other : Callee} {runtime : RuntimeId} {receiver : Value} {arguments : List Value}
  {state : State} {overload : Overload}

/-- A moment at which a call arrives leads to the call of the overload that it reaches. -/
theorem leads_iff (found : callee.find? (state.world.registry runtime) arguments = some overload)
    {calls : List OpenCall} {observed : List Observation} {next : Moment} :
    Moment.Leads ⟨runtime, .dispatch callee receiver arguments, state, calls, observed⟩ next ↔
      next = ⟨runtime, .call overload receiver arguments, state, calls, observed⟩ := by
  constructor
  · rintro ⟨⟩
    next alsoFound =>
      cases found.symm.trans alsoFound
      rfl
  · rintro rfl
    exact .dispatched found

/-- Calls that reach the same overload agree. -/
theorem agree (found : callee.find? (state.world.registry runtime) arguments = some overload)
    (alsoFound : other.find? (state.world.registry runtime) arguments = some overload) :
    Task.Agree (.dispatch callee receiver arguments) (.dispatch other receiver arguments) runtime
      state where
  performed fuel := by
    rw [Task.perform, Task.perform, call_eq, call_eq, found, alsoFound]
  completed := (Completes.dispatch_iff found).trans (Completes.dispatch_iff alsoFound).symm
  followed := (leads_iff found).trans (leads_iff alsoFound).symm

/-- A call that reaches no overload is refused. -/
theorem refused (missing : callee.find? (state.world.registry runtime) arguments = none) :
    Task.Refused (.dispatch callee receiver arguments) runtime state
      (.noneAccepts callee.name arguments.length) where
  performed fuel := by
    rw [Task.perform, call_eq, missing]
  completed := by
    intro episodes outcome after
    constructor
    · intro completes
      cases completes with
      | dispatched found => cases missing.symm.trans found
      | refused => exact ⟨rfl, rfl, rfl⟩
    · rintro ⟨rfl, rfl, rfl⟩
      exact .refused missing
  followed := by
    rintro calls observed next ⟨⟩
    next found => cases missing.symm.trans found

end Callee

/-- Calling a method by its name is calling the first of its overloads that accepts the arguments;
if the class cannot be resolved, or none of them does, the call is refused. -/
theorem calls_by_name_are_calls_by_reference {state : State} (reachable : state.world.Reachable)
    (runtime : RuntimeId) (name member : String) (receiver : Value) (arguments : List Value) :
    (∀ container reference,
      (state.world.registry runtime).resolve? name = some container →
      (((state.world.registry runtime).overloadRefs container member).find? fun reference =>
        reference.signature.accepts arguments) = some reference →
      Task.Agree (.dispatch (.method name member) receiver arguments)
        (.dispatch (.exactly reference) receiver arguments) runtime state) ∧
    ((∀ container, (state.world.registry runtime).resolve? name = some container →
        ∀ reference ∈ (state.world.registry runtime).overloadRefs container member,
          ¬ reference.signature.accepts arguments) →
      Task.Refused (.dispatch (.method name member) receiver arguments) runtime state
        { className := "NoSuchMethodError"
          message := "no overload of " ++ (name ++ "." ++ member) ++ " accepts " ++
            Text.decimal arguments.length ++ " argument(s)" }) := by
  have coherent := reachable.coherent runtime
  constructor
  · intro container reference resolves first
    rw [Registry.find?_overloadRefs resolves] at first
    obtain ⟨overload, selected, rfl⟩ := Option.map_eq_some_iff.mp first
    have found : (Callee.method name member).find? _ arguments = some overload := selected
    have denoted := (Callee.method name member).overload?_of_find? coherent.distinct found
    exact Callee.agree found denoted
  · intro noneAccepts
    have missing : (Callee.method name member).find? (state.world.registry runtime) arguments =
        none := by
      cases resolves : (state.world.registry runtime).resolve? name with
      | none => exact coherent.select?_eq_none resolves
      | some container =>
        have first := List.find?_eq_none.mpr (noneAccepts container resolves)
        rw [Registry.find?_overloadRefs resolves] at first
        exact Option.map_eq_none_iff.mp first
    exact Callee.refused missing

/-- A class with overloads of one member that accept some arguments alike. -/
def logRegistry : Registry :=
  let body : Body := fun _ _ => .pure .null
  let general := (({} : Registry).declareMethod "Log" "say" ["Object"] body).2
  (general.declareMethod "Log" "say" ["String"] body).2

/-- The process with this class. -/
def logWorld : World :=
  { registries := [logRegistry] }

theorem logWorld_reachable : logWorld.Reachable := by
  let start : World := (State.initial {} 1).world
  let body : Body := fun _ _ => .pure .null
  let general : World :=
    { registries := [(({} : Registry).declareMethod "Log" "say" ["Object"] body).2] }
  have declares : (start.registry 0).Extends (general.registry 0) :=
    .declareMethod "Log" "say" ["Object"] body
  have again : (general.registry 0).Extends logRegistry :=
    .declareMethod "Log" "say" ["String"] body
  have first : start.Becomes general := .tail .refl (.declared declares)
  exact ⟨{}, 1, .tail first (.declared again)⟩

/-- In a class that is swept, two overloads accept the null reference, and the first is called; none
accepts a truth value, and another class is not declared. -/
theorem calls_by_name_are_calls_by_reference_log :
    ∃ state : State,
      state.world = (logWorld.instrument ⟨0, 0⟩ { classes := [{ name := "Log" }] }).2 ∧
      state.world.Reachable ∧
      Task.Agree (.dispatch (.method "Log" "say") .null [.null])
        (.dispatch (.exactly ⟨"Log", "say", ⟨["Object"]⟩⟩) .null [.null]) 0 state ∧
      Task.Refused (.dispatch (.method "Log" "say") .null [.bool true]) 0 state
        ⟨"NoSuchMethodError", "no overload of Log.say accepts 1 argument(s)"⟩ ∧
      Task.Refused (.dispatch (.method "Blog" "say") .null []) 0 state
        ⟨"NoSuchMethodError", "no overload of Blog.say accepts 0 argument(s)"⟩ := by
  let plan : Plan := { classes := [{ name := "Log" }] }
  let state : State := { world := (logWorld.instrument ⟨0, 0⟩ plan).2 }
  have reachable : state.world.Reachable := logWorld_reachable.instrument ⟨0, 0⟩ plan
  have calls := calls_by_name_are_calls_by_reference reachable 0
  refine ⟨state, rfl, reachable, (calls "Log" "say" .null [.null]).1 _ _ rfl rfl,
    (calls "Log" "say" .null [.bool true]).2 ?_, (calls "Blog" "say" .null []).2 nofun⟩
  intro container resolves reference isReference
  cases resolves
  revert reference
  decide

end Intercept
