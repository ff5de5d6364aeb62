/-
This file says when the edits of a plan take effect. A tracer with the hook of an entry forwards
and delivers what the entry says, so a call through it ends as the declared body ends on the
forwarded arguments. The last method entry for a target is in force for its overloads as long as
no entry sweeps their class. If one does, the sweep comes later and only traces, so the
edits are lost: arguments and results pass as they are.
-/
import Intercept.Proofs.PlanInForce

namespace Intercept

/-! ### Targets -/

theorem Text.append_of_splitLast? {separator : Char} {text before after : List Char}
    (split : splitLast? separator text = some (before, after)) :
    before ++ separator :: after = text := by
  induction text generalizing before with
  | nil => cases split
  | cons head tail inductionHypothesis =>
    rw [splitLast?] at split
    split at split
    · next inner _ isSplit =>
      cases split
      rw [List.cons_append, inductionHypothesis isSplit]
    · obtain ⟨rfl, same⟩ := Option.ite_none_right_eq_some.mp split
      cases same
      rfl

/-- A name that can be read is the dotted name of what it names. -/
theorem Target.dottedName_of_parse {name : String} {target : Target}
    (parses : parse name = .ok target) : target.dottedName = name := by
  unfold parse at parses
  split at parses
  · next container member split =>
    split at parses
    · cases parses
    · cases parses
      refine String.toList_inj.mp ?_
      simp only [dottedName, String.toList_append, String.toList_ofList, List.append_assoc,
        ← Text.append_of_splitLast? split]
      rfl
  · cases parses

/-! ### The entry for an overload -/

namespace Plan

variable {plan : Plan} {reference : OverloadRef} {before later : List MethodRule}
  {rule : MethodRule}

theorem Entry.covers_method_iff {rule : MethodRule} :
    (Entry.method rule).covers reference ↔
      Target.parse rule.target = .ok ⟨reference.container, reference.member⟩ := by
  rw [Entry.covers]
  cases Target.parse rule.target with
  | error failure => simp only [Bool.false_eq_true, reduceCtorEq]
  | ok target => rw [decide_eq_true_eq, Except.ok.injEq]

/-- An entry that sweeps the class of an overload is the one in force for it. -/
theorem entryFor?_swept {sweep : SweepRule} (isEntry : sweep ∈ plan.classes)
    (sweeps : sweep.name = reference.container) :
    ∃ last : SweepRule, plan.entryFor? reference = some (.sweep last) := by
  have nonempty : (plan.classes.map Entry.sweep).filter (·.covers reference) ≠ [] :=
    List.ne_nil_of_mem
      (List.mem_filter.mpr ⟨List.mem_map_of_mem isEntry, decide_eq_true sweeps⟩)
  obtain ⟨last, -, isLast⟩ :=
    List.mem_map.mp (List.mem_of_mem_filter (List.getLast_mem nonempty))
  refine ⟨last, ?_⟩
  rw [entryFor?, entries, List.filter_append, List.getLast?_append,
    List.getLast?_eq_some_getLast nonempty, Option.some_or, isLast]

/-- Where no entry sweeps the class of an overload, the last entry for its member is in force. -/
theorem entryFor?_method (split : plan.methods = before ++ rule :: later)
    (names : Target.parse rule.target = .ok ⟨reference.container, reference.member⟩)
    (isLast : ∀ other ∈ later, other.target ≠ rule.target)
    (unswept : ∀ sweep ∈ plan.classes, sweep.name ≠ reference.container) :
    plan.entryFor? reference = some (.method rule) := by
  have noSweep : (plan.classes.map Entry.sweep).filter (·.covers reference) = [] := by
    refine List.filter_eq_nil_iff.mpr fun entry isEntry covers => ?_
    obtain ⟨sweep, isSweep, rfl⟩ := List.mem_map.mp isEntry
    exact unswept sweep isSweep (of_decide_eq_true covers)
  have noMethod : (later.map Entry.method).filter (·.covers reference) = [] := by
    refine List.filter_eq_nil_iff.mpr fun entry isEntry covers => ?_
    obtain ⟨other, isOther, rfl⟩ := List.mem_map.mp isEntry
    have otherNames := Entry.covers_method_iff.mp covers
    exact isLast other isOther ((Target.dottedName_of_parse otherNames).symm.trans
      (Target.dottedName_of_parse names))
  rw [entryFor?, entries, List.filter_append, noSweep, List.append_nil, split, List.map_append,
    List.filter_append, List.map_cons, List.filter_cons, noMethod,
    if_pos (Entry.covers_method_iff.mpr names), List.getLast?_append, List.getLast?_singleton,
    Option.some_or]

end Plan

/-! ### Calls through the tracers of entries -/

/-- An outcome with its value changed, if it has one. -/
def Outcome.mapValue (change : Value → Value) : Outcome → Outcome
  | .returned value => .returned (change value)
  | .raised fault => .raised fault

/-- The state in which a tracer forwards arguments of a call. -/
def Tracer.entering (tracer : Tracer) (key : String) (arguments forwarded : List Value)
    (state : State) : State :=
  let called := state.pushFrame key
  (called.emitAll tracer.emitter
    (tracer.entryEvents arguments forwarded tracer.hook.transformArguments.isSome
      called.thread.frames)).beginForward tracer.identity

/-- That calls through a tracer that is not yet forwarding forward arguments and deliver values
as two functions say: such a call completes with an outcome exactly if the declared body, run on
the forwarded arguments, completes with one that is delivered as this outcome. -/
def Tracer.Rewrites (tracer : Tracer) (forwards : List Value → List Value)
    (settles : Value → Value) : Prop :=
  ∀ {runtime : RuntimeId} {overload : Overload} {receiver : Value} {arguments : List Value}
    {state : State} {outcome : Outcome}, overload.bodyInForce = .traced tracer →
      tracer.identity ∉ state.thread.forwarding →
        ((∃ episodes after,
            Completes runtime (.call overload receiver arguments) state episodes outcome after) ↔
          ∃ episodes answer left,
            Completes runtime (.procedure (tracer.declaredBody receiver (forwards arguments)))
              (tracer.entering overload.reference.key arguments (forwards arguments) state)
              episodes answer left ∧
            outcome = answer.mapValue settles)

theorem Plan.Entry.rewriting_eq (entry : Entry) {tracer : Tracer}
    (same : tracer.hook = entry.hook) (arguments : List Value) :
    tracer.rewriting arguments = .finish (.returned (.list (entry.forwards arguments))) := by
  rw [Tracer.rewriting, same]
  cases entry with
  | sweep rule => rfl
  | method rule =>
    obtain ⟨target, backtrace, edits, edit⟩ := rule
    cases edits <;> cases edit <;> rfl

theorem Plan.Entry.settling_eq (entry : Entry) {tracer : Tracer}
    (same : tracer.hook = entry.hook) (answer : Outcome) :
    tracer.settling answer = .finish (answer.mapValue entry.settles) := by
  cases answer with
  | raised fault => rfl
  | returned value =>
    rw [Tracer.settling, same]
    cases entry with
    | sweep rule => rfl
    | method rule =>
      obtain ⟨target, backtrace, edits, edit⟩ := rule
      cases edits <;> cases edit <;> rfl

/-- A tracer with the hook of an entry rewrites what the entry says. -/
theorem Plan.Entry.rewrites (entry : Entry) {tracer : Tracer} (same : tracer.hook = entry.hook) :
    tracer.Rewrites entry.forwards entry.settles := by
  intro runtime overload receiver arguments state outcome force idle
  constructor
  · rintro ⟨episodes, after, completes⟩
    cases completes with
    | plain plain => cases force.symm.trans plain
    | straight traced busy =>
      cases force.symm.trans traced
      exact absurd busy idle
    | @traced _ _ _ _ _ _ answer _ _ _ _ _ _ _ _ _ traced _ isPassage rewrote forwarded
        delivered =>
      cases force.symm.trans traced
      rw [entry.rewriting_eq same] at rewrote
      rw [entry.settling_eq same] at delivered
      cases rewrote
      cases delivered
      subst isPassage
      refine ⟨_, answer, _, forwarded, ?_⟩
      cases answer <;> rfl
  · rintro ⟨episodes, answer, left, completes, rfl⟩
    have rewrote : Completes runtime (.procedure (tracer.rewriting arguments))
        (state.pushFrame overload.reference.key) []
        (.returned (.list (entry.forwards arguments))) (state.pushFrame overload.reference.key) :=
      entry.rewriting_eq same arguments ▸ .finish
    have delivered : Completes runtime (.procedure (tracer.settling answer)) left.endForward []
        (answer.mapValue entry.settles) left.endForward := entry.settling_eq same answer ▸ .finish
    have traced := Completes.traced force idle rfl rewrote completes delivered
    have result : ∀ forwarded frames,
        (⟨tracer, forwarded, frames, answer, answer.mapValue entry.settles⟩ : Passage).result =
          answer.mapValue entry.settles := by
      intro _ _
      cases answer <;> rfl
    rw [result] at traced
    exact ⟨_, _, traced⟩

/-! ### Edits in force -/

/-- That calls of an overload from outside forward arguments and deliver values as two functions
say. -/
def World.Rewrites (world : World) (runtime : RuntimeId) (reference : OverloadRef)
    (forwards : List Value → List Value) (settles : Value → Value) : Prop :=
  ∀ (callee : Callee) (receiver : Value) (arguments : List Value) (overload : Overload),
    callee.find? (world.registry runtime) arguments = some overload →
      overload.reference = reference →
        ∃ tracer, overload.bodyInForce = .traced tracer ∧
          ∀ outcome,
            (∃ episodes after, Completes runtime (.dispatch callee receiver arguments) { world }
              episodes outcome after) ↔
            ∃ episodes answer left,
              Completes runtime (.procedure (overload.declaredBody receiver (forwards arguments)))
                (tracer.entering reference.key arguments (forwards arguments) { world })
                episodes answer left ∧
              outcome = answer.mapValue settles

/-- A call that reaches an overload completes as the call of this overload does. -/
theorem Completes.dispatch_iff {runtime : RuntimeId} {callee : Callee} {receiver : Value}
    {arguments : List Value} {state after : State} {overload : Overload} {episodes : List Episode}
    {outcome : Outcome}
    (found : callee.find? (state.world.registry runtime) arguments = some overload) :
    Completes runtime (.dispatch callee receiver arguments) state episodes outcome after ↔
      Completes runtime (.call overload receiver arguments) state episodes outcome after := by
  refine ⟨fun completes => ?_, .dispatched found⟩
  cases completes with
  | dispatched alsoFound called =>
    cases found.symm.trans alsoFound
    exact called
  | refused missing => cases found.symm.trans missing

/-- An overload under a tracer with the hook of an entry is rewritten as the entry says. -/
theorem World.Rewrites.of_tracer {world : World} {runtime : RuntimeId} {reference : OverloadRef}
    {overload : Overload} {tracer : Tracer} {entry : Plan.Entry}
    (distinct : (world.registry runtime).Distinct)
    (carries : (world.registry runtime).overload? reference = some overload)
    (force : overload.bodyInForce = .traced tracer)
    (wraps : tracer.declaredBody = overload.declaredBody) (same : tracer.hook = entry.hook) :
    world.Rewrites runtime reference entry.forwards entry.settles := by
  rintro callee receiver arguments reached reaches rfl
  have isReached := callee.overload?_of_find? distinct reaches
  obtain rfl := Option.some.inj (isReached.symm.trans carries)
  refine ⟨tracer, force, fun outcome => ?_⟩
  have found : callee.find? (({ world } : State).world.registry runtime) arguments =
    some reached := reaches
  simp only [Completes.dispatch_iff found]
  rw [← wraps]
  exact entry.rewrites same force List.not_mem_nil

/-- Right after a plan, and later for as long as the overload is not hooked again, calls of an
overload are rewritten as the entry in force for it says. -/
theorem Plan.rewrites_of_entryFor? {world current : World} (reachable : world.Reachable)
    (faithful : world.host.Faithful) {monitor : Monitor} {plan : Plan} {reference : OverloadRef}
    (declared : reference ∈ (world.registry monitor.runtime).references) {entry : Entry}
    (isEntry : plan.entryFor? reference = some entry) (reached : current.Reachable)
    (unchanged : (current.registry monitor.runtime).overload? reference =
      ((world.instrument monitor plan).2.registry monitor.runtime).overload? reference) :
    current.Rewrites monitor.runtime reference entry.forwards entry.settles := by
  obtain ⟨overload, found⟩ := Registry.exists_overload? declared
  have puts : plan.puts monitor monitor.runtime reference =
      some (entry.instrument monitor reference) := by
    rw [puts, if_pos rfl, isEntry, Option.map_some]
  obtain ⟨identity, -, -, carries⟩ :=
    (World.rearmed_instrument faithful (reachable.coherent _) plan).armed found puts
  exact .of_tracer (reached.coherent _).distinct (unchanged.trans carries) rfl rfl rfl

/-- The edits of the last method entry for a target take effect on calls of the target's overloads
exactly as long as no entry sweeps the class. If one does, arguments and results pass as they are.
This holds right after the plan, and later for as long as the overload is not hooked again. -/
theorem method_edits_take_effect_unless_swept {world : World} (reachable : world.Reachable)
    (faithful : world.host.Faithful) (monitor : Monitor) {plan : Plan}
    {before later : List Plan.MethodRule} {rule : Plan.MethodRule}
    (split : plan.methods = before ++ rule :: later) {reference : OverloadRef}
    (names : Target.parse rule.target = .ok ⟨reference.container, reference.member⟩)
    (declared : reference ∈ (world.registry monitor.runtime).references)
    (isLast : ∀ other ∈ later, other.target ≠ rule.target) {current : World}
    (reached : current.Reachable)
    (unchanged : (current.registry monitor.runtime).overload? reference =
      ((world.instrument monitor plan).2.registry monitor.runtime).overload? reference) :
    ((∀ sweep ∈ plan.classes, sweep.name ≠ reference.container) →
      current.Rewrites monitor.runtime reference (Plan.Entry.method rule).forwards
        (Plan.Entry.method rule).settles) ∧
    ((∃ sweep ∈ plan.classes, sweep.name = reference.container) →
      current.Rewrites monitor.runtime reference id id) := by
  have inForce {entry : Plan.Entry} (isEntry : plan.entryFor? reference = some entry) :
      current.Rewrites monitor.runtime reference entry.forwards entry.settles :=
    plan.rewrites_of_entryFor? reachable faithful declared isEntry reached unchanged
  refine ⟨fun unswept => inForce (Plan.entryFor?_method split names isLast unswept), ?_⟩
  rintro ⟨sweep, isEntry, sweeps⟩
  obtain ⟨last, isLast⟩ := Plan.entryFor?_swept isEntry sweeps
  exact inForce isLast

/-- A class whose method answers the list of its arguments. -/
def greeterRegistry : Registry :=
  (({} : Registry).declareMethod "pkg.Greeter" "greet" ["String"]
    fun _ arguments => .finish (.returned (.list arguments))).2

/-- The process with this class. -/
def greeterWorld : World :=
  { registries := [greeterRegistry] }

theorem greeterWorld_reachable : greeterWorld.Reachable :=
  let start : World := (State.initial {} 1).world
  have extend : (start.registry 0).Extends greeterRegistry :=
    .declareMethod "pkg.Greeter" "greet" ["String"] _
  ⟨{}, 1, .tail .refl (.declared extend)⟩

/-- An entry that puts another name in and a text that is answered into upper case. -/
def greeterRule : Plan.MethodRule where
  target := "pkg.Greeter.greet"
  backtrace := true
  argumentEdits := [.set 0 (.string "Bob")]
  resultEdit := some .uppercase

/-- The documented plan, in which the class of the method is swept as well. -/
def greeterPlan : Plan where
  methods := [greeterRule]
  classes := [{ name := "pkg.Greeter" }]

/-- Under the documented plan, the argument and the answer pass as they are. -/
theorem swept_class_loses_edits :
    greeterWorld.Reachable ∧ greeterWorld.host.Faithful ∧
      greeterPlan.methods = [] ++ greeterRule :: [] ∧
      Target.parse greeterRule.target = .ok ⟨"pkg.Greeter", "greet"⟩ ∧
      ⟨"pkg.Greeter", "greet", ⟨["String"]⟩⟩ ∈ (greeterWorld.registry 0).references ∧
      (∃ episodes after, Completes 0
        (.dispatch (.method "pkg.Greeter" "greet") .null [.str "Ann"])
        { world := (greeterWorld.instrument ⟨0, 0⟩ greeterPlan).2 } episodes
        (.returned (.list [.str "Ann"])) after) ∧
      ¬ (greeterWorld.instrument ⟨0, 0⟩ greeterPlan).2.Rewrites 0
        ⟨"pkg.Greeter", "greet", ⟨["String"]⟩⟩ (Plan.Entry.method greeterRule).forwards
        (Plan.Entry.method greeterRule).settles := by
  have faithful : greeterWorld.host.Faithful := ⟨rfl, rfl, rfl⟩
  have declared : (⟨"pkg.Greeter", "greet", ⟨["String"]⟩⟩ : OverloadRef) ∈
      (greeterWorld.registry 0).references := List.mem_cons_self
  have sweeps : greeterPlan.entryFor? ⟨"pkg.Greeter", "greet", ⟨["String"]⟩⟩ =
      some (.sweep { name := "pkg.Greeter" }) := rfl
  have passes : (greeterWorld.instrument ⟨0, 0⟩ greeterPlan).2.Rewrites 0
      ⟨"pkg.Greeter", "greet", ⟨["String"]⟩⟩ id id :=
    greeterPlan.rewrites_of_entryFor? greeterWorld_reachable faithful declared sweeps
      (greeterWorld_reachable.instrument ⟨0, 0⟩ greeterPlan) rfl
  obtain ⟨tracer, -, passing⟩ :=
    passes (.method "pkg.Greeter" "greet") .null [.str "Ann"] _ rfl rfl
  refine ⟨greeterWorld_reachable, faithful, rfl, by decide, declared,
    (passing _).mpr ⟨_, _, _, .finish, rfl⟩, fun rewrites => ?_⟩
  obtain ⟨other, -, rewriting⟩ :=
    rewrites (.method "pkg.Greeter" "greet") .null [.str "Ann"] _ rfl rfl
  obtain ⟨episodes, answer, left, ran, same⟩ :=
    (passing _).mp ((rewriting _).mpr ⟨_, _, _, .finish, rfl⟩)
  cases ran
  have sameList : [Value.str "Bob"] = [Value.str "Ann"] :=
    Value.list.inj (Outcome.returned.inj same)
  exact absurd sameList (by simp)

/-- Where another class is swept, the documented entry takes effect. -/
theorem method_edits_take_effect_unless_swept_greeter :
    ∃ plan : Plan, plan.methods = greeterPlan.methods ∧ plan.classes = [{ name := "Bell" }] ∧
      (greeterWorld.instrument ⟨0, 0⟩ plan).2.Rewrites 0
        ⟨"pkg.Greeter", "greet", ⟨["String"]⟩⟩ (Plan.Entry.method greeterRule).forwards
        (Plan.Entry.method greeterRule).settles ∧
      ∃ episodes after, Completes 0
        (.dispatch (.method "pkg.Greeter" "greet") .null [.str "Ann"])
        { world := (greeterWorld.instrument ⟨0, 0⟩ plan).2 } episodes
        (.returned (.list [.str "Bob"])) after := by
  let plan : Plan := { greeterPlan with classes := [{ name := "Bell" }] }
  have declared : (⟨"pkg.Greeter", "greet", ⟨["String"]⟩⟩ : OverloadRef) ∈
      (greeterWorld.registry 0).references := List.mem_cons_self
  have split : plan.methods = [] ++ greeterRule :: [] := rfl
  have edits := (method_edits_take_effect_unless_swept greeterWorld_reachable ⟨rfl, rfl, rfl⟩
    ⟨0, 0⟩ split rfl declared nofun (greeterWorld_reachable.instrument ⟨0, 0⟩ plan) rfl).1
      (by decide)
  obtain ⟨tracer, -, rewriting⟩ :=
    edits (.method "pkg.Greeter" "greet") .null [.str "Ann"] _ rfl rfl
  exact ⟨plan, rfl, rfl, edits, (rewriting _).mpr ⟨_, _, _, .finish, rfl⟩⟩

end Intercept
