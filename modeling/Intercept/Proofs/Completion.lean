/-
This file ties runs to what happens in them. A task is a procedure to run, a call to make, or
the call of an overload that has been found. That a task completes is a relation with a rule
for every way in which it can: it leads from a state through episodes to an outcome and a
state. The relation and the runs with fuel agree: whatever a run ends with, the task
completes with, and a task that completes is run to its end by all fuel above some bound.
-/
import Intercept.Proofs.Episode

namespace Intercept

/-! ### Tasks -/

/-- Something that a runtime can be asked to do. -/
inductive Task where
  | procedure (procedure : Procedure)
  | dispatch (callee : Callee) (receiver : Value) (arguments : List Value)
  | call (overload : Overload) (receiver : Value) (arguments : List Value)

/-- Does a task with a given fuel. -/
def Task.perform (fuel : Nat) (runtime : RuntimeId) : Task → State → RunResult
  | .procedure work, state => run fuel runtime work state
  | .dispatch callee receiver arguments, state =>
    callee.call (run fuel) runtime receiver arguments state
  | .call overload receiver arguments, state =>
    overload.call (run fuel) runtime receiver arguments state

/-! ### Completion -/

/-- That a task, started in a state, goes through episodes and completes with an outcome in a
state. -/
inductive Completes : RuntimeId → Task → State → List Episode → Outcome → State → Prop where
  | finish {runtime : RuntimeId} {outcome : Outcome} {state : State} :
      Completes runtime (.procedure (.finish outcome)) state [] outcome state
  | call {runtime : RuntimeId} {elsewhere : Option RuntimeId} {container member : String}
      {receiver : Value} {arguments : List Value} {next : Outcome → Procedure}
      {answer outcome : Outcome} {first others : List Episode} {state middle after : State}
      (called : Completes (elsewhere.getD runtime)
        (.dispatch (.method container member) receiver arguments) state first answer middle)
      (rest : Completes runtime (.procedure (next answer)) middle others outcome after) :
      Completes runtime (.procedure (.call elsewhere container member receiver arguments next))
        state (first ++ others) outcome after
  | frames {runtime : RuntimeId} {next : List String → Procedure} {outcome : Outcome}
      {others : List Episode} {state after : State}
      (rest : Completes runtime (.procedure (next state.thread.frames)) state others outcome
        after) :
      Completes runtime (.procedure (.frames next)) state
        (.framesRead state.thread.frames :: others) outcome after
  | spawn {runtime : RuntimeId} {work : Procedure} {next : Outcome → Procedure}
      {answer outcome : Outcome} {inner others : List Episode} {state finished after : State}
      (worked : Completes runtime (.procedure work) { state with thread := {} } inner answer
        finished)
      (rest : Completes runtime (.procedure (next answer))
        { finished with thread := state.thread } others outcome after) :
      Completes runtime (.procedure (.spawn work next)) state (.spawned inner :: others) outcome
        after
  | hook {runtime : RuntimeId} {elsewhere : Option RuntimeId} {emitter : EmitterId}
      {target : String} {hook : Hook} {next : List InstalledHook → Procedure}
      {outcome : Outcome} {others : List Episode} {state after : State}
      (rest : Completes runtime
        (.procedure
          (next (state.world.hookTarget ⟨elsewhere.getD runtime, emitter⟩ target hook).1))
        { state with
          world := (state.world.hookTarget ⟨elsewhere.getD runtime, emitter⟩ target hook).2 }
        others outcome after) :
      Completes runtime (.procedure (.hook elsewhere emitter target hook next)) state others
        outcome after
  | install {runtime : RuntimeId} {elsewhere : Option RuntimeId} {emitter : EmitterId}
      {overload : OverloadRef} {path : String} {hook : Hook}
      {next : Except HookFailure InstalledHook → Procedure}
      {outcome : Outcome} {others : List Episode} {state after : State}
      (rest : Completes runtime
        (.procedure (next
          (state.world.installHook ⟨elsewhere.getD runtime, emitter⟩ overload path hook).1))
        { state with
          world :=
            (state.world.installHook ⟨elsewhere.getD runtime, emitter⟩ overload path hook).2 }
        others outcome after) :
      Completes runtime (.procedure (.install elsewhere emitter overload path hook next)) state
        others outcome after
  | define {runtime : RuntimeId} {container member : String} {parameters : List String}
      {body : Body} {next : Except HookFailure OverloadRef → Procedure}
      {outcome : Outcome} {others : List Episode} {state after : State}
      (rest : Completes runtime
        (.procedure (next ((state.world.registry runtime).declareMethod container member
          parameters body).1))
        { state with
          world := state.world.setRegistry runtime
            ((state.world.registry runtime).declareMethod container member parameters body).2 }
        others outcome after) :
      Completes runtime (.procedure (.define container member parameters body next)) state
        others outcome after
  | nativeUnprobed {runtime : RuntimeId} {address : UInt64} {arguments : List Boundary.Argument}
      {callee : Procedure} {next : Int64 → Procedure} {answer outcome : Outcome}
      {inner others : List Episode} {state middle after : State}
      (unprobed : state.world.boundary.probeAt? address = none)
      (called : Completes runtime (.procedure callee) state inner answer middle)
      (rest : Completes runtime (.procedure (next answer.asWord)) middle others outcome after) :
      Completes runtime (.procedure (.native address arguments callee next)) state
        (inner ++ others) outcome after
  | nativeProbed {runtime : RuntimeId} {address : UInt64} {arguments : List Boundary.Argument}
      {callee : Procedure} {next : Int64 → Procedure} {answer outcome : Outcome}
      {inner others : List Episode} {state middle after : State} {probe : Boundary.Probe}
      {crossing noted : Boundary.Crossing} {boundary : Boundary} {events : List Event}
      (probed : state.world.boundary.probeAt? address = some probe)
      (begun : state.world.boundary.beginCrossing = (crossing, boundary))
      (entered : probe.enter arguments crossing = (events, noted))
      (called : Completes runtime (.procedure callee)
        (({ state with world := { state.world with boundary } } : State).emitAll probe.emitter
          events) inner answer middle)
      (rest : Completes runtime (.procedure (next answer.asWord))
        (middle.emitAll probe.emitter (noted.leave answer.asWord)) others outcome after) :
      Completes runtime (.procedure (.native address arguments callee next)) state
        (.crossed probe.emitter events inner (noted.leave answer.asWord) :: others) outcome after
  | dispatched {runtime : RuntimeId} {callee : Callee} {receiver : Value}
      {arguments : List Value} {overload : Overload} {outcome : Outcome}
      {episodes : List Episode} {state after : State}
      (found : callee.find? (state.world.registry runtime) arguments = some overload)
      (called : Completes runtime (.call overload receiver arguments) state episodes outcome
        after) :
      Completes runtime (.dispatch callee receiver arguments) state episodes outcome after
  | refused {runtime : RuntimeId} {callee : Callee} {receiver : Value} {arguments : List Value}
      {state : State}
      (missing : callee.find? (state.world.registry runtime) arguments = none) :
      Completes runtime (.dispatch callee receiver arguments) state []
        (.raised (.noneAccepts callee.name arguments.length)) state
  | plain {runtime : RuntimeId} {overload : Overload} {body : Body} {receiver : Value}
      {arguments : List Value} {outcome : Outcome} {within : List Episode}
      {state after : State}
      (force : overload.bodyInForce = .plain body)
      (ran : Completes runtime (.procedure (body receiver arguments))
        (state.pushFrame overload.reference.key) within outcome after) :
      Completes runtime (.call overload receiver arguments) state
        [.plain ⟨runtime, overload.reference, receiver, arguments⟩ within outcome] outcome
        after.popFrame
  | straight {runtime : RuntimeId} {overload : Overload} {tracer : Tracer} {receiver : Value}
      {arguments : List Value} {outcome : Outcome} {within : List Episode}
      {state after : State}
      (force : overload.bodyInForce = .traced tracer)
      (busy : tracer.identity ∈ state.thread.forwarding)
      (ran : Completes runtime (.procedure (tracer.declaredBody receiver arguments))
        (state.pushFrame overload.reference.key) within outcome after) :
      Completes runtime (.call overload receiver arguments) state
        [.straight ⟨runtime, overload.reference, receiver, arguments⟩ tracer within outcome]
        outcome after.popFrame
  | traced {runtime : RuntimeId} {overload : Overload} {tracer : Tracer} {receiver : Value}
      {arguments : List Value} {rewritten outcome delivery : Outcome}
      {rewriting within delivering : List Episode} {state entered left settled : State}
      {passage : Passage}
      (force : overload.bodyInForce = .traced tracer)
      (idle : tracer.identity ∉ state.thread.forwarding)
      (isPassage : passage =
        ⟨tracer, rewritten.asArguments, entered.thread.frames, outcome, delivery⟩)
      (rewrote : Completes runtime (.procedure (tracer.rewriting arguments))
        (state.pushFrame overload.reference.key) rewriting rewritten entered)
      (forwarded : Completes runtime
        (.procedure (tracer.declaredBody receiver rewritten.asArguments))
        ((entered.emitAll tracer.emitter (passage.entry arguments)).beginForward
          tracer.identity) within outcome left)
      (delivered : Completes runtime (.procedure (tracer.settling outcome)) left.endForward
        delivering delivery settled) :
      Completes runtime (.call overload receiver arguments) state
        [.traced ⟨runtime, overload.reference, receiver, arguments⟩ passage rewriting within
          delivering]
        passage.result (settled.emit tracer.emitter passage.closing).popFrame

/-! ### What runs end with, tasks complete with -/

/-- That procedures complete with whatever a runner gives. -/
def Runner.Sound (runner : Runner) : Prop :=
  ∀ runtime procedure state outcome after,
    runner runtime procedure state = some (outcome, after) →
      ∃ episodes, Completes runtime (.procedure procedure) state episodes outcome after

theorem Tracer.rewriting_completes {runner : Runner} (sound : runner.Sound) {tracer : Tracer}
    {runtime : RuntimeId} {arguments forwarded : List Value} {transformed : Bool}
    {state entered : State}
    (gave : tracer.forwardedArguments runner runtime arguments state =
      some ((forwarded, transformed), entered)) :
    ∃ rewritten episodes,
      Completes runtime (.procedure (tracer.rewriting arguments)) state episodes rewritten
        entered ∧
      forwarded = rewritten.asArguments ∧
      transformed = tracer.hook.transformArguments.isSome := by
  unfold forwardedArguments at gave
  unfold rewriting
  cases given : tracer.hook.transformArguments with
  | none =>
    simp only [given, Option.some.injEq, Prod.mk.injEq] at gave
    obtain ⟨⟨rfl, rfl⟩, rfl⟩ := gave
    exact ⟨_, _, .finish, rfl, rfl⟩
  | some transform =>
    simp only [given, Option.bind_eq_bind, Option.bind_eq_some_iff, Prod.exists, Option.pure_def,
      Option.some.injEq, Prod.mk.injEq] at gave
    obtain ⟨rewritten, middle, ran, ⟨rfl, rfl⟩, rfl⟩ := gave
    obtain ⟨episodes, completes⟩ := sound _ _ _ _ _ ran
    exact ⟨rewritten, episodes, completes, rfl, rfl⟩

theorem Tracer.settling_completes {runner : Runner} (sound : runner.Sound) {tracer : Tracer}
    {runtime : RuntimeId} {outcome result : Outcome} {state after : State}
    (gave : tracer.close runner runtime outcome state = some (result, after)) :
    ∃ delivery delivering settled,
      Completes runtime (.procedure (tracer.settling outcome)) state delivering delivery
        settled ∧
      ∀ forwarded frames,
        result = (⟨tracer, forwarded, frames, outcome, delivery⟩ : Passage).result ∧
        after = settled.emit tracer.emitter
          (⟨tracer, forwarded, frames, outcome, delivery⟩ : Passage).closing := by
  cases outcome with
  | raised fault =>
    simp only [close, Option.some.injEq, Prod.mk.injEq] at gave
    obtain ⟨rfl, rfl⟩ := gave
    exact ⟨_, _, _, .finish, fun _ _ => ⟨rfl, rfl⟩⟩
  | returned value =>
    unfold close at gave
    unfold settling
    cases given : tracer.hook.transformResult with
    | none =>
      simp only [given, Option.some.injEq, Prod.mk.injEq] at gave
      obtain ⟨rfl, rfl⟩ := gave
      refine ⟨_, _, _, .finish, fun _ _ => ⟨rfl, ?_⟩⟩
      simp only [Passage.closing, given, Option.isSome_none, Bool.false_eq_true, if_false]
    | some transform =>
      simp only [given, Option.bind_eq_bind, Option.bind_eq_some_iff, Prod.exists,
        Option.pure_def, Option.some.injEq, Prod.mk.injEq] at gave
      obtain ⟨delivery, settled, ran, rfl, rfl⟩ := gave
      obtain ⟨delivering, completes⟩ := sound _ _ _ _ _ ran
      refine ⟨delivery, delivering, settled, completes, fun _ _ => ⟨rfl, ?_⟩⟩
      simp only [Passage.closing, given, Option.isSome_some, if_true]

theorem Tracer.call_completes {runner : Runner} (sound : runner.Sound) {overload : Overload}
    {tracer : Tracer} (force : overload.bodyInForce = .traced tracer) {runtime : RuntimeId}
    {receiver : Value} {arguments : List Value} {outcome : Outcome} {state after : State}
    (gave : tracer.run runner runtime receiver arguments
      (state.pushFrame overload.reference.key) = some (outcome, after)) :
    ∃ episodes,
      Completes runtime (.call overload receiver arguments) state episodes outcome
        after.popFrame := by
  unfold Tracer.run at gave
  split at gave
  case isTrue busy =>
    obtain ⟨within, completes⟩ := sound _ _ _ _ _ gave
    exact ⟨_, .straight force (List.contains_iff_mem.mp busy) completes⟩
  case isFalse idle =>
    simp only [Option.bind_eq_bind, Option.bind_eq_some_iff, Prod.exists] at gave
    obtain ⟨forwarded, transformed, entered, gaveArguments, answer, left, ran, closed⟩ := gave
    obtain ⟨rewritten, rewriting, rewrote, rfl, rfl⟩ :=
      rewriting_completes sound gaveArguments
    obtain ⟨within, forwarded⟩ := sound _ _ _ _ _ ran
    obtain ⟨delivery, delivering, settled, delivered, ends⟩ := settling_completes sound closed
    obtain ⟨rfl, rfl⟩ := ends rewritten.asArguments entered.thread.frames
    exact ⟨_, .traced force (fun member => idle (List.contains_iff_mem.mpr member)) rfl rewrote
      forwarded delivered⟩

theorem Overload.call_completes {runner : Runner} (sound : runner.Sound) {overload : Overload}
    {runtime : RuntimeId} {receiver : Value} {arguments : List Value} {outcome : Outcome}
    {state after : State}
    (gave : overload.call runner runtime receiver arguments state = some (outcome, after)) :
    ∃ episodes,
      Completes runtime (.call overload receiver arguments) state episodes outcome after := by
  simp only [Overload.call, Option.bind_eq_bind, Option.bind_eq_some_iff, Prod.exists,
    Option.pure_def, Option.some.injEq, Prod.mk.injEq] at gave
  obtain ⟨answer, left, ran, rfl, rfl⟩ := gave
  cases force : overload.bodyInForce with
  | plain body =>
    rw [force] at ran
    obtain ⟨within, completes⟩ := sound _ _ _ _ _ ran
    exact ⟨_, .plain force completes⟩
  | traced tracer =>
    rw [force] at ran
    exact Tracer.call_completes sound force ran

theorem Callee.call_completes {runner : Runner} (sound : runner.Sound) (callee : Callee)
    {runtime : RuntimeId} {receiver : Value} {arguments : List Value} {outcome : Outcome}
    {state after : State}
    (gave : callee.call runner runtime receiver arguments state = some (outcome, after)) :
    ∃ episodes,
      Completes runtime (.dispatch callee receiver arguments) state episodes outcome after := by
  rw [Callee.call_eq] at gave
  cases found : callee.find? (state.world.registry runtime) arguments with
  | none =>
    simp only [found, Option.some.injEq, Prod.mk.injEq] at gave
    obtain ⟨rfl, rfl⟩ := gave
    exact ⟨_, .refused found⟩
  | some overload =>
    simp only [found] at gave
    obtain ⟨episodes, completes⟩ := Overload.call_completes sound gave
    exact ⟨episodes, .dispatched found completes⟩

/-- Procedures complete with whatever a run with fuel ends with. -/
theorem run_sound (fuel : Nat) : Runner.Sound (run fuel) := by
  induction fuel with
  | zero =>
    intro runtime procedure state outcome after gave
    cases gave
  | succ fuel sound =>
    intro runtime procedure state outcome after gave
    cases procedure with
    | finish answer =>
      simp only [run, Option.some.injEq, Prod.mk.injEq] at gave
      obtain ⟨rfl, rfl⟩ := gave
      exact ⟨_, .finish⟩
    | call elsewhere container member receiver arguments next =>
      simp only [run, Option.bind_eq_bind, Option.bind_eq_some_iff, Prod.exists] at gave
      obtain ⟨answer, middle, called, rest⟩ := gave
      obtain ⟨first, called⟩ :=
        Callee.call_completes sound (.method container member) called
      obtain ⟨others, rest⟩ := sound _ _ _ _ _ rest
      exact ⟨_, .call called rest⟩
    | frames next =>
      obtain ⟨others, rest⟩ := sound _ _ _ _ _ gave
      exact ⟨_, .frames rest⟩
    | spawn work next =>
      simp only [run, Option.bind_eq_bind, Option.bind_eq_some_iff, Prod.exists] at gave
      obtain ⟨answer, finished, worked, rest⟩ := gave
      obtain ⟨inner, worked⟩ := sound _ _ _ _ _ worked
      obtain ⟨others, rest⟩ := sound _ _ _ _ _ rest
      exact ⟨_, .spawn worked rest⟩
    | hook elsewhere emitter target hook next =>
      obtain ⟨others, rest⟩ := sound _ _ _ _ _ gave
      exact ⟨_, .hook rest⟩
    | install elsewhere emitter overload path hook next =>
      obtain ⟨others, rest⟩ := sound _ _ _ _ _ gave
      exact ⟨_, .install rest⟩
    | define container member parameters body next =>
      obtain ⟨others, rest⟩ := sound _ _ _ _ _ gave
      exact ⟨_, .define rest⟩
    | native address arguments callee next =>
      simp only [run, Option.bind_eq_bind, Option.bind_eq_some_iff, Prod.exists] at gave
      obtain ⟨word, middle, called, rest⟩ := gave
      obtain ⟨others, rest⟩ := sound _ _ _ _ _ rest
      unfold callNative at called
      cases probed : state.world.boundary.probeAt? address with
      | none =>
        simp only [probed, Option.bind_eq_bind, Option.bind_eq_some_iff, Prod.exists,
          Option.pure_def, Option.some.injEq, Prod.mk.injEq] at called
        obtain ⟨answer, left, called, rfl, rfl⟩ := called
        obtain ⟨inner, called⟩ := sound _ _ _ _ _ called
        exact ⟨_, .nativeUnprobed probed called rest⟩
      | some probe =>
        simp only [probed, Option.bind_eq_bind, Option.bind_eq_some_iff, Prod.exists,
          Option.pure_def, Option.some.injEq, Prod.mk.injEq] at called
        obtain ⟨answer, left, called, rfl, rfl⟩ := called
        obtain ⟨inner, called⟩ := sound _ _ _ _ _ called
        exact ⟨_, .nativeProbed probed rfl rfl called rest⟩

/-- Tasks complete with whatever they end with. -/
theorem Task.completes {fuel : Nat} {runtime : RuntimeId} {task : Task} {outcome : Outcome}
    {state after : State} (gave : task.perform fuel runtime state = some (outcome, after)) :
    ∃ episodes, Completes runtime task state episodes outcome after := by
  cases task with
  | procedure procedure => exact run_sound fuel _ _ _ _ _ gave
  | dispatch callee receiver arguments => exact Callee.call_completes (run_sound fuel) callee gave
  | call overload receiver arguments => exact Overload.call_completes (run_sound fuel) gave

/-! ### Tasks that complete are done with enough fuel -/

/-- That all fuel from some bound on does a task. -/
def Task.Ends (task : Task) (runtime : RuntimeId) (state : State) (outcome : Outcome)
    (after : State) : Prop :=
  ∃ bound, ∀ fuel, bound ≤ fuel → task.perform fuel runtime state = some (outcome, after)

theorem run_finish {fuel : Nat} {runtime : RuntimeId} {answer outcome : Outcome}
    {state after : State}
    (gave : run fuel runtime (.finish answer) state = some (outcome, after)) :
    outcome = answer ∧ after = state := by
  cases fuel with
  | zero => cases gave
  | succ fuel =>
    simp only [run, Option.some.injEq, Prod.mk.injEq] at gave
    exact ⟨gave.1.symm, gave.2.symm⟩

theorem forwardedArguments_of_run {fuel : Nat} {tracer : Tracer} {runtime : RuntimeId}
    {arguments : List Value} {rewritten : Outcome} {state entered : State}
    (ran : run fuel runtime (tracer.rewriting arguments) state = some (rewritten, entered)) :
    tracer.forwardedArguments (run fuel) runtime arguments state =
      some ((rewritten.asArguments, tracer.hook.transformArguments.isSome), entered) := by
  unfold Tracer.forwardedArguments
  unfold Tracer.rewriting at ran
  cases given : tracer.hook.transformArguments with
  | none =>
    rw [given] at ran
    obtain ⟨rfl, rfl⟩ := run_finish ran
    rfl
  | some transform =>
    simp only [given] at ran
    simp only [ran, Option.bind_eq_bind, Option.bind_some, Option.pure_def, Option.isSome_some]

theorem close_of_run {fuel : Nat} (passage : Passage) {runtime : RuntimeId}
    {state settled : State}
    (ran : run fuel runtime (passage.tracer.settling passage.outcome) state =
      some (passage.delivery, settled)) :
    passage.tracer.close (run fuel) runtime passage.outcome state =
      some (passage.result, settled.emit passage.tracer.emitter passage.closing) := by
  obtain ⟨tracer, forwarded, frames, outcome, delivery⟩ := passage
  cases outcome with
  | raised fault =>
    obtain ⟨rfl, rfl⟩ := run_finish ran
    rfl
  | returned value =>
    unfold Tracer.close
    unfold Tracer.settling at ran
    cases given : tracer.hook.transformResult with
    | none =>
      simp only [given] at ran
      obtain ⟨rfl, rfl⟩ := run_finish ran
      simp only [given, Passage.closing, Passage.result, Option.isSome_none, Bool.false_eq_true,
        if_false, Outcome.asResult]
    | some transform =>
      simp only [given] at ran
      simp only [given, ran, Passage.closing, Passage.result, Option.bind_eq_bind,
        Option.bind_some, Option.pure_def, Option.isSome_some, if_true]

/-- A task that completes is done by all fuel from some bound on. -/
theorem Completes.ends {runtime : RuntimeId} {task : Task} {state after : State}
    {episodes : List Episode} {outcome : Outcome}
    (completes : Completes runtime task state episodes outcome after) :
    task.Ends runtime state outcome after := by
  induction completes with
  | finish =>
    refine ⟨1, fun fuel enough => ?_⟩
    obtain ⟨fuel, rfl⟩ := Nat.exists_eq_add_of_le' enough
    rfl
  | call _ _ callEnds restEnds =>
    obtain ⟨callBound, callEnds⟩ := callEnds
    obtain ⟨restBound, restEnds⟩ := restEnds
    refine ⟨callBound + restBound + 1, fun fuel enough => ?_⟩
    obtain ⟨fuel, rfl⟩ := Nat.exists_eq_add_of_le' (Nat.le_trans (Nat.le_add_left 1 _) enough)
    have called := callEnds fuel (by omega)
    have rest := restEnds fuel (by omega)
    simp only [Task.perform, Callee.call] at called rest
    simp only [Task.perform, run, called, rest, Option.bind_eq_bind, Option.bind_some]
  | frames _ restEnds | hook _ restEnds | install _ restEnds | define _ restEnds =>
    obtain ⟨restBound, restEnds⟩ := restEnds
    refine ⟨restBound + 1, fun fuel enough => ?_⟩
    obtain ⟨fuel, rfl⟩ := Nat.exists_eq_add_of_le' (Nat.le_trans (Nat.le_add_left 1 _) enough)
    exact restEnds fuel (by omega)
  | spawn _ _ workEnds restEnds =>
    obtain ⟨workBound, workEnds⟩ := workEnds
    obtain ⟨restBound, restEnds⟩ := restEnds
    refine ⟨workBound + restBound + 1, fun fuel enough => ?_⟩
    obtain ⟨fuel, rfl⟩ := Nat.exists_eq_add_of_le' (Nat.le_trans (Nat.le_add_left 1 _) enough)
    have worked := workEnds fuel (by omega)
    have rest := restEnds fuel (by omega)
    simp only [Task.perform] at worked rest
    simp only [Task.perform, run, worked, rest, Option.bind_eq_bind, Option.bind_some]
  | nativeUnprobed unprobed _ _ callEnds restEnds =>
    obtain ⟨callBound, callEnds⟩ := callEnds
    obtain ⟨restBound, restEnds⟩ := restEnds
    refine ⟨callBound + restBound + 1, fun fuel enough => ?_⟩
    obtain ⟨fuel, rfl⟩ := Nat.exists_eq_add_of_le' (Nat.le_trans (Nat.le_add_left 1 _) enough)
    have called := callEnds fuel (by omega)
    have rest := restEnds fuel (by omega)
    simp only [Task.perform] at called rest
    simp only [Task.perform, run, callNative, unprobed, called, rest, Option.bind_eq_bind,
      Option.bind_some, Option.pure_def]
  | nativeProbed probed begun entered _ _ callEnds restEnds =>
    obtain ⟨callBound, callEnds⟩ := callEnds
    obtain ⟨restBound, restEnds⟩ := restEnds
    refine ⟨callBound + restBound + 1, fun fuel enough => ?_⟩
    obtain ⟨fuel, rfl⟩ := Nat.exists_eq_add_of_le' (Nat.le_trans (Nat.le_add_left 1 _) enough)
    have called := callEnds fuel (by omega)
    have rest := restEnds fuel (by omega)
    simp only [Task.perform, State.emitAll] at called rest
    simp only [Task.perform, run, callNative, probed, begun, entered, called, State.emitAll, rest,
      Option.bind_eq_bind, Option.bind_some, Option.pure_def]
  | dispatched found _ callEnds =>
    obtain ⟨callBound, callEnds⟩ := callEnds
    refine ⟨callBound, fun fuel enough => ?_⟩
    simp only [Task.perform, Callee.call_eq, found]
    exact callEnds fuel enough
  | refused missing =>
    refine ⟨0, fun fuel _ => ?_⟩
    simp only [Task.perform, Callee.call_eq, missing]
  | plain force _ bodyEnds =>
    obtain ⟨bodyBound, bodyEnds⟩ := bodyEnds
    refine ⟨bodyBound, fun fuel enough => ?_⟩
    have ran := bodyEnds fuel enough
    simp only [Task.perform] at ran
    simp only [Task.perform, Overload.call, force, BodyInForce.run, ran, Option.bind_eq_bind,
      Option.bind_some, Option.pure_def]
  | straight force busy _ bodyEnds =>
    obtain ⟨bodyBound, bodyEnds⟩ := bodyEnds
    refine ⟨bodyBound, fun fuel enough => ?_⟩
    have ran := bodyEnds fuel enough
    have contained := List.contains_iff_mem.mpr busy
    simp only [Task.perform] at ran
    simp only [Task.perform, Overload.call, force, BodyInForce.run, Tracer.run, State.pushFrame,
      contained, if_true]
    simp only [State.pushFrame] at ran
    simp only [ran, Option.bind_eq_bind, Option.bind_some, Option.pure_def]
  | @traced _ overload tracer _ _ _ _ _ _ _ _ state _ _ _ passage force idle isPassage _ _ _
      rewriteEnds forwardEnds deliverEnds =>
    obtain ⟨rewriteBound, rewriteEnds⟩ := rewriteEnds
    obtain ⟨forwardBound, forwardEnds⟩ := forwardEnds
    obtain ⟨deliverBound, deliverEnds⟩ := deliverEnds
    refine ⟨rewriteBound + forwardBound + deliverBound, fun fuel enough => ?_⟩
    have rewrote := forwardedArguments_of_run (rewriteEnds fuel (by omega))
    have forwarded := forwardEnds fuel (by omega)
    have closed := close_of_run passage
      (by rw [isPassage]; exact deliverEnds fuel (by omega))
    have absent : (state.pushFrame overload.reference.key).thread.forwarding.contains
        tracer.identity = false :=
      Bool.eq_false_iff.mpr fun contained => idle (List.contains_iff_mem.mp contained)
    simp only [isPassage] at closed
    simp only [isPassage, Task.perform, Passage.entry] at forwarded
    simp only [isPassage, Task.perform, Overload.call, force, BodyInForce.run, Tracer.run, absent,
      Bool.false_eq_true, if_false, rewrote, forwarded, closed, Option.bind_eq_bind,
      Option.bind_some, Option.pure_def]

/-- A task completes with what it ends with, and the other way round. -/
theorem Task.ends_iff_completes {runtime : RuntimeId} {task : Task} {state after : State}
    {outcome : Outcome} :
    task.Ends runtime state outcome after ↔
      ∃ episodes, Completes runtime task state episodes outcome after :=
  ⟨fun ⟨bound, ends⟩ => Task.completes (ends bound (Nat.le_refl bound)),
    fun ⟨_, completes⟩ => completes.ends⟩

/-! ### A task completes in one way -/

/-- The state that a task starts in settles everything: the episodes, the outcome, and the
state after it. -/
theorem Completes.unique {runtime : RuntimeId} {task : Task} {state after afterOther : State}
    {episodes episodesOther : List Episode} {outcome outcomeOther : Outcome}
    (completes : Completes runtime task state episodes outcome after)
    (other : Completes runtime task state episodesOther outcomeOther afterOther) :
    episodesOther = episodes ∧ outcomeOther = outcome ∧ afterOther = after := by
  induction completes generalizing episodesOther outcomeOther afterOther with
  | finish =>
    cases other
    exact ⟨rfl, rfl, rfl⟩
  | call _ _ callUnique restUnique =>
    cases other with
    | call called rest =>
      obtain ⟨rfl, rfl, rfl⟩ := callUnique called
      obtain ⟨rfl, rfl, rfl⟩ := restUnique rest
      exact ⟨rfl, rfl, rfl⟩
  | frames _ restUnique =>
    cases other with
    | frames rest =>
      obtain ⟨rfl, rfl, rfl⟩ := restUnique rest
      exact ⟨rfl, rfl, rfl⟩
  | spawn _ _ workUnique restUnique =>
    cases other with
    | spawn worked rest =>
      obtain ⟨rfl, rfl, rfl⟩ := workUnique worked
      obtain ⟨rfl, rfl, rfl⟩ := restUnique rest
      exact ⟨rfl, rfl, rfl⟩
  | hook _ restUnique =>
    cases other with
    | hook rest => exact restUnique rest
  | install _ restUnique =>
    cases other with
    | install rest => exact restUnique rest
  | define _ restUnique =>
    cases other with
    | define rest => exact restUnique rest
  | nativeUnprobed unprobed _ _ callUnique restUnique =>
    cases other with
    | nativeUnprobed _ called rest =>
      obtain ⟨rfl, rfl, rfl⟩ := callUnique called
      obtain ⟨rfl, rfl, rfl⟩ := restUnique rest
      exact ⟨rfl, rfl, rfl⟩
    | nativeProbed probed => cases unprobed.symm.trans probed
  | nativeProbed probed begun entered _ _ callUnique restUnique =>
    cases other with
    | nativeUnprobed unprobed => cases unprobed.symm.trans probed
    | nativeProbed probedOther begunOther enteredOther called rest =>
      cases probed.symm.trans probedOther
      cases begun.symm.trans begunOther
      cases entered.symm.trans enteredOther
      obtain ⟨rfl, rfl, rfl⟩ := callUnique called
      obtain ⟨rfl, rfl, rfl⟩ := restUnique rest
      exact ⟨rfl, rfl, rfl⟩
  | dispatched found _ callUnique =>
    cases other with
    | dispatched foundOther called =>
      cases found.symm.trans foundOther
      exact callUnique called
    | refused missing => cases found.symm.trans missing
  | refused missing =>
    cases other with
    | dispatched found => cases missing.symm.trans found
    | refused => exact ⟨rfl, rfl, rfl⟩
  | plain force _ bodyUnique =>
    cases other with
    | plain forceOther ran =>
      cases force.symm.trans forceOther
      obtain ⟨rfl, rfl, rfl⟩ := bodyUnique ran
      exact ⟨rfl, rfl, rfl⟩
    | straight forceOther => cases force.symm.trans forceOther
    | traced forceOther => cases force.symm.trans forceOther
  | straight force busy _ bodyUnique =>
    cases other with
    | plain forceOther => cases force.symm.trans forceOther
    | straight forceOther _ ran =>
      cases force.symm.trans forceOther
      obtain ⟨rfl, rfl, rfl⟩ := bodyUnique ran
      exact ⟨rfl, rfl, rfl⟩
    | traced forceOther idle =>
      cases force.symm.trans forceOther
      exact absurd busy idle
  | traced force idle isPassage _ _ _ rewriteUnique forwardUnique deliverUnique =>
    cases other with
    | plain forceOther => cases force.symm.trans forceOther
    | straight forceOther busy =>
      cases force.symm.trans forceOther
      exact absurd busy idle
    | traced forceOther _ isPassageOther rewrote forwarded delivered =>
      cases force.symm.trans forceOther
      subst isPassage isPassageOther
      obtain ⟨rfl, rfl, rfl⟩ := rewriteUnique rewrote
      obtain ⟨rfl, rfl, rfl⟩ := forwardUnique forwarded
      obtain ⟨rfl, rfl, rfl⟩ := deliverUnique delivered
      exact ⟨rfl, rfl, rfl⟩

end Intercept
