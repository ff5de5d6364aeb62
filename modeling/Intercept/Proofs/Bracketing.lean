/-
This file proves that traces are well bracketed. Everything that a run emits is what its
episodes tell, in order. Of that, what tracers emit on the thread of the run is a sequence of
complete brackets: an entry, a snapshot of the frames if the hook asks for one, the brackets of
what happens between the entry and the end, and the closing event of the same tracer. The
closing event is a return or a fault as the forwarded body returned or raised. Bodies may
nest calls, raise and handle faults, and install hooks over calls that are still running.
-/
import Intercept.Proofs.Completion
import Intercept.Proofs.Hooking

namespace Intercept

/-! ### What is emitted is what happens -/

theorem Tracer.emissions_map_mark (tracer : Tracer) (events : List Event) :
    (events.map tracer.mark).map Mark.emission = events.map (Emission.mk tracer.emitter) := by
  rw [List.map_map]
  rfl

theorem emissions_map_boundaryMark (emitter : EmitterId) (events : List Event) :
    (events.map (boundaryMark emitter)).map Mark.emission =
      events.map (Emission.mk emitter) := by
  rw [List.map_map]
  rfl

theorem emissions_map_removed (marks : List Mark) :
    (marks.map Mark.removed).map Mark.emission = marks.map Mark.emission := by
  rw [List.map_map]
  rfl

@[simp]
theorem emissionsOf_nil : emissionsOf [] = [] :=
  rfl

theorem emissionsOf_cons (episode : Episode) (rest : List Episode) :
    emissionsOf (episode :: rest) = episode.marks.map Mark.emission ++ emissionsOf rest := by
  rw [emissionsOf, marksOf, List.map_append, emissionsOf]

theorem emissionsOf_append (first second : List Episode) :
    emissionsOf (first ++ second) = emissionsOf first ++ emissionsOf second := by
  rw [emissionsOf, marksOf_append, List.map_append, emissionsOf, emissionsOf]

/-- What a traced call emits, in order. -/
theorem emissionsOf_traced (site : Site) (passage : Passage)
    (rewriting within delivering : List Episode) :
    emissionsOf [.traced site passage rewriting within delivering] =
      emissionsOf rewriting ++
        (passage.entry site.arguments).map (Emission.mk passage.tracer.emitter) ++
        emissionsOf within ++ emissionsOf delivering ++
        [⟨passage.tracer.emitter, passage.closing⟩] := by
  rw [emissionsOf_cons, Episode.marks, emissionsOf_nil, List.append_nil]
  simp only [List.map_append, Tracer.emissions_map_mark, emissionsOf]
  rfl

/-- Installing hooks emits nothing. -/
theorem KeptByHooking.emissions (monitor : Monitor) (hook : Hook) (emissions : List Emission) :
    KeptByHooking monitor hook fun _ world => world.sink.emissions = emissions where
  hooked _ holds := holds
  refused holds := holds
  diagnosed holds := holds

/-- A run emits what its episodes tell, in order, after what was emitted before it. -/
theorem Completes.emissions {runtime : RuntimeId} {task : Task} {state after : State}
    {episodes : List Episode} {outcome : Outcome}
    (completes : Completes runtime task state episodes outcome after) :
    after.world.sink.emissions = state.world.sink.emissions ++ emissionsOf episodes := by
  induction completes with
  | finish | refused => rw [emissionsOf_nil, List.append_nil]
  | call _ _ called rest | nativeUnprobed _ _ _ called rest =>
    rw [rest, called, emissionsOf_append, List.append_assoc]
  | frames _ rest => rw [rest, emissionsOf_cons, Episode.marks, List.map_nil, List.nil_append]
  | spawn _ _ worked rest =>
    rw [rest, worked, emissionsOf_cons, Episode.marks, emissions_map_removed, List.append_assoc]
    rfl
  | hook _ rest =>
    exact rest.trans
      (congrArg (· ++ _) ((KeptByHooking.emissions _ _ _).hookTarget _ [] rfl))
  | install _ rest =>
    exact rest.trans
      (congrArg (· ++ _) ((KeptByHooking.emissions _ _ _).installHook [] _ _ rfl))
  | define _ rest => exact rest
  | nativeProbed _ _ _ _ _ called rest =>
    rw [rest, State.emitAll, World.emissions_emitAll, called, State.emitAll,
      World.emissions_emitAll, emissionsOf_cons, Episode.marks, List.map_append, List.map_append,
      emissions_map_boundaryMark, emissions_map_boundaryMark]
    simp only [List.append_assoc, emissionsOf]
  | dispatched _ _ called => exact called
  | plain _ _ ran | straight _ _ _ ran =>
    rw [emissionsOf_cons, Episode.marks, emissionsOf_nil, List.append_nil]
    exact ran
  | traced _ _ isPassage _ _ _ rewrote forwarded delivered =>
    subst isPassage
    rw [emissionsOf_cons, Episode.marks, emissionsOf_nil, List.append_nil]
    simp only [State.popFrame, State.emit, World.emissions_emit, delivered, State.endForward,
      forwarded, State.beginForward, State.emitAll, World.emissions_emitAll, rewrote,
      State.pushFrame, List.map_append, Tracer.emissions_map_mark, emissionsOf, List.map_cons,
      List.map_nil, List.append_assoc]
    rfl

/-! ### Traces -/

@[simp]
theorem traceOf_nil : traceOf [] = [] :=
  rfl

theorem traceOf_cons (episode : Episode) (rest : List Episode) :
    traceOf (episode :: rest) = episode.marks.filter Mark.isTraced ++ traceOf rest := by
  rw [traceOf, marksOf, List.filter_append, traceOf]

theorem traceOf_append (first second : List Episode) :
    traceOf (first ++ second) = traceOf first ++ traceOf second := by
  rw [traceOf, marksOf_append, List.filter_append, traceOf, traceOf]

theorem Tracer.filter_isTraced_map_mark (tracer : Tracer) (events : List Event) :
    (events.map tracer.mark).filter Mark.isTraced = events.map tracer.mark := by
  refine List.filter_eq_self.mpr fun mark member => ?_
  obtain ⟨event, -, rfl⟩ := List.mem_map.mp member
  rfl

theorem filter_isTraced_map_boundaryMark (emitter : EmitterId) (events : List Event) :
    (events.map (boundaryMark emitter)).filter Mark.isTraced = [] := by
  refine List.filter_eq_nil_iff.mpr fun mark member => ?_
  obtain ⟨event, -, rfl⟩ := List.mem_map.mp member
  exact Bool.false_ne_true

theorem filter_isTraced_map_removed (marks : List Mark) :
    (marks.map Mark.removed).filter Mark.isTraced = [] := by
  refine List.filter_eq_nil_iff.mpr fun mark member => ?_
  obtain ⟨event, -, rfl⟩ := List.mem_map.mp member
  exact Bool.false_ne_true

/-! ### Brackets -/

/-- The events with which a tracer may close a call whose declared body had an outcome: a return
if it returned a value, a fault if it raised one. -/
inductive Tracer.Closes (tracer : Tracer) : Outcome → Event → Prop where
  | left {value : Value} {delivered : Option String} :
      Closes tracer (.returned value) (.left tracer.path value.render delivered)
  | faulted {fault : Fault} :
      Closes tracer (.raised fault) (.faulted tracer.path fault.render)

/-- The entry of a tracer's call: the entering event, with the forwarded arguments if the hook
changes them, and a snapshot of the frames if the hook asks for one. -/
def Tracer.opening (tracer : Tracer) (arguments forwarded : List Value) (frames : List String) :
    List Mark :=
  tracer.mark (.entered tracer.path (arguments.map Value.render)
      (if tracer.hook.transformArguments.isSome then some (forwarded.map Value.render)
        else none)) ::
    if tracer.hook.backtrace then [tracer.mark (.frames tracer.path (renderFrames frames))] else []

/-- Sequences of complete brackets. A bracket is the entry of a tracer's call, what is traced
while its declared body runs and while its result is transformed, and the closing event of the
same tracer for the outcome of this body. -/
inductive Bracketed : List Mark → Prop where
  | empty : Bracketed []
  | append {first second : List Mark} (left : Bracketed first) (right : Bracketed second) :
      Bracketed (first ++ second)
  | call {tracer : Tracer} {arguments forwarded : List Value} {frames : List String}
      {runtime : RuntimeId} {receiver : Value} {state after : State} {within : List Episode}
      {outcome : Outcome} {delivering : List Mark} {closing : Event}
      (ran : Completes runtime (.procedure (tracer.declaredBody receiver forwarded)) state within
        outcome after)
      (inside : Bracketed (traceOf within)) (settling : Bracketed delivering)
      (closes : tracer.Closes outcome closing) :
      Bracketed (tracer.opening arguments forwarded frames ++ traceOf within ++ delivering ++
        [tracer.mark closing])

theorem Passage.closing_closes (passage : Passage) :
    passage.tracer.Closes passage.outcome passage.closing := by
  unfold closing
  cases passage.outcome with
  | returned value => exact .left
  | raised fault => exact .faulted

theorem Passage.entry_map_mark (passage : Passage) (arguments : List Value) :
    (passage.entry arguments).map passage.tracer.mark =
      passage.tracer.opening arguments passage.forwarded passage.frames := by
  rw [entry, Tracer.entryEvents, Tracer.opening, List.map_cons]
  cases passage.tracer.hook.backtrace <;> rfl

theorem traceOf_traced (site : Site) (passage : Passage)
    (rewriting within delivering : List Episode) :
    traceOf [.traced site passage rewriting within delivering] =
      traceOf rewriting ++
        (passage.tracer.opening site.arguments passage.forwarded passage.frames ++
          traceOf within ++ traceOf delivering ++ [passage.tracer.mark passage.closing]) := by
  have closing : [passage.tracer.mark passage.closing].filter Mark.isTraced =
      [passage.tracer.mark passage.closing] := rfl
  rw [traceOf_cons, traceOf_nil, List.append_nil, Episode.marks, List.filter_append,
    List.filter_append, List.filter_append, List.filter_append,
    Tracer.filter_isTraced_map_mark, passage.entry_map_mark, closing]
  simp only [traceOf, List.append_assoc]

/-- The trace of a completed task is a sequence of complete brackets. -/
theorem Completes.bracketed {runtime : RuntimeId} {task : Task} {state after : State}
    {episodes : List Episode} {outcome : Outcome}
    (completes : Completes runtime task state episodes outcome after) :
    Bracketed (traceOf episodes) := by
  induction completes with
  | finish | refused => exact .empty
  | call _ _ called rest | nativeUnprobed _ _ _ called rest =>
    rw [traceOf_append]
    exact .append called rest
  | frames _ rest => exact rest
  | spawn _ _ _ rest =>
    rw [traceOf_cons, Episode.marks, filter_isTraced_map_removed]
    exact rest
  | hook _ rest | install _ rest | define _ rest => exact rest
  | nativeProbed _ _ _ _ _ called rest =>
    rw [traceOf_cons, Episode.marks, List.filter_append, List.filter_append,
      filter_isTraced_map_boundaryMark, filter_isTraced_map_boundaryMark, List.nil_append,
      List.append_nil]
    exact .append called rest
  | dispatched _ _ called => exact called
  | plain _ _ ran | straight _ _ _ ran =>
    rw [traceOf_cons, traceOf_nil, List.append_nil]
    exact ran
  | traced _ _ isPassage _ ran _ rewrote inside delivered =>
    subst isPassage
    rw [traceOf_traced]
    exact .append rewrote (.call ran inside delivered (Passage.closing_closes _))

/-! ### Pairs of entries and ends -/

/-- Follows a trace with the stack of the tracers whose calls are open. An entry pushes its
tracer, and an end must be that of the innermost one and pops it. -/
def Mark.track (calls : List Nat) (mark : Mark) : Option (List Nat) :=
  match mark.source, mark.emission.event with
  | .tracer tracer, .entered _ _ _ => some (tracer.identity :: calls)
  | .tracer tracer, .left _ _ _ | .tracer tracer, .faulted _ _ =>
    match calls with
    | innermost :: outer => if innermost = tracer.identity then some outer else none
    | [] => none
  | _, _ => some calls

theorem Tracer.track_opening (tracer : Tracer) (arguments forwarded : List Value)
    (frames : List String) (calls : List Nat) :
    (tracer.opening arguments forwarded frames).foldlM Mark.track calls =
      some (tracer.identity :: calls) := by
  unfold opening
  cases tracer.hook.backtrace <;> rfl

theorem Tracer.Closes.track {tracer : Tracer} {outcome : Outcome} {closing : Event}
    (closes : tracer.Closes outcome closing) (calls : List Nat) :
    (tracer.mark closing).track (tracer.identity :: calls) = some calls := by
  cases closes <;> exact if_pos rfl

/-- Whatever calls are open around it, a sequence of complete brackets leaves open just
these. -/
theorem Bracketed.track {marks : List Mark} (bracketed : Bracketed marks) (calls : List Nat) :
    marks.foldlM Mark.track calls = some calls := by
  induction bracketed generalizing calls with
  | empty => rfl
  | append _ _ first second =>
    rw [List.foldlM_append, first]
    exact second calls
  | call _ _ _ closes inside settling =>
    rw [List.foldlM_append, List.foldlM_append, List.foldlM_append, Tracer.track_opening]
    simp only [Option.bind_eq_bind, Option.bind_some, inside, settling, List.foldlM_cons,
      closes.track, List.foldlM_nil]
    rfl

/-- What tracers emit in a call that ends is a sequence of complete brackets; in particular
every entry is closed once, by its own tracer, in the order of a stack. -/
theorem traces_are_bracketed {fuel : Nat} {callee : Callee} {runtime : RuntimeId}
    {receiver : Value} {arguments : List Value} {state after : State} {outcome : Outcome}
    (gave : callee.call (run fuel) runtime receiver arguments state = some (outcome, after)) :
    ∃ episodes,
      Completes runtime (.dispatch callee receiver arguments) state episodes outcome after ∧
      after.world.sink.emissions = state.world.sink.emissions ++ emissionsOf episodes ∧
      Bracketed (traceOf episodes) ∧
      (traceOf episodes).foldlM Mark.track [] = some [] := by
  obtain ⟨episodes, completes⟩ := Callee.call_completes (run_sound fuel) callee gave
  have bracketed := completes.bracketed
  exact ⟨episodes, completes, completes.emissions, bracketed, bracketed.track []⟩

/-- A process with a hooked method that hooks itself anew and then raises a fault. -/
def rehooking : State :=
  let reference : OverloadRef := ⟨"Job", "run", ⟨[]⟩⟩
  let body : Body := fun _ _ =>
    .install none 1 reference "Job.again" {} fun _ => .finish (.raised ⟨"Error", "stopped"⟩)
  let declared : World :=
    { registries := [(({} : Registry).declareMethod "Job" "run" [] body).2] }
  { world := (declared.installHook ⟨0, 0⟩ reference "Job.run" { backtrace := true }).2 }

theorem traces_are_bracketed_rehooking :
    ∃ outcome after,
      Callee.call (.method "Job" "run") (run 2) 0 .null [] rehooking = some (outcome, after) ∧
      after.world.sink.emissions.length = 3 ∧
      ∃ episodes,
        Completes 0 (.dispatch (.method "Job" "run") .null []) rehooking episodes outcome after ∧
        after.world.sink.emissions =
          rehooking.world.sink.emissions ++ emissionsOf episodes ∧
        Bracketed (traceOf episodes) ∧
        (traceOf episodes).foldlM Mark.track [] = some [] := by
  obtain ⟨outcome, after, gave, length⟩ : ∃ outcome after,
      Callee.call (.method "Job" "run") (run 2) 0 .null [] rehooking = some (outcome, after) ∧
      after.world.sink.emissions.length = 3 := ⟨_, _, rfl, rfl⟩
  exact ⟨outcome, after, gave, length, traces_are_bracketed gave⟩

end Intercept
