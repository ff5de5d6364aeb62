/-
This file takes calls apart into steps, so that many threads can run over one process at once. A
strand is one call made on a thread of its own, with what is still to be done written down as a
stack: reading the body in force, emitting an event, forwarding, and returning are steps, and the
frames and the forwarding stack are the strand's own. Between any two steps of one strand, other
strands may step, calls may be made, and hooks that only trace may be installed. Every task that
completes does so in steps of a strand.
-/
import Intercept.Proofs.Rearming
import Intercept.Proofs.Transparency

namespace Intercept

/-! ### Strands -/

/-- Something that a strand emits: the event of a tracer for the call at a site, or the event of
a probe. -/
inductive Telling where
  | traced (site : Site) (tracer : Tracer) (event : Event)
  | probed (emitter : EmitterId) (event : Event)

/-- What is emitted. -/
def Telling.emission : Telling → Emission
  | .traced _ tracer event => ⟨tracer.emitter, event⟩
  | .probed emitter event => ⟨emitter, event⟩

/-- What is known of a strand's step: that a call has reached an overload, with whatever was
installed over it then, or that something has been emitted. -/
inductive News where
  | reached (site : Site) (overload : Overload)
  | told (telling : Telling)

/-- What a strand does next: a task of a runtime, or handing an outcome on. -/
inductive Focus where
  | perform (runtime : RuntimeId) (task : Task)
  | deliver (outcome : Outcome)

/-- What is to be done with an outcome when it is handed on. -/
inductive Pending where
  /-- Going on with a procedure after a call. -/
  | answer (runtime : RuntimeId) (next : Outcome → Procedure)
  /-- Going on with a procedure on its own thread, after work on a new one. -/
  | join (runtime : RuntimeId) (thread : Thread) (next : Outcome → Procedure)
  /-- Going on with a procedure after a native call, whose return a probe may report. -/
  | cross (runtime : RuntimeId) (probed : Option (EmitterId × Boundary.Crossing))
      (next : Int64 → Procedure)
  /-- Popping the frame of a call. -/
  | leave
  /-- Forwarding the call at a site, when its arguments have been rewritten. -/
  | forward (site : Site) (tracer : Tracer)
  /-- Settling the call at a site, when the declared body has ended. -/
  | settle (site : Site) (tracer : Tracer)
  /-- Closing the call at a site after an outcome of the declared body, when it is settled. -/
  | close (site : Site) (tracer : Tracer) (outcome : Outcome)

/-- A strand: what it does next, what is to be done after that, the stacks of its thread, and
what it has to emit before anything else. -/
structure Strand where
  focus : Focus
  pending : List Pending := []
  thread : Thread := {}
  outbox : List Telling := []

/-- The strand of a call that is about to be made on a thread of its own. -/
def Strand.beginning (runtime : RuntimeId) (callee : Callee) (receiver : Value)
    (arguments : List Value) : Strand :=
  { focus := .perform runtime (.dispatch callee receiver arguments) }

/-- The thread in a call of an overload. -/
def Thread.push (thread : Thread) (key : String) : Thread :=
  { thread with frames := key :: thread.frames }

/-- What a tracer emits at the entry of the call at a site. -/
def Tracer.opens (tracer : Tracer) (site : Site) (forwarded : List Value)
    (frames : List String) : List Telling :=
  (tracer.entryEvents site.arguments forwarded tracer.hook.transformArguments.isSome frames).map
    (.traced site tracer)

/-- What is reported of the return of a native call. -/
def reportsOf (probed : Option (EmitterId × Boundary.Crossing)) (result : Int64) :
    List Telling :=
  match probed with
  | some (emitter, crossing) => (crossing.leave result).map (.probed emitter)
  | none => []

/-! ### Steps of a strand -/

/-- That a strand takes a step, from a world to another one, with what is known of it. -/
inductive Strand.Steps : Strand → World → List News → Strand → World → Prop where
  | tell {focus : Focus} {pending : List Pending} {thread : Thread} {telling : Telling}
      {outbox : List Telling} {world : World} :
      Steps ⟨focus, pending, thread, telling :: outbox⟩ world [.told telling]
        ⟨focus, pending, thread, outbox⟩
        (world.emit telling.emission.emitter telling.emission.event)
  | finish {runtime : RuntimeId} {outcome : Outcome} {pending : List Pending} {thread : Thread}
      {world : World} :
      Steps ⟨.perform runtime (.procedure (.finish outcome)), pending, thread, []⟩ world []
        ⟨.deliver outcome, pending, thread, []⟩ world
  | call {runtime : RuntimeId} {elsewhere : Option RuntimeId} {container member : String}
      {receiver : Value} {arguments : List Value} {next : Outcome → Procedure}
      {pending : List Pending} {thread : Thread} {world : World} :
      Steps
        ⟨.perform runtime (.procedure (.call elsewhere container member receiver arguments next)),
          pending, thread, []⟩ world []
        ⟨.perform (elsewhere.getD runtime)
            (.dispatch (.method container member) receiver arguments),
          .answer runtime next :: pending, thread, []⟩ world
  | frames {runtime : RuntimeId} {next : List String → Procedure} {pending : List Pending}
      {thread : Thread} {world : World} :
      Steps ⟨.perform runtime (.procedure (.frames next)), pending, thread, []⟩ world []
        ⟨.perform runtime (.procedure (next thread.frames)), pending, thread, []⟩ world
  | spawn {runtime : RuntimeId} {work : Procedure} {next : Outcome → Procedure}
      {pending : List Pending} {thread : Thread} {world : World} :
      Steps ⟨.perform runtime (.procedure (.spawn work next)), pending, thread, []⟩ world []
        ⟨.perform runtime (.procedure work), .join runtime thread next :: pending, {}, []⟩ world
  | hook {runtime : RuntimeId} {elsewhere : Option RuntimeId} {emitter : EmitterId}
      {target : String} {hook : Hook} {next : List InstalledHook → Procedure}
      {pending : List Pending} {thread : Thread} {world : World} :
      Steps
        ⟨.perform runtime (.procedure (.hook elsewhere emitter target hook next)), pending, thread,
          []⟩ world []
        ⟨.perform runtime
          (.procedure (next (world.hookTarget ⟨elsewhere.getD runtime, emitter⟩ target hook).1)),
          pending, thread, []⟩ (world.hookTarget ⟨elsewhere.getD runtime, emitter⟩ target hook).2
  | install {runtime : RuntimeId} {elsewhere : Option RuntimeId} {emitter : EmitterId}
      {overload : OverloadRef} {path : String} {hook : Hook}
      {next : Except HookFailure InstalledHook → Procedure} {pending : List Pending}
      {thread : Thread} {world : World} :
      Steps
        ⟨.perform runtime (.procedure (.install elsewhere emitter overload path hook next)),
          pending, thread, []⟩ world []
        ⟨.perform runtime (.procedure
          (next (world.installHook ⟨elsewhere.getD runtime, emitter⟩ overload path hook).1)),
          pending, thread, []⟩
        (world.installHook ⟨elsewhere.getD runtime, emitter⟩ overload path hook).2
  | define {runtime : RuntimeId} {container member : String} {parameters : List String}
      {body : Body} {next : Except HookFailure OverloadRef → Procedure} {pending : List Pending}
      {thread : Thread} {world : World} :
      Steps
        ⟨.perform runtime (.procedure (.define container member parameters body next)), pending,
          thread, []⟩ world []
        ⟨.perform runtime (.procedure
          (next ((world.registry runtime).declareMethod container member parameters body).1)),
          pending, thread, []⟩
        (world.setRegistry runtime
          ((world.registry runtime).declareMethod container member parameters body).2)
  | unprobed {runtime : RuntimeId} {address : UInt64} {arguments : List Boundary.Argument}
      {callee : Procedure} {next : Int64 → Procedure} {pending : List Pending} {thread : Thread}
      {world : World} (unprobed : world.boundary.probeAt? address = none) :
      Steps
        ⟨.perform runtime (.procedure (.native address arguments callee next)), pending, thread, []⟩
        world []
        ⟨.perform runtime (.procedure callee), .cross runtime none next :: pending, thread, []⟩
        world
  | probed {runtime : RuntimeId} {address : UInt64} {arguments : List Boundary.Argument}
      {callee : Procedure} {next : Int64 → Procedure} {pending : List Pending} {thread : Thread}
      {world : World} {probe : Boundary.Probe} {crossing noted : Boundary.Crossing}
      {boundary : Boundary} {events : List Event}
      (probed : world.boundary.probeAt? address = some probe)
      (begun : world.boundary.beginCrossing = (crossing, boundary))
      (entered : probe.enter arguments crossing = (events, noted)) :
      Steps
        ⟨.perform runtime (.procedure (.native address arguments callee next)), pending, thread, []⟩
        world []
        ⟨.perform runtime (.procedure callee),
          .cross runtime (some (probe.emitter, noted)) next :: pending, thread,
          events.map (.probed probe.emitter)⟩
        { world with boundary }
  /-- The body in force is read, and is what is run from then on. -/
  | dispatched {runtime : RuntimeId} {callee : Callee} {receiver : Value}
      {arguments : List Value} {overload : Overload} {pending : List Pending} {thread : Thread}
      {world : World}
      (found : callee.find? (world.registry runtime) arguments = some overload) :
      Steps ⟨.perform runtime (.dispatch callee receiver arguments), pending, thread, []⟩ world
        [.reached ⟨runtime, overload.reference, receiver, arguments⟩ overload]
        ⟨.perform runtime (.call overload receiver arguments), pending, thread, []⟩ world
  | refused {runtime : RuntimeId} {callee : Callee} {receiver : Value} {arguments : List Value}
      {pending : List Pending} {thread : Thread} {world : World}
      (missing : callee.find? (world.registry runtime) arguments = none) :
      Steps ⟨.perform runtime (.dispatch callee receiver arguments), pending, thread, []⟩ world []
        ⟨.deliver (.raised (.noneAccepts callee.name arguments.length)), pending, thread, []⟩ world
  | plain {runtime : RuntimeId} {overload : Overload} {body : Body} {receiver : Value}
      {arguments : List Value} {pending : List Pending} {thread : Thread} {world : World}
      (force : overload.bodyInForce = .plain body) :
      Steps ⟨.perform runtime (.call overload receiver arguments), pending, thread, []⟩ world []
        ⟨.perform runtime (.procedure (body receiver arguments)), .leave :: pending,
          thread.push overload.reference.key, []⟩ world
  | straight {runtime : RuntimeId} {overload : Overload} {tracer : Tracer} {receiver : Value}
      {arguments : List Value} {pending : List Pending} {thread : Thread} {world : World}
      (force : overload.bodyInForce = .traced tracer)
      (busy : tracer.identity ∈ thread.forwarding) :
      Steps ⟨.perform runtime (.call overload receiver arguments), pending, thread, []⟩ world []
        ⟨.perform runtime (.procedure (tracer.declaredBody receiver arguments)), .leave :: pending,
          thread.push overload.reference.key, []⟩ world
  | rewrite {runtime : RuntimeId} {overload : Overload} {tracer : Tracer} {receiver : Value}
      {arguments : List Value} {pending : List Pending} {thread : Thread} {world : World}
      (force : overload.bodyInForce = .traced tracer)
      (idle : tracer.identity ∉ thread.forwarding) :
      Steps ⟨.perform runtime (.call overload receiver arguments), pending, thread, []⟩ world []
        ⟨.perform runtime (.procedure (tracer.rewriting arguments)),
          .forward ⟨runtime, overload.reference, receiver, arguments⟩ tracer :: .leave :: pending,
          thread.push overload.reference.key, []⟩ world
  | forward {site : Site} {tracer : Tracer} {rewritten : Outcome} {pending : List Pending}
      {thread : Thread} {world : World} :
      Steps ⟨.deliver rewritten, .forward site tracer :: pending, thread, []⟩ world []
        ⟨.perform site.runtime
          (.procedure (tracer.declaredBody site.receiver rewritten.asArguments)),
          .settle site tracer :: pending,
          { thread with forwarding := tracer.identity :: thread.forwarding },
          tracer.opens site rewritten.asArguments thread.frames⟩ world
  | settle {site : Site} {tracer : Tracer} {outcome : Outcome} {pending : List Pending}
      {thread : Thread} {world : World} :
      Steps ⟨.deliver outcome, .settle site tracer :: pending, thread, []⟩ world []
        ⟨.perform site.runtime (.procedure (tracer.settling outcome)),
          .close site tracer outcome :: pending,
          { thread with forwarding := thread.forwarding.tail }, []⟩ world
  | close {site : Site} {tracer : Tracer} {outcome delivery : Outcome} {passage : Passage}
      {pending : List Pending} {thread : Thread} {world : World}
      (isPassage : passage = ⟨tracer, site.arguments, thread.frames, outcome, delivery⟩) :
      Steps ⟨.deliver delivery, .close site tracer outcome :: pending, thread, []⟩ world []
        ⟨.deliver passage.result, pending, thread, [.traced site tracer passage.closing]⟩ world
  | leave {outcome : Outcome} {pending : List Pending} {thread : Thread} {world : World} :
      Steps ⟨.deliver outcome, .leave :: pending, thread, []⟩ world []
        ⟨.deliver outcome, pending, { thread with frames := thread.frames.tail }, []⟩ world
  | answer {runtime : RuntimeId} {next : Outcome → Procedure} {outcome : Outcome}
      {pending : List Pending} {thread : Thread} {world : World} :
      Steps ⟨.deliver outcome, .answer runtime next :: pending, thread, []⟩ world []
        ⟨.perform runtime (.procedure (next outcome)), pending, thread, []⟩ world
  | join {runtime : RuntimeId} {next : Outcome → Procedure} {outcome : Outcome}
      {pending : List Pending} {own thread : Thread} {world : World} :
      Steps ⟨.deliver outcome, .join runtime own next :: pending, thread, []⟩ world []
        ⟨.perform runtime (.procedure (next outcome)), pending, own, []⟩ world
  | cross {runtime : RuntimeId} {probed : Option (EmitterId × Boundary.Crossing)}
      {next : Int64 → Procedure} {outcome : Outcome} {pending : List Pending} {thread : Thread}
      {world : World} :
      Steps ⟨.deliver outcome, .cross runtime probed next :: pending, thread, []⟩ world []
        ⟨.perform runtime (.procedure (next outcome.asWord)), pending, thread,
          reportsOf probed outcome.asWord⟩ world

/-! ### Processes -/

/-- A world with strands over it, in the order in which their calls were made, and what is known
of their steps, each step with the place of its strand. -/
structure Process where
  world : World
  strands : List Strand := []
  history : List (Nat × News) := []

namespace Process

/-- A process in which another call is about to be made. -/
def make (process : Process) (runtime : RuntimeId) (callee : Callee) (receiver : Value)
    (arguments : List Value) : Process :=
  { process with
    strands := process.strands ++ [Strand.beginning runtime callee receiver arguments] }

/-- The process after a step of the strand at an index, with what is known of the step. -/
def advance (process : Process) (index : Nat) (news : List News) (next : Strand)
    (world : World) : Process :=
  ⟨world, process.strands.set index next, process.history ++ news.map (Prod.mk index)⟩

/-- That something happens in a process: a call is about to be made, a strand takes a step, or
hooks that only trace are installed. -/
inductive Leads (process : Process) : Process → Prop where
  | made (runtime : RuntimeId) (callee : Callee) (receiver : Value) (arguments : List Value) :
      Leads process (process.make runtime callee receiver arguments)
  | stepped {index : Nat} {strand next : Strand} {news : List News} {world : World}
      (present : process.strands[index]? = some strand)
      (steps : strand.Steps process.world news next world) :
      Leads process (process.advance index news next world)
  | installed {operation : Operation} {log : List Installation} {after : State}
      (only : operation.OnlyTraces)
      (leads : operation.Leads { world := process.world } log after) :
      Leads process { process with world := after.world }

/-- That a process comes from another one, by whatever happens in whatever order. -/
def Reaches : Process → Process → Prop :=
  Relation.ReflTransGen Leads

/-! ### One strand among others -/

/-- What is known of the steps of the strand at an index, in order. -/
def newsAt (process : Process) (index : Nat) : List News :=
  process.history.filterMap fun entry => if entry.1 = index then some entry.2 else none

theorem strands_make (process : Process) (runtime : RuntimeId) (callee : Callee)
    (receiver : Value) (arguments : List Value) :
    (process.make runtime callee receiver arguments).strands[process.strands.length]? =
      some (.beginning runtime callee receiver arguments) := by
  rw [make, List.getElem?_append_right (Nat.le_refl _), Nat.sub_self]
  rfl

section Following

variable {process after : Process} {index : Nat} {strand : Strand}

theorem newsAt_advance_self (process : Process) (index : Nat) (news : List News) (next : Strand)
    (world : World) :
    (process.advance index news next world).newsAt index = process.newsAt index ++ news := by
  rw [newsAt, advance, List.filterMap_append, List.filterMap_map]
  refine congrArg (process.newsAt index ++ ·) ?_
  exact (List.filterMap_congr fun _ _ => if_pos rfl).trans List.filterMap_some

theorem newsAt_advance_other {stepping : Nat} (different : stepping ≠ index) (news : List News)
    (next : Strand) (world : World) :
    (process.advance stepping news next world).newsAt index = process.newsAt index := by
  rw [newsAt, advance, List.filterMap_append, List.filterMap_map]
  refine (congrArg (process.newsAt index ++ ·) ?_).trans (List.append_nil _)
  exact List.filterMap_eq_nil_iff.mpr fun _ _ => if_neg different

theorem strands_advance_self (present : process.strands[index]? = some strand)
    (news : List News) (next : Strand) (world : World) :
    (process.advance index news next world).strands[index]? = some next :=
  List.getElem?_set_self (List.getElem?_eq_some_iff.mp present).1

/-- Whatever happens in a process, a strand stays as it is, or it is the one that takes a step. -/
theorem Leads.follows (leads : process.Leads after)
    (present : process.strands[index]? = some strand) :
    after.strands[index]? = some strand ∧ after.newsAt index = process.newsAt index ∨
      ∃ news next world, strand.Steps process.world news next world ∧
        after = process.advance index news next world := by
  cases leads with
  | made =>
    have bound := (List.getElem?_eq_some_iff.mp present).1
    exact .inl ⟨(List.getElem?_append_left bound).trans present, rfl⟩
  | installed => exact .inl ⟨present, rfl⟩
  | @stepped stepping _ next news world stepsPresent steps =>
    by_cases same : stepping = index
    · subst same
      cases stepsPresent.symm.trans present
      exact .inr ⟨news, next, world, steps, rfl⟩
    · exact .inl ⟨(List.getElem?_set_ne same).trans present, newsAt_advance_other same ..⟩

end Following

/-! ### Tasks in steps -/

/-- That a strand can proceed from a world to another one, wherever it stands among the strands
and whatever has happened. The other strands take no step in it. -/
def Proceeds (strand : Strand) (world : World) (next : Strand) (after : World) : Prop :=
  ∀ before others history, ∃ news : List News,
    Reaches ⟨world, before ++ strand :: others, history⟩
      ⟨after, before ++ next :: others, history ++ news.map (Prod.mk before.length)⟩

theorem Proceeds.refl (strand : Strand) (world : World) : Proceeds strand world strand world := by
  intro before others history
  refine ⟨[], ?_⟩
  rw [List.map_nil, List.append_nil]
  exact .refl

theorem Proceeds.trans {world middle after : World} {strand next last : Strand}
    (first : Proceeds strand world next middle) (second : Proceeds next middle last after) :
    Proceeds strand world last after := by
  intro before others history
  obtain ⟨news, reaches⟩ := first before others history
  obtain ⟨more, goesOn⟩ := second before others (history ++ news.map (Prod.mk before.length))
  refine ⟨news ++ more, ?_⟩
  rw [List.map_append, ← List.append_assoc]
  exact reaches.trans goesOn

theorem Proceeds.of_steps {world after : World} {strand next : Strand} {news : List News}
    (steps : strand.Steps world news next after) : Proceeds strand world next after := by
  intro before others history
  have present : (before ++ strand :: others)[before.length]? = some strand := by
    rw [List.getElem?_append_right (Nat.le_refl _), Nat.sub_self]
    rfl
  have stepped :
      (before ++ strand :: others).set before.length next = before ++ next :: others := by
    rw [List.set_append_right _ _ (Nat.le_refl _), Nat.sub_self]
    rfl
  have leads : Leads ⟨world, before ++ strand :: others, history⟩ _ := .stepped present steps
  rw [advance, stepped] at leads
  exact ⟨news, .single leads⟩

theorem Proceeds.head {world middle after : World} {strand next last : Strand}
    {news : List News} (steps : strand.Steps world news next middle)
    (rest : Proceeds next middle last after) : Proceeds strand world last after :=
  (Proceeds.of_steps steps).trans rest

/-- A strand emits what it has to emit. -/
theorem Proceeds.tellAll {emitter : EmitterId} {telling : Event → Telling}
    (emits : ∀ event, (telling event).emission = ⟨emitter, event⟩) (focus : Focus)
    (pending : List Pending) (thread : Thread) (events : List Event) (world : World) :
    Proceeds ⟨focus, pending, thread, events.map telling⟩ world ⟨focus, pending, thread, []⟩
      (world.emitAll emitter events) := by
  induction events generalizing world with
  | nil => exact .refl _ _
  | cons event rest inductionHypothesis =>
    refine .head .tell ?_
    rw [emits event]
    exact inductionHypothesis (world.emit emitter event)

end Process

/-- Every task that completes does so in steps of a strand, whatever is to be done after it. -/
theorem Completes.proceeds {runtime : RuntimeId} {task : Task} {state after : State}
    {episodes : List Episode} {outcome : Outcome}
    (completes : Completes runtime task state episodes outcome after) (pending : List Pending) :
    Process.Proceeds ⟨.perform runtime task, pending, state.thread, []⟩ state.world
      ⟨.deliver outcome, pending, after.thread, []⟩ after.world := by
  induction completes generalizing pending with
  | finish => exact .of_steps .finish
  | refused missing => exact .of_steps (.refused missing)
  | call _ _ called rest => exact .head .call ((called _).trans (.head .answer (rest _)))
  | frames _ rest => exact .head .frames (rest _)
  | spawn _ _ worked rest => exact .head .spawn ((worked _).trans (.head .join (rest _)))
  | hook _ rest => exact .head .hook (rest _)
  | install _ rest => exact .head .install (rest _)
  | define _ rest => exact .head .define (rest _)
  | nativeUnprobed unprobed _ _ called rest =>
    exact .head (.unprobed unprobed) ((called _).trans (.head .cross (rest _)))
  | nativeProbed probed begun entered _ _ called rest =>
    refine .head (.probed probed begun entered) (.trans (.tellAll (fun _ => rfl) _ _ _ _ _) ?_)
    refine (called _).trans (.head .cross (.trans (.tellAll (fun _ => rfl) _ _ _ _ _) (rest _)))
  | dispatched found _ called => exact .head (.dispatched found) (called _)
  | plain force _ ran => exact .head (.plain force) ((ran _).trans (.of_steps .leave))
  | straight force busy _ ran =>
    exact .head (.straight force busy) ((ran _).trans (.of_steps .leave))
  | traced force idle isPassage _ _ _ rewrote forwarded delivered =>
    subst isPassage
    refine .head (.rewrite force idle) ((rewrote _).trans (.head .forward ?_))
    refine .trans (.tellAll (fun _ => rfl) _ _ _ _ _) ((forwarded _).trans (.head .settle ?_))
    exact (delivered _).trans (.head (.close rfl) (.head .tell (.of_steps .leave)))

/-- A call that gives an outcome is a strand that comes to its end with this outcome. -/
theorem Callee.call_proceeds {fuel : Nat} {callee : Callee} {runtime : RuntimeId}
    {receiver : Value} {arguments : List Value} {world : World} {outcome : Outcome}
    {after : State}
    (gave : callee.call (run fuel) runtime receiver arguments { world } = some (outcome, after)) :
    Process.Proceeds (.beginning runtime callee receiver arguments) world
      { focus := .deliver outcome } after.world := by
  obtain ⟨_, completes⟩ := Callee.call_completes (run_sound fuel) callee gave
  have proceeds := completes.proceeds []
  rw [completes.thread] at proceeds
  exact proceeds

end Intercept
