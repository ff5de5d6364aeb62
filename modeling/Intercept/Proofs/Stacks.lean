/-
This file proves that the stacks of a thread are exact. A run on a thread begins with empty stacks.
From then on, wherever the run comes, the frames are the keys of the open calls, innermost first:
every call has one frame, whether its overload is hooked or not and whether its tracer is
forwarding or not, and a tracer has no frame of its own. The forwarding stack holds the tracers
that forward open calls, none of them twice. What ends, with a value or with a fault, leaves both
stacks as they were. So a snapshot that a tracer takes shows its own call and then the calls
around it, and nothing else.
-/
import Intercept.Proofs.Provenance

namespace Intercept

/-! ### No tracer forwards twice -/

/-- A tracer begins to forward only where it is not forwarding, and the innermost forwarding ends
first, so no identity comes to be on the stack twice. -/
theorem Moment.Leads.distinct {moment next : Moment} (leads : moment.Leads next)
    (distinct : moment.state.thread.forwarding.Nodup) : next.state.thread.forwarding.Nodup := by
  cases leads with
  | spawn => exact List.nodup_nil
  | called completes | unprobedCalled _ completes =>
    rw [completes.thread]
    exact distinct
  | probedCalled _ _ _ completes =>
    rw [State.emitAll, completes.thread]
    exact distinct
  | forwarding _ idle rewrote =>
    rw [State.beginForward, State.emitAll, rewrote.thread]
    exact List.nodup_cons.mpr ⟨idle, distinct⟩
  | settling _ _ rewrote forwarded =>
    rw [State.endForward, forwarded.thread, State.beginForward, State.emitAll, rewrote.thread]
    exact distinct
  | _ => exact distinct

/-! ### Snapshots -/

/-- The keys of the open calls, innermost first. -/
def Moment.keys (moment : Moment) : List String :=
  moment.calls.map fun call => call.reference.key

/-- That a snapshot is taken in a run: by the tracer of a call that is about to be traced, under
its path, of the key of this call and the keys of the calls around it. -/
def Moment.Snaps (start : Moment) (emitter : EmitterId) (path stack : String) : Prop :=
  ∃ moment overload receiver arguments tracer, start.Arrives moment ∧
    moment.task = .call overload receiver arguments ∧ overload.bodyInForce = .traced tracer ∧
    tracer.identity ∉ moment.state.thread.forwarding ∧ tracer.emitter = emitter ∧
    tracer.path = path ∧ stack = renderFrames (overload.reference.key :: moment.keys)

/-- That what has been emitted grows from a list to another one, and all snapshots that come to it
are taken in a run. -/
def Moment.SnapsAll (start : Moment) (before after : List Emission) : Prop :=
  ∃ emitted, after = before ++ emitted ∧ ∀ emitter path stack,
    ⟨emitter, .frames path stack⟩ ∈ emitted → start.Snaps emitter path stack

/-! ### Exact stacks -/

/-- That the stacks of the thread are exact at a moment of a run. -/
structure Moment.Exact (start moment : Moment) : Prop where
  /-- The frames are the keys of the open calls, one for each, innermost first. -/
  frames : moment.state.thread.frames = moment.keys
  /-- A procedure that reads the frames goes on with these keys. -/
  reads : ∀ fuel next, run (fuel + 1) moment.runtime (.frames next) moment.state =
    run fuel moment.runtime (next moment.keys) moment.state
  /-- The identities on the forwarding stack are those of the tracers that forward open calls. -/
  forwarding : moment.state.thread.forwarding =
    (moment.calls.filterMap OpenCall.forwarding).map Tracer.identity
  distinct : moment.state.thread.forwarding.Nodup
  /-- Whatever is done at the moment, it leaves both stacks as they were, if it ends. -/
  restored : ∀ task fuel outcome after,
    Task.perform fuel moment.runtime task moment.state = some (outcome, after) →
      after.thread = moment.state.thread
  /-- Snapshots show the calls that were open when they were taken: those taken before the moment,
  and those taken after it if what is to be done ends. -/
  snapshots : start.SnapsAll start.state.world.sink.emissions moment.state.world.sink.emissions
  snapshotsThen : ∀ fuel outcome after,
    Task.perform fuel moment.runtime moment.task moment.state = some (outcome, after) →
      start.SnapsAll start.state.world.sink.emissions after.world.sink.emissions

section Runs

variable {start moment : Moment} (stacked : start.Stacked)

include stacked

/-- A snapshot that a run has emitted is one of its moments. -/
theorem Moment.Originates.snaps {emitter : EmitterId} {path stack : String}
    (originates : start.Originates ⟨emitter, .frames path stack⟩) :
    start.Snaps emitter path stack := by
  obtain ⟨origin, arrives, emits⟩ := originates
  obtain ⟨frames, -⟩ := arrives.keeps Moment.Stacked.of_leads stacked
  cases emits with
  | traced calls force idle tells =>
    obtain ⟨samePath, sameStack⟩ := tells.stack
    rw [frames] at sameStack
    exact ⟨_, _, _, _, _, arrives, calls, force, idle, rfl, samePath.symm, sameStack⟩
  | crossed _ _ pathless => cases pathless

theorem Moment.Explains.snapsAll {before after : List Emission}
    (explains : start.Explains before after) : start.SnapsAll before after := by
  obtain ⟨emitted, adds, originates⟩ := explains
  exact ⟨emitted, adds, fun _ _ _ isEmitted => (originates _ isEmitted).snaps stacked⟩

theorem Moment.Arrives.exact (distinct : start.state.thread.forwarding.Nodup)
    (arrives : start.Arrives moment) : start.Exact moment := by
  obtain ⟨frames, forwarding⟩ := arrives.keeps Moment.Stacked.of_leads stacked
  have explains := arrives.explains
  refine ⟨frames, fun fuel next => ?_, forwarding, arrives.keeps Moment.Leads.distinct distinct,
    fun task fuel outcome after ends => ?_, explains.snapsAll stacked,
    fun fuel outcome after ends => ?_⟩
  · rw [run, frames]
    rfl
  · obtain ⟨episodes, completes⟩ := Task.completes ends
    exact completes.thread
  · obtain ⟨episodes, completes⟩ := Task.completes ends
    have more := (completes.explains moment.calls moment.observed).of_arrives arrives
    exact (explains.trans more).snapsAll stacked

end Runs

/-- At every moment of a run that begins on a thread of its own, the stacks are exact. -/
theorem stacks_are_exact (world : World) (runtime : RuntimeId) (task : Task) {moment : Moment}
    (arrives : Moment.Arrives ⟨runtime, task, { world }, [], []⟩ moment) :
    Moment.Exact ⟨runtime, task, { world }, [], []⟩ moment :=
  arrives.exact ⟨rfl, rfl⟩ List.nodup_nil

/-- A greeting with a wave in it, both hooked with snapshots. The wave reads the frames. -/
def wavingWorld : World :=
  let greeting : Body := fun _ _ => .call none "Desk" "wave" .null [] .finish
  let wave : Body := fun _ _ => .frames fun keys => .pure (.list (keys.map .str))
  let hooked (identity : Nat) (member : String) (body : Body) : Overload :=
    ⟨⟨"Desk", member, ⟨[]⟩⟩, body,
      some (.traced ⟨identity, 0, "Desk." ++ member, { backtrace := true }, body⟩)⟩
  { registries :=
      [⟨[⟨"Desk", ["greet", "wave"]⟩], [hooked 1 "greet" greeting, hooked 2 "wave" wave]⟩]
    nextTracer := 3 }

/-- In the wave both tracers forward, and its snapshot shows the wave and the greeting. -/
theorem stacks_are_exact_waving :
    let start : Moment := ⟨0, .dispatch (.method "Desk" "greet") .null [], { world := wavingWorld },
      [], []⟩
    ∃ moment, start.Arrives moment ∧ start.Exact moment ∧
      moment.keys = ["Desk.wave()", "Desk.greet()"] ∧
      moment.state.thread.forwarding = [2, 1] ∧
      moment.state.world.sink.emissions.map Emission.event =
        [.entered "Desk.greet" [] none, .frames "Desk.greet" (renderFrames ["Desk.greet()"]),
          .entered "Desk.wave" [] none,
          .frames "Desk.wave" (renderFrames ["Desk.wave()", "Desk.greet()"])] := by
  intro start
  have greets : start.Arrives _ :=
    (Relation.ReflTransGen.single (.dispatched rfl)).tail
      (.forwarding rfl List.not_mem_nil .finish)
  have waves : start.Arrives _ :=
    ((greets.tail .call).tail (.dispatched rfl)).tail (.forwarding rfl (by decide) .finish)
  exact ⟨_, waves, stacks_are_exact wavingWorld 0 _ waves, rfl, rfl, rfl⟩

end Intercept
