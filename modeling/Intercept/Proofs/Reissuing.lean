/-
This file compares runs in worlds that are the same but for the identities that tracers have been
issued. Unlike a comparison by likenesses, this one is for bodies that may install hooks while
they run: both worlds then issue their next identities, which correspond as well. The identities
are only ever compared with each other, so under a correspondence that confuses none, whatever
the one world does, the other one does too, and both serve all requests in the same way.
-/
import Intercept.Proofs.Sparing

namespace Intercept

/-! ### Worlds up to identities -/

/-- Overloads that are the same but for the identity of the tracer over them. -/
structure Overload.Reissued (renames : Nat → Nat → Prop) (overload other : Overload) : Prop where
  reference : other.reference = overload.reference
  declaredBody : other.declaredBody = overload.declaredBody
  installed : Option.Rel (BodyInForce.Renamed renames) overload.installed other.installed

/-- Registries with the same classes, and the same overloads but for identities. -/
structure Registry.Reissued (renames : Nat → Nat → Prop) (registry other : Registry) : Prop where
  classes : other.classes = registry.classes
  overloads : List.Forall₂ (Overload.Reissued renames) registry.overloads other.overloads

/-- Worlds that are the same but for identities; those that they will issue correspond. -/
structure World.Reissued (renames : Nat → Nat → Prop) (world other : World) : Prop where
  host : other.host = world.host
  boundary : other.boundary = world.boundary
  sink : other.sink = world.sink
  runtimes : world.registries.length = other.registries.length
  registry : ∀ runtime, (world.registry runtime).Reissued renames (other.registry runtime)
  fresh : ∀ later, renames (world.nextTracer + later) (other.nextTracer + later)

/-- Worlds that are the same but for identities are side by side, with nothing set apart. -/
theorem World.Reissued.paired {renames : Nat → Nat → Prop} {world other : World}
    (reissued : world.Reissued renames other) :
    world.Paired ⟨renames, fun _ _ => False, [], []⟩ other where
  host := reissued.host
  boundary := reissued.boundary
  runtimes := reissued.runtimes
  registry runtime := ⟨(reissued.registry runtime).classes,
    (reissued.registry runtime).overloads.imp fun _ _ related =>
      ⟨related.reference, related.declaredBody, fun _ => related.installed⟩⟩
  fresh := reissued.fresh
  emitted := ⟨world.sink.emissions, rfl, congrArg Sink.emissions reissued.sink⟩

/-! ### Requests -/

variable {comparison : Comparison}

/-- Where nothing is set apart, states side by side serve requests in the same way. -/
theorem Serves.of_paired (unique : Relator.BiUnique comparison.renames)
    (together : ∀ runtime reference, ¬ comparison.apart runtime reference)
    {requests : List Request} {answers : List Answer} {state other : State}
    (serves : Serves state requests answers) (paired : state.Paired comparison other) :
    Serves other requests answers := by
  have spares (request : Request) (state other : State) :
      (request.begun state).Spares comparison.apart ∨
        (request.begun other).Spares comparison.apart :=
    .inl fun _ _ _ _ _ _ => together _ _
  induction serves generalizing other with
  | done => exact .done
  | @next request _ _ _ _ _ state _ gave emits _ inductionHypothesis =>
    obtain ⟨_, completes⟩ := Callee.call_completes (run_sound _) _ gave
    obtain ⟨_, _, otherCompletes, after, -⟩ :=
      completes.paired unique .dispatch paired (spares request state other)
    obtain ⟨bound, ends⟩ := otherCompletes.ends
    exact .next (ends bound (Nat.le_refl bound)) (paired.world.emits after.world emits)
      (inductionHypothesis after)
  | @underway request _ _ state _ arrives emits =>
    obtain ⟨_, otherArrives, same⟩ :=
      arrives.paired unique (paired.begun request) (spares request state other)
    exact .underway otherArrives (paired.world.emits same.state.world emits)

/-- Two worlds that are the same but for identities cannot be told apart by requests. -/
theorem World.Reissued.serves_iff {renames : Nat → Nat → Prop} (unique : Relator.BiUnique renames)
    {world other : World} (reissued : world.Reissued renames other) (requests : List Request)
    (answers : List Answer) :
    Serves { world } requests answers ↔ Serves { world := other } requests answers := by
  constructor
  · exact fun serves => serves.of_paired unique (fun _ _ => not_false) reissued.paired.onThread
  · exact fun serves =>
      serves.of_paired (biUnique_flip unique) (fun _ _ => not_false) reissued.paired.symm.onThread

end Intercept
