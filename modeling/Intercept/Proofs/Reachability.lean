/-
This file says which worlds a process can come to. All that ever happens to a world, whether it
is done from outside or by bodies while they run, is a sequence of single changes: something is
declared, a tracer or a body is put over an overload, an identity is used up, or what is changed
is no registry at all. So whatever single changes keep holds of every world that can be reached.
In such a world registries are coherent: no two classes have the same name, no two overloads have
the same reference, and every overload is listed as a member of its class. And the identities of
its tracers have been issued once.
-/
import Intercept.Proofs.Evolution
import Mathlib.Logic.Relation

namespace Intercept

namespace Registry

/-! ### Classes -/

/-- The names of the declared classes, in order of their slots. -/
def classNames (registry : Registry) : List String :=
  registry.classes.map DeclaredClass.name

theorem slotOf?_isSome_iff {registry : Registry} {name : String} :
    (registry.slotOf? name).isSome ↔ name ∈ registry.classNames := by
  simp only [slotOf?, List.findIdx?_isSome, List.any_eq_true, decide_eq_true_eq, classNames,
    List.mem_map]

theorem classNames_declareClass (registry : Registry) (name : String) :
    (registry.declareClass name).classNames =
      if name ∈ registry.classNames then registry.classNames
      else registry.classNames ++ [name] := by
  unfold declareClass
  by_cases declared : name ∈ registry.classNames
  · rw [if_pos (slotOf?_isSome_iff.mpr declared), if_pos declared]
  · rw [if_neg (mt slotOf?_isSome_iff.mp declared), if_neg declared, classNames, List.map_append]
    rfl

theorem mem_classNames_declareClass (registry : Registry) (name : String) :
    name ∈ (registry.declareClass name).classNames := by
  rw [classNames_declareClass]
  split
  · assumption
  · exact List.mem_append_right _ (List.mem_singleton_self name)

theorem classes_subset_declareClass (registry : Registry) (name : String) :
    registry.classes ⊆ (registry.declareClass name).classes := by
  unfold declareClass
  split
  · exact List.Subset.refl _
  · exact List.subset_append_left _ _

@[simp]
theorem classNames_noteMember (registry : Registry) (container member : String) :
    (registry.noteMember container member).classNames = registry.classNames := by
  simp only [classNames, noteMember, List.map_map]
  refine List.map_congr_left fun entry _ => ?_
  simp only [Function.comp_apply]
  split <;> rfl

/-! ### Listed members -/

/-- That a class is declared and lists a member. -/
def Lists (registry : Registry) (container member : String) : Prop :=
  ∃ entry ∈ registry.classes, entry.name = container ∧ member ∈ entry.members

theorem Lists.declareClass {registry : Registry} {container member : String}
    (lists : registry.Lists container member) (name : String) :
    (registry.declareClass name).Lists container member := by
  obtain ⟨entry, declared, named, listed⟩ := lists
  exact ⟨entry, registry.classes_subset_declareClass name declared, named, listed⟩

theorem Lists.noteMember {registry : Registry} {container member : String}
    (lists : registry.Lists container member) (other noted : String) :
    (registry.noteMember other noted).Lists container member := by
  obtain ⟨entry, declared, named, listed⟩ := lists
  refine ⟨_, List.mem_map_of_mem declared, ?_, ?_⟩ <;> split
  · exact named
  · exact named
  · exact List.mem_append_left _ listed
  · exact listed

/-- A declared member is listed. -/
theorem lists_declareMember (registry : Registry) (container member : String) :
    (registry.declareMember container member).Lists container member := by
  obtain ⟨entry, declared, named⟩ :=
    List.mem_map.mp (registry.mem_classNames_declareClass container)
  refine ⟨_, List.mem_map_of_mem declared, ?_, ?_⟩ <;> rw [if_pos named]
  · exact named
  · exact List.mem_append_right _ (List.mem_singleton_self member)

/-! ### Coherent registries -/

/-- That classes are told apart by their names and overloads by their references, and that
every overload is listed in its class. -/
structure Coherent (registry : Registry) : Prop where
  named : registry.classNames.Nodup
  distinct : registry.Distinct
  listed : ∀ reference ∈ registry.overloads.map Overload.reference,
    registry.Lists reference.container reference.member

namespace Coherent

variable {registry : Registry}

theorem empty : Coherent {} where
  named := List.nodup_nil
  distinct := List.nodup_nil
  listed _ member := absurd member List.not_mem_nil

theorem declareClass (coherent : registry.Coherent) (name : String) :
    (registry.declareClass name).Coherent where
  named := by
    rw [classNames_declareClass]
    split
    · exact coherent.named
    · next fresh =>
      refine List.nodup_append.mpr ⟨coherent.named, List.nodup_singleton name, ?_⟩
      intro taken isTaken other isOther equal
      rw [equal, List.mem_singleton.mp isOther] at isTaken
      exact fresh isTaken
  distinct := by
    rw [Distinct, overloads_declareClass]
    exact coherent.distinct
  listed := by
    rw [overloads_declareClass]
    exact fun reference member => (coherent.listed reference member).declareClass name

theorem declareMember (coherent : registry.Coherent) (container member : String) :
    (registry.declareMember container member).Coherent where
  named := by
    rw [Registry.declareMember, classNames_noteMember]
    exact (coherent.declareClass container).named
  distinct := by
    rw [Distinct, overloads_declareMember]
    exact coherent.distinct
  listed := by
    rw [overloads_declareMember]
    exact fun reference isDeclared =>
      ((coherent.listed reference isDeclared).declareClass container).noteMember container member

theorem declareMethod (coherent : registry.Coherent) (container member : String)
    (parameters : List String) (body : Body) :
    (registry.declareMethod container member parameters body).2.Coherent := by
  have noted := coherent.declareMember container member
  have declares : registry.Declares (fun _ => True)
      (registry.declareMethod container member parameters body).2 :=
    Registry.declareMethod_declares registry container member parameters trivial
  refine ⟨?_, declares.distinct coherent.distinct, ?_⟩ <;> unfold Registry.declareMethod <;>
    by_cases declared : (registry.overload? ⟨container, member, ⟨parameters⟩⟩).isSome
  · rw [if_pos declared]
    exact coherent.named
  · rw [if_neg declared]
    exact noted.named
  · rw [if_pos declared]
    exact coherent.listed
  · rw [if_neg declared, List.map_append]
    intro reference isDeclared
    rcases List.mem_append.mp isDeclared with before | fresh
    · exact noted.listed reference before
    · rw [List.mem_singleton.mp fresh]
      exact registry.lists_declareMember container member

theorem putBody (coherent : registry.Coherent) (reference : OverloadRef) (body : BodyInForce) :
    (registry.putBody reference body).Coherent where
  named := coherent.named
  distinct := coherent.distinct.putBody reference body
  listed := by
    rw [references_eq, declarations_putBody, ← references_eq]
    exact coherent.listed

end Coherent

end Registry

/-! ### Single changes of a world -/

/-- That a declaration leads from a registry to another one. -/
inductive Registry.Extends (registry : Registry) : Registry → Prop where
  | declareClass (name : String) : Extends registry (registry.declareClass name)
  | declareMember (container member : String) :
      Extends registry (registry.declareMember container member)
  | declareMethod (container member : String) (parameters : List String) (body : Body) :
      Extends registry (registry.declareMethod container member parameters body).2

theorem Registry.Extends.declares {registry after : Registry} (extend : registry.Extends after) :
    registry.Declares (fun _ => True) after := by
  cases extend with
  | declareClass name => exact .classes (registry.overloads_declareClass name)
  | declareMember container member =>
    exact .classes (registry.overloads_declareMember container member)
  | declareMethod container member parameters body =>
    exact registry.declareMethod_declares container member parameters trivial

/-- That two worlds differ in the boundary and in the sink only. -/
structure World.Beside (world after : World) : Prop where
  host : after.host = world.host
  registries : after.registries = world.registries
  issued : after.nextTracer = world.nextTracer

theorem World.Beside.trans {world middle after : World} (first : world.Beside middle)
    (second : middle.Beside after) : world.Beside after :=
  ⟨second.host.trans first.host, second.registries.trans first.registries,
    second.issued.trans first.issued⟩

theorem World.Beside.emitAll (world : World) (emitter : EmitterId) (events : List Event) :
    world.Beside (world.emitAll emitter events) := by
  rw [World.emitAll_eq]
  exact ⟨rfl, rfl, rfl⟩

/-- A single change of a world. -/
inductive World.Turns (world : World) : World → Prop where
  | aside {after : World} (beside : world.Beside after) : Turns world after
  /-- An identity is used up by an installation that is refused. -/
  | refused : Turns world { world with nextTracer := world.nextTracer + 1 }
  | declared {runtime : RuntimeId} {registry : Registry}
      (extend : (world.registry runtime).Extends registry) :
      Turns world (world.setRegistry runtime registry)
  /-- The tracer of a hook is put over an overload. -/
  | hooked {monitor : Monitor} {reference : OverloadRef} {overload : Overload} {path : String}
      {hook : Hook}
      (found : (world.registry monitor.runtime).overload? reference = some overload) :
      Turns world (world.hooked monitor overload path hook)
  /-- A body that is no tracer is put over an overload. -/
  | replaced {runtime : RuntimeId} {reference : OverloadRef} {overload : Overload} {body : Body}
      (found : (world.registry runtime).overload? reference = some overload) :
      Turns world (world.setRegistry runtime
        ((world.registry runtime).putBody overload.reference (.plain body)))

/-- That single changes lead from a world to another one. -/
def World.Becomes : World → World → Prop :=
  Relation.ReflTransGen World.Turns

/-- That a process can come to a world. -/
def World.Reachable (world : World) : Prop :=
  ∃ host runtimes, (State.initial host runtimes).world.Becomes world

theorem World.Reachable.of_becomes {world after : World} (reachable : world.Reachable)
    (becomes : world.Becomes after) : after.Reachable := by
  obtain ⟨host, runtimes, start⟩ := reachable
  exact ⟨host, runtimes, start.trans becomes⟩

/-! ### What happens to a world -/

namespace World

/-- Installing hooks is a sequence of single changes. -/
theorem becomes_byHooking (start : World) (monitor : Monitor) (hook : Hook) :
    KeptByHooking monitor hook fun _ world => start.Becomes world where
  hooked found becomes := becomes.tail (.hooked found)
  refused becomes := becomes.tail .refused
  diagnosed becomes := becomes.tail (.aside ⟨rfl, rfl, rfl⟩)

end World

/-- Whatever a run does, it does by single changes. -/
theorem Completes.becomes {runtime : RuntimeId} {task : Task} {state after : State}
    {episodes : List Episode} {outcome : Outcome}
    (completes : Completes runtime task state episodes outcome after) {start : World}
    (becomes : start.Becomes state.world) : start.Becomes after.world := by
  induction completes with
  | finish | refused => exact becomes
  | call _ _ called rest | nativeUnprobed _ _ _ called rest => exact rest (called becomes)
  | frames _ rest => exact rest becomes
  | spawn _ _ worked rest => exact rest (worked becomes)
  | hook _ rest => exact rest ((World.becomes_byHooking start _ _).hookTarget _ [] becomes)
  | install _ rest => exact rest ((World.becomes_byHooking start _ _).installHook [] _ _ becomes)
  | define _ rest => exact rest (becomes.tail (.declared (.declareMethod _ _ _ _)))
  | nativeProbed _ _ _ _ _ called rest =>
    refine rest ((called ((becomes.tail (.aside ?_)).tail (.aside (.emitAll _ _ _)))).tail
      (.aside (.emitAll _ _ _)))
    exact ⟨rfl, rfl, rfl⟩
  | dispatched _ _ called => exact called becomes
  | plain _ _ ran | straight _ _ _ ran => exact ran becomes
  | traced _ _ _ _ _ _ rewrote forwarded delivered =>
    exact (delivered (forwarded ((rewrote becomes).tail (.aside (.emitAll _ _ _))))).tail
      (.aside ⟨rfl, rfl, rfl⟩)

/-- Whatever is done to a process is done by single changes. -/
theorem Operation.Leads.becomes {operation : Operation} {installed : List Installation}
    {state after : State} (leads : operation.Leads state installed after) {start : World}
    (becomes : start.Becomes state.world) : start.Becomes after.world := by
  cases leads with
  | declareClass => exact becomes.tail (.declared (.declareClass _))
  | declareMember => exact becomes.tail (.declared (.declareMember _ _))
  | declareMethod => exact becomes.tail (.declared (.declareMethod _ _ _ _))
  | install => exact (World.becomes_byHooking start _ _).installHook [] _ _ becomes
  | hookTarget => exact (World.becomes_byHooking start _ _).hookTarget _ [] becomes
  | sweepClass => exact World.sweepClass_kept (World.becomes_byHooking start _ _) _ [] becomes
  | call completes => exact completes.becomes becomes

/-- In whatever way a process evolves, its world can be reached. -/
theorem Evolves.reachable {permitted : Operation → Prop} {host : Host} {runtimes : Nat}
    {log : List Installation} {state : State}
    (evolves : Evolves permitted (State.initial host runtimes) log state) :
    state.world.Reachable := by
  refine ⟨host, runtimes, ?_⟩
  induction evolves with
  | start => exact .refl
  | step _ _ leads inductionHypothesis => exact leads.becomes inductionHypothesis

/-- What single changes keep, and what holds at the start, holds of every world that can be
reached. -/
theorem World.Reachable.keeps {property : World → Prop}
    (kept : ∀ {world after : World}, world.Turns after → property world → property after)
    (holds : ∀ host runtimes, property (State.initial host runtimes).world) {world : World}
    (reachable : world.Reachable) : property world := by
  obtain ⟨host, runtimes, becomes⟩ := reachable
  induction becomes with
  | refl => exact holds host runtimes
  | tail _ turns inductionHypothesis => exact kept turns inductionHypothesis

/-! ### Registries stay coherent -/

theorem Registry.Coherent.of_extends {registry after : Registry} (coherent : registry.Coherent)
    (extend : registry.Extends after) : after.Coherent := by
  cases extend with
  | declareClass name => exact coherent.declareClass name
  | declareMember container member => exact coherent.declareMember container member
  | declareMethod container member parameters body =>
    exact coherent.declareMethod container member parameters body

namespace World

variable {world after : World}

theorem coherent_setRegistry (coherent : ∀ runtime, (world.registry runtime).Coherent)
    {runtime : RuntimeId} {registry : Registry} (put : registry.Coherent) (reader : RuntimeId) :
    ((world.setRegistry runtime registry).registry reader).Coherent := by
  rcases world.registry_setRegistry_cases runtime reader registry with reads | ⟨rfl, reads⟩ <;>
    rw [reads]
  · exact coherent reader
  · exact put

theorem Turns.coherent (turns : world.Turns after)
    (coherent : ∀ runtime, (world.registry runtime).Coherent) :
    ∀ runtime, (after.registry runtime).Coherent := by
  cases turns with
  | aside beside =>
    rw [registry_congr beside.registries]
    exact coherent
  | refused => exact coherent
  | declared extend => exact coherent_setRegistry coherent ((coherent _).of_extends extend)
  | hooked | replaced => exact coherent_setRegistry coherent ((coherent _).putBody _ _)

/-- In a world that can be reached, registries are coherent. -/
theorem Reachable.coherent (reachable : world.Reachable) :
    ∀ runtime, (world.registry runtime).Coherent := by
  refine reachable.keeps Turns.coherent fun host runtimes runtime => ?_
  rw [registry_initial]
  exact .empty

/-! ### Identities are issued once -/

/-- That a tracer with an identity is over an overload. -/
def Wears (world : World) (runtime : RuntimeId) (reference : OverloadRef) (identity : Nat) : Prop :=
  ∃ overload ∈ (world.registry runtime).overloads, overload.reference = reference ∧
    ∃ tracer, overload.installed = some (.traced tracer) ∧ tracer.identity = identity

/-- That the tracers over overloads have identities that have been issued, each for one
overload. -/
structure Issued (world : World) : Prop where
  coherent : ∀ runtime, (world.registry runtime).Coherent
  before : ∀ {runtime reference identity}, world.Wears runtime reference identity →
    identity < world.nextTracer
  once : ∀ {runtime reference otherRuntime otherReference identity},
    world.Wears runtime reference identity → world.Wears otherRuntime otherReference identity →
      runtime = otherRuntime ∧ reference = otherReference

/-- A change that puts no tracer over an overload leaves identities as they are. -/
theorem Issued.of_wears (issued : world.Issued)
    (coherent : ∀ runtime, (after.registry runtime).Coherent)
    (later : world.nextTracer ≤ after.nextTracer)
    (wears : ∀ {runtime reference identity}, after.Wears runtime reference identity →
      world.Wears runtime reference identity) : after.Issued where
  coherent := coherent
  before worn := Nat.lt_of_lt_of_le (issued.before (wears worn)) later
  once first second := issued.once (wears first) (wears second)

/-- A tracer that is over an overload after an installation was there before, or it is the fresh
one. -/
theorem wears_hooked (coherent : ∀ runtime, (world.registry runtime).Coherent)
    {monitor : Monitor} {sought : OverloadRef} {overload : Overload} {path : String} {hook : Hook}
    (found : (world.registry monitor.runtime).overload? sought = some overload)
    {runtime : RuntimeId} {reference : OverloadRef} {identity : Nat}
    (worn : (world.hooked monitor overload path hook).Wears runtime reference identity) :
    world.Wears runtime reference identity ∨
      runtime = monitor.runtime ∧ reference = overload.reference ∧
        identity = world.nextTracer := by
  obtain ⟨standing, isStanding, same, tracer, installed, isIdentity⟩ := worn
  rcases mem_hooked (coherent _).distinct found isStanding with ⟨isBefore, -⟩ | ⟨rfl, rfl⟩
  · exact .inl ⟨standing, isBefore, same, tracer, installed, isIdentity⟩
  · cases installed
    exact .inr ⟨rfl, same.symm, isIdentity.symm⟩

theorem Issued.of_turns (turns : world.Turns after) (issued : world.Issued) : after.Issued := by
  have coherent := turns.coherent issued.coherent
  cases turns with
  | aside beside =>
    refine issued.of_wears coherent (Nat.le_of_eq beside.issued.symm) fun worn => ?_
    rwa [Wears, registry_congr beside.registries] at worn
  | refused => exact issued.of_wears coherent (Nat.le_succ _) id
  | @declared runtime registry extend =>
    refine issued.of_wears coherent (Nat.le_refl _) fun worn => ?_
    obtain ⟨standing, isStanding, same, tracer, installed, isIdentity⟩ := worn
    rcases mem_declared extend.declares isStanding with isBefore | ⟨_, _, -, -, rfl⟩
    · exact ⟨standing, isBefore, same, tracer, installed, isIdentity⟩
    · cases installed
  | @replaced runtime _ _ _ found =>
    refine issued.of_wears coherent (Nat.le_refl _) fun {reader _ _} worn => ?_
    obtain ⟨standing, isStanding, same, tracer, installed, isIdentity⟩ := worn
    rcases world.registry_setRegistry_cases runtime reader _ with reads | ⟨rfl, reads⟩ <;>
      rw [reads] at isStanding
    · exact ⟨standing, isStanding, same, tracer, installed, isIdentity⟩
    · rcases (issued.coherent _).distinct.mem_putBody found isStanding with ⟨isBefore, -⟩ | rfl
      · exact ⟨standing, isBefore, same, tracer, installed, isIdentity⟩
      · cases installed
  | hooked found =>
    refine ⟨coherent, fun worn => ?_, fun first second => ?_⟩
    · rcases wears_hooked issued.coherent found worn with isBefore | ⟨-, -, rfl⟩
      · exact Nat.lt_succ_of_lt (issued.before isBefore)
      · exact Nat.lt_succ_self _
    · rcases wears_hooked issued.coherent found first with first | ⟨rfl, rfl, rfl⟩ <;>
        rcases wears_hooked issued.coherent found second with second | ⟨rfl, rfl, isFresh⟩
      · exact issued.once first second
      · exact absurd isFresh (Nat.ne_of_lt (issued.before first))
      · exact absurd rfl (Nat.ne_of_lt (issued.before second))
      · exact ⟨rfl, rfl⟩

/-- In a world that can be reached, identities have been issued once. -/
theorem Reachable.issued (reachable : world.Reachable) : world.Issued := by
  refine reachable.keeps Issued.of_turns fun host runtimes => ?_
  have bare : ∀ {runtime reference identity},
      ¬ (State.initial host runtimes).world.Wears runtime reference identity := by
    rintro runtime reference identity ⟨overload, isOverload, -⟩
    rw [registry_initial] at isOverload
    cases isOverload
  refine ⟨fun runtime => ?_, fun worn => absurd worn bare, fun worn => absurd worn bare⟩
  rw [registry_initial]
  exact .empty

end World

end Intercept
