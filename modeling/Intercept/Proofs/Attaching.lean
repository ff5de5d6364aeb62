/-
This file says that attaching a probe to a symbol is all or nothing. If the symbol is not found, one
diagnostic says why, and every address keeps its probe. If it is found, one line is emitted, and the
new probe takes the address over: calls to the address that look their probe up from then on find
it, while calls that have looked theirs up before keep what they have found, and so do calls to
other addresses, whichever calls are under way at once.
-/
import Intercept.Proofs.Attribution

namespace Intercept

/-! ### Calls and their probes -/

/-- What remains of a call while it proceeds. -/
structure NativeCall.Continues (call later : NativeCall) : Prop where
  address : later.address = call.address
  arguments : later.arguments = call.arguments
  /-- A call that has begun keeps the probe that it has found, or goes on without one. -/
  holds : call.stage ≠ .called → later.stage ≠ .called ∧ later.probe = call.probe

namespace NativeCall

theorem Continues.refl (call : NativeCall) : call.Continues call :=
  ⟨rfl, rfl, fun begun => ⟨begun, rfl⟩⟩

theorem Continues.trans {call middle later : NativeCall} (first : call.Continues middle)
    (second : middle.Continues later) : call.Continues later where
  address := second.address.trans first.address
  arguments := second.arguments.trans first.arguments
  holds begun := by
    obtain ⟨stillBegun, same⟩ := first.holds begun
    obtain ⟨begunLater, sameLater⟩ := second.holds stillBegun
    exact ⟨begunLater, sameLater.trans same⟩

theorem Steps.continues {call next : NativeCall} {world after : World}
    {emitted more : List Emission} (steps : call.Steps world next more after)
    (sound : call.Sound emitted) : call.Continues next where
  address := steps.address
  arguments := steps.arguments
  holds begun := by
    rcases steps.probe sound with ⟨isCalled, -⟩ | ⟨-, same⟩
    · exact absurd isCalled begun
    · exact ⟨steps.begun, same⟩

end NativeCall

namespace Traffic

variable {traffic next later other : Traffic} {address : UInt64} {index : Nat} {call : NativeCall}

/-- The traffic after a probe has been put at an address. -/
def attach (traffic : Traffic) (address : UInt64) (probe : Boundary.Probe) : Traffic :=
  { traffic with
    world := { traffic.world with boundary := traffic.world.boundary.putProbe address probe } }

/-- That the call at a place has begun: it has looked its probe up. -/
def HasBegun (traffic : Traffic) (index : Nat) : Prop :=
  ∃ call, traffic.calls[index]? = some call ∧ call.stage ≠ .called

/-- Every call is still there after whatever happens, and is the same call. -/
theorem Leads.continues (leads : traffic.Leads next) (steady : traffic.Steady)
    (present : traffic.calls[index]? = some call) :
    ∃ after, next.calls[index]? = some after ∧ call.Continues after := by
  cases leads with
  | made =>
    have inside := (List.getElem?_eq_some_iff.mp present).1
    exact ⟨call, (List.getElem?_append_left inside).trans present, .refl call⟩
  | @stepped place stepping stepped _ _ stands steps =>
    by_cases same : place = index
    · subst same
      have inside := (List.getElem?_eq_some_iff.mp present).1
      cases present.symm.trans stands
      exact ⟨stepped, List.getElem?_set_self inside, steps.continues (steady.sound present)⟩
    · exact ⟨call, (List.getElem?_set_ne same).trans present, .refl call⟩
  | attached | elsewhere => exact ⟨call, present, .refl call⟩

theorem Reaches.continues (reaches : traffic.Reaches later) (steady : traffic.Steady)
    (present : traffic.calls[index]? = some call) :
    ∃ after, later.calls[index]? = some after ∧ call.Continues after := by
  induction reaches with
  | refl => exact ⟨call, present, .refl call⟩
  | tail reached leads inductionHypothesis =>
    obtain ⟨middle, isMiddle, continues⟩ := inductionHypothesis
    obtain ⟨after, isAfter, goesOn⟩ := leads.continues (steady.reaches reached) isMiddle
    exact ⟨after, isAfter, continues.trans goesOn⟩

/-- A call that has begun when something has happened had begun before, or it has just found the
probe that is in force at its address. -/
theorem Leads.begun_cases (leads : traffic.Leads next) (steady : traffic.Steady)
    (present : next.calls[index]? = some call) (begun : call.stage ≠ .called) :
    (∃ earlier, traffic.calls[index]? = some earlier ∧ earlier.stage ≠ .called ∧
      earlier.Continues call) ∨
      call.probe = traffic.world.boundary.probeAt? call.address := by
  cases leads with
  | made =>
    rcases getElem?_concat_cases present with before | ⟨-, rfl⟩
    · exact .inl ⟨call, before, begun, .refl call⟩
    · exact absurd rfl begun
  | stepped stands steps =>
    rcases getElem?_set_cases present with ⟨rfl, rfl⟩ | ⟨-, before⟩
    · rcases steps.probe (steady.sound stands) with ⟨-, finds⟩ | ⟨hasBegun, -⟩
      · exact .inr (steps.address ▸ finds)
      · exact .inl ⟨_, stands, hasBegun, steps.continues (steady.sound stands)⟩
    · exact .inl ⟨call, before, begun, .refl call⟩
  | attached | elsewhere => exact .inl ⟨call, present, begun, .refl call⟩

/-- That a traffic comes from another one while the probe at an address stays in force. -/
def ReachesKeeping (address : UInt64) : Traffic → Traffic → Prop :=
  Relation.ReflTransGen fun traffic next => traffic.Leads next ∧
    next.world.boundary.probeAt? address = traffic.world.boundary.probeAt? address

theorem ReachesKeeping.reaches (keeps : traffic.ReachesKeeping address later) :
    traffic.Reaches later :=
  Relation.ReflTransGen.mono (fun _ _ => And.left) _ _ keeps

theorem ReachesKeeping.probeAt? (keeps : traffic.ReachesKeeping address later) :
    later.world.boundary.probeAt? address = traffic.world.boundary.probeAt? address := by
  induction keeps with
  | refl => rfl
  | tail _ leads inductionHypothesis => exact leads.2.trans inductionHypothesis

/-- A call that begins while a probe stays in force at its address finds this probe. -/
theorem ReachesKeeping.found (keeps : traffic.ReachesKeeping address later)
    (steady : traffic.Steady) (present : later.calls[index]? = some call)
    (aims : call.address = address) (begun : call.stage ≠ .called) :
    traffic.HasBegun index ∨ call.probe = traffic.world.boundary.probeAt? address := by
  induction keeps generalizing call with
  | refl => exact .inl ⟨call, present, begun⟩
  | tail reached leads inductionHypothesis =>
    have steadyMiddle := steady.reaches (ReachesKeeping.reaches reached)
    have inForce := ReachesKeeping.probeAt? reached
    rcases leads.1.begun_cases steadyMiddle present begun with
      ⟨earlier, isEarlier, hasBegun, continues⟩ | finds
    · rw [(continues.holds hasBegun).2]
      exact inductionHypothesis isEarlier (continues.address.symm.trans aims) hasBegun
    · exact .inr (finds.trans (aims ▸ inForce))

/-! ### Handling calls -/

/-- That the call at a place is handled by a probe, or by none: the probe is the one that it holds,
it has emitted so far what this probe shows of it, and when it has returned, with the result of its
callee, it has emitted its entry and, if the probe asks for it, its return. -/
structure HandledBy (traffic : Traffic) (index : Nat) (call : NativeCall)
    (probe? : Option Boundary.Probe) : Prop where
  holds : call.probe = probe?
  sound : call.Sound (traffic.emittedBy index)
  returns : ∀ result, call.stage = .returned result → call.answer = some result
  unprobed : probe? = none → call.number? = none ∧ traffic.emittedBy index = []
  shown : ∀ probe result, probe? = some probe → call.stage = .returned result →
    ∃ number, call.number? = some number ∧
      traffic.emittedBy index =
        (probe.entry number call.arguments ++ probe.report number call.arguments result).map
          (Emission.mk probe.emitter)

theorem Steady.handledBy (steady : traffic.Steady) (present : traffic.calls[index]? = some call) :
    traffic.HandledBy index call call.probe where
  holds := rfl
  sound := steady.sound present
  returns _ isReturned := (steady.sound present).answered isReturned
  unprobed unprobed := (steady.sound present).unprobed unprobed
  shown _ _ found isReturned := (steady.sound present).emitted_eq found isReturned

/-- That the call at a place is handled by a probe, or by none, from then on, whatever happens. -/
def HandledFrom (traffic : Traffic) (index : Nat) (call : NativeCall)
    (probe? : Option Boundary.Probe) : Prop :=
  ∀ later, traffic.Reaches later → ∃ after, later.calls[index]? = some after ∧
    call.Continues after ∧ later.HandledBy index after probe?

/-- A call that has begun is handled by the probe that it has found. -/
theorem Steady.handledFrom (steady : traffic.Steady) (present : traffic.calls[index]? = some call)
    (begun : call.stage ≠ .called) : traffic.HandledFrom index call call.probe := by
  intro later reaches
  obtain ⟨after, isAfter, continues⟩ := reaches.continues steady present
  have handled := (steady.reaches reaches).handledBy isAfter
  exact ⟨after, isAfter, continues, (continues.holds begun).2 ▸ handled⟩

/-! ### Traffics that differ at one address -/

/-- That two traffics differ only in the probe at an address and in what has been emitted. -/
structure AlikeBut (address : UInt64) (traffic other : Traffic) : Prop where
  calls : other.calls = traffic.calls
  host : other.world.host = traffic.world.host
  registries : other.world.registries = traffic.world.registries
  nextTracer : other.world.nextTracer = traffic.world.nextTracer
  diagnostics : other.world.sink.diagnostics = traffic.world.sink.diagnostics
  nextCall : other.world.boundary.nextCall = traffic.world.boundary.nextCall
  probes : ∀ place, place ≠ address →
    other.world.boundary.probeAt? place = traffic.world.boundary.probeAt? place

/-- That something happens other than that a call to an address begins. -/
def LeadsApart (address : UInt64) (traffic next : Traffic) : Prop :=
  traffic.Leads next ∧ ∀ index call, next.calls[index]? = some call → call.address = address →
    call.stage ≠ .called → traffic.HasBegun index

/-- That a traffic comes from another one while no call to an address begins. -/
def ReachesApart (address : UInt64) : Traffic → Traffic → Prop :=
  Relation.ReflTransGen (LeadsApart address)

namespace AlikeBut

theorem symm (alike : AlikeBut address traffic other) : AlikeBut address other traffic where
  calls := alike.calls.symm
  host := alike.host.symm
  registries := alike.registries.symm
  nextTracer := alike.nextTracer.symm
  diagnostics := alike.diagnostics.symm
  nextCall := alike.nextCall.symm
  probes place different := (alike.probes place different).symm

theorem hasBegun (alike : AlikeBut address traffic other) (begun : traffic.HasBegun index) :
    other.HasBegun index := by
  rw [HasBegun, alike.calls]
  exact begun

variable {callLater : NativeCall} {emitted : List Emission} {world : World}

/-- A step of a call, unless the call begins and is one to the address, can be taken in the other
traffic as well. -/
theorem step (alike : AlikeBut address traffic other) (index : Nat)
    (steps : call.Steps traffic.world callLater emitted world)
    (apart : call.stage = .called → call.address ≠ address) :
    ∃ worldOther, call.Steps other.world callLater emitted worldOther ∧
      AlikeBut address
        ⟨world, traffic.calls.set index callLater,
          traffic.trace ++ emitted.map (Report.mk (some index))⟩
        ⟨worldOther, other.calls.set index callLater,
          other.trace ++ emitted.map (Report.mk (some index))⟩ := by
  have became := steps.after_eq
  have sameProbes (place : UInt64) :
      world.boundary.probeAt? place = traffic.world.boundary.probeAt? place := by
    rw [Boundary.probeAt?, steps.probes, Boundary.probeAt?]
  refine ⟨_, steps.replay alike.nextCall fun isCalled => alike.probes _ (apart isCalled), ?_⟩
  exact {
    calls := congrArg (List.set · index callLater) alike.calls
    host := alike.host.trans (congrArg World.host became).symm
    registries := alike.registries.trans (congrArg World.registries became).symm
    nextTracer := alike.nextTracer.trans (congrArg World.nextTracer became).symm
    diagnostics :=
      alike.diagnostics.trans (congrArg (fun after => after.sink.diagnostics) became).symm
    nextCall := rfl
    probes := fun place different => (alike.probes place different).trans (sameProbes place).symm }

/-- A probe can be put in both traffics, even at the address. -/
theorem attach (alike : AlikeBut address traffic other) (place : UInt64) (probe : Boundary.Probe) :
    AlikeBut address (traffic.attach place probe) (other.attach place probe) where
  calls := alike.calls
  host := alike.host
  registries := alike.registries
  nextTracer := alike.nextTracer
  diagnostics := alike.diagnostics
  nextCall := alike.nextCall
  probes asked different := by
    by_cases same : asked = place
    · subst same
      exact (Boundary.probeAt?_putProbe_self _ asked probe).trans
        (Boundary.probeAt?_putProbe_self _ asked probe).symm
    · exact (Boundary.probeAt?_putProbe_other _ probe same).trans
        ((alike.probes asked different).trans
          (Boundary.probeAt?_putProbe_other _ probe same).symm)

/-- Whatever happens in one of the two traffics can happen in the other one, as long as no call to
the address begins. -/
theorem follow (alike : AlikeBut address traffic other) (leads : LeadsApart address traffic next) :
    ∃ nextOther further, LeadsApart address other nextOther ∧ AlikeBut address next nextOther ∧
      next.trace = traffic.trace ++ further ∧ nextOther.trace = other.trace ++ further := by
  have apartOther {nextOther : Traffic} (alikeNext : AlikeBut address next nextOther)
      (leadsOther : other.Leads nextOther) : LeadsApart address other nextOther := by
    refine ⟨leadsOther, fun index call present aims begun => alike.hasBegun ?_⟩
    exact leads.2 index call (alikeNext.calls ▸ present) aims begun
  cases leads.1 with
  | made place arguments =>
    have alikeNext : AlikeBut address
        { traffic with calls := traffic.calls ++ [{ address := place, arguments }] }
        { other with calls := other.calls ++ [{ address := place, arguments }] } :=
      { alike with calls := congrArg (· ++ [_]) alike.calls }
    exact ⟨_, [], apartOther alikeNext (.made place arguments), alikeNext,
      (List.append_nil _).symm, (List.append_nil _).symm⟩
  | @stepped place stepping stepped emitted world present steps =>
    have inside := (List.getElem?_eq_some_iff.mp present).1
    obtain ⟨worldOther, stepsOther, alikeNext⟩ := alike.step place steps fun isCalled aims => by
      obtain ⟨begun, isBegun, hasBegun⟩ := leads.2 place stepped (List.getElem?_set_self inside)
        (steps.address.trans aims) steps.begun
      cases present.symm.trans isBegun
      exact hasBegun isCalled
    have presentOther : other.calls[place]? = some stepping := alike.calls ▸ present
    exact ⟨_, _, apartOther alikeNext (.stepped presentOther stepsOther), alikeNext, rfl, rfl⟩
  | attached place probe =>
    have alikeNext := alike.attach place probe
    exact ⟨_, [], apartOther alikeNext (.attached place probe), alikeNext,
      (List.append_nil _).symm, (List.append_nil _).symm⟩
  | @elsewhere world emitted aside emits foreign =>
    let worldOther : World := { world with
      boundary := other.world.boundary
      sink := { world.sink with emissions := other.world.sink.emissions ++ emitted } }
    have alikeNext : AlikeBut address
        ⟨world, traffic.calls, traffic.trace ++ emitted.map (Report.mk none)⟩
        ⟨worldOther, other.calls, other.trace ++ emitted.map (Report.mk none)⟩ :=
      ⟨alike.calls, rfl, rfl, rfl, rfl, aside ▸ alike.nextCall, aside ▸ alike.probes⟩
    exact ⟨_, _, apartOther alikeNext (.elsewhere rfl rfl foreign), alikeNext, rfl, rfl⟩

/-- So the one traffic can go on as the other one does. -/
theorem goesOn (alike : AlikeBut address traffic other)
    (reaches : traffic.ReachesApart address later) :
    ∃ laterOther further, other.ReachesApart address laterOther ∧
      AlikeBut address later laterOther ∧
      later.trace = traffic.trace ++ further ∧ laterOther.trace = other.trace ++ further := by
  induction reaches with
  | refl => exact ⟨other, [], .refl, alike, (List.append_nil _).symm, (List.append_nil _).symm⟩
  | tail _ leads inductionHypothesis =>
    obtain ⟨middleOther, early, reached, alikeMiddle, tells, tellsOther⟩ := inductionHypothesis
    obtain ⟨laterOther, late, leadsOther, alikeLater, adds, addsOther⟩ := alikeMiddle.follow leads
    refine ⟨laterOther, early ++ late, .tail reached leadsOther, alikeLater, ?_, ?_⟩
    · rw [adds, tells, List.append_assoc]
    · rw [addsOther, tellsOther, List.append_assoc]

end AlikeBut

/-! ### Taking an address over -/

/-- That a probe has taken an address over from one traffic to another one. -/
structure TakesOver (traffic changed : Traffic) (address : UInt64) (probe : Boundary.Probe) :
    Prop where
  /-- Calls to the address that begin from then on, as long as no other probe takes its place, are
  handled by it. -/
  starting : ∀ later, changed.ReachesKeeping address later → ∀ index call,
    later.calls[index]? = some call → call.address = address → call.stage ≠ .called →
      ¬ traffic.HasBegun index → later.HandledFrom index call (some probe)
  /-- Calls to another address are handled by the probe that has been in force there. -/
  elsewhere : ∀ place, place ≠ address → ∀ later, changed.ReachesKeeping place later →
    ∀ index call, later.calls[index]? = some call → call.address = place →
      call.stage ≠ .called → ¬ traffic.HasBegun index →
        later.HandledFrom index call (traffic.world.boundary.probeAt? place)
  /-- Calls that have begun before are handled by the probe that they have found. -/
  inFlight : ∀ index call, traffic.calls[index]? = some call → call.stage ≠ .called →
    changed.HandledFrom index call call.probe
  /-- As long as no call to the address begins, all that would have happened can happen, with the
  same calls and the same lines. -/
  undisturbed : ∀ later, traffic.ReachesApart address later →
    ∃ laterChanged further, changed.ReachesApart address laterChanged ∧
      AlikeBut address later laterChanged ∧
      later.trace = traffic.trace ++ further ∧ laterChanged.trace = changed.trace ++ further
  /-- And nothing else can. -/
  undisturbing : ∀ laterChanged, changed.ReachesApart address laterChanged →
    ∃ later further, traffic.ReachesApart address later ∧
      AlikeBut address later laterChanged ∧
      later.trace = traffic.trace ++ further ∧ laterChanged.trace = changed.trace ++ further

theorem AlikeBut.takesOver {changed : Traffic} {probe : Boundary.Probe}
    (alike : AlikeBut address traffic changed) (steady : traffic.Steady)
    (reaches : traffic.Reaches changed)
    (probed : changed.world.boundary.probeAt? address = some probe) :
    TakesOver traffic changed address probe := by
  have steadyChanged := steady.reaches reaches
  have handled {place : UInt64} {later : Traffic} {index : Nat} {call : NativeCall}
      (keeps : changed.ReachesKeeping place later) (present : later.calls[index]? = some call)
      (aims : call.address = place) (begun : call.stage ≠ .called)
      (fresh : ¬ traffic.HasBegun index) :
      later.HandledFrom index call (changed.world.boundary.probeAt? place) := by
    rcases keeps.found steadyChanged present aims begun with before | finds
    · exact absurd (alike.symm.hasBegun before) fresh
    · exact finds ▸ (steadyChanged.reaches keeps.reaches).handledFrom present begun
  constructor
  case starting =>
    intro later keeps index call present aims begun fresh
    exact probed ▸ handled keeps present aims begun fresh
  case elsewhere =>
    intro place different later keeps index call present aims begun fresh
    exact alike.probes place different ▸ handled keeps present aims begun fresh
  case inFlight =>
    intro index call present begun
    exact steadyChanged.handledFrom (alike.calls ▸ present) begun
  case undisturbed => exact fun later reachesLater => alike.goesOn reachesLater
  case undisturbing =>
    intro laterChanged reachesLater
    obtain ⟨later, further, reached, alikeLater, tells, tellsOther⟩ :=
      alike.symm.goesOn reachesLater
    exact ⟨later, further, reached, alikeLater.symm, tellsOther, tells⟩

/-- That a probe has been attached in a traffic: it has been put at its address, and then a line has
been emitted. It takes the address over already when it is put there. -/
structure Attaches (traffic after : Traffic) (address : UInt64) (probe : Boundary.Probe) :
    Prop where
  put : traffic.Leads (traffic.attach address probe)
  told : (traffic.attach address probe).Leads after
  takesOver : traffic.TakesOver (traffic.attach address probe) address probe
  remains : traffic.TakesOver after address probe

theorem alikeBut_attach (traffic : Traffic) (address : UInt64) (probe : Boundary.Probe) :
    AlikeBut address traffic (traffic.attach address probe) :=
  ⟨rfl, rfl, rfl, rfl, rfl, rfl,
    fun _ different => Boundary.probeAt?_putProbe_other _ probe different⟩

/-- Emitting a line that is about no call makes no difference. -/
theorem Steady.attaches (steady : traffic.Steady) (address : UInt64) (probe : Boundary.Probe)
    (emitter : EmitterId) {line : Event} (foreign : line.callNumber? = none) :
    traffic.Attaches
      ⟨(traffic.attach address probe).world.emit emitter line, traffic.calls,
        traffic.trace ++ [⟨none, ⟨emitter, line⟩⟩]⟩ address probe := by
  have put : traffic.Leads (traffic.attach address probe) := .attached address probe
  have told : (traffic.attach address probe).Leads
      ⟨(traffic.attach address probe).world.emit emitter line, (traffic.attach address probe).calls,
        (traffic.attach address probe).trace ++ [⟨emitter, line⟩].map (Report.mk none)⟩ :=
    .elsewhere rfl rfl (List.forall_mem_singleton.mpr foreign)
  have alike := traffic.alikeBut_attach address probe
  have probed := Boundary.probeAt?_putProbe_self traffic.world.boundary address probe
  exact ⟨put, told, alike.takesOver steady (.single put) probed,
    AlikeBut.takesOver { alike with } steady (.tail (.single put) told) probed⟩

end Traffic

/-! ### Endings -/

/-- The ways in which attaching a probe to a symbol can end. -/
inductive ProbeEnding where
  | incapable
  | missing (failure : HookFailure)
  | refused (address : UInt64)
  | attached (address : UInt64)

/-- The condition of an ending: what is found where symbols are looked up, and whether its address
is sealed. A boundary that seals no address refuses none. -/
def ProbeEnding.Due (ending : ProbeEnding) (host : Host) (modulePath symbol : String) : Prop :=
  match ending with
  | .incapable => host.symbols = none
  | .missing failure =>
    ∃ symbols, host.symbols = some symbols ∧ symbols.find modulePath symbol = .error failure
  | .refused address =>
    ∃ symbols, host.symbols = some symbols ∧ symbols.find modulePath symbol = .ok address ∧
      address ∈ host.sealedAddresses
  | .attached address =>
    ∃ symbols, host.symbols = some symbols ∧ symbols.find modulePath symbol = .ok address ∧
      address ∉ host.sealedAddresses

/-- That attaching a probe has come to nothing: there is one diagnostic more, and all else is as it
was. -/
structure World.Declines (world : World) (failure : HookFailure)
    (result : Option Boundary.AttachedProbe × World) : Prop where
  nothing : result.1 = none
  diagnosed : result.2.sink.diagnostics = world.sink.diagnostics ++ [failure]
  silent : result.2.sink.emissions = world.sink.emissions
  probes : ∀ address, result.2.boundary.probeAt? address = world.boundary.probeAt? address
  unchanged : result.2 = { world with sink := result.2.sink }

/-- That a probe has been attached: there is one line more, which tells its address, and all else is
as it was, except for the probe at this address. -/
structure World.Attaches (world : World) (attached : Boundary.AttachedProbe)
    (probe : Boundary.Probe) (result : Option Boundary.AttachedProbe × World) : Prop where
  something : result.1 = some attached
  emitted : result.2.sink.emissions = world.sink.emissions ++
    [⟨probe.emitter,
      .probeAttached (Exports.labelText attached.modulePath) attached.symbol attached.address⟩]
  undiagnosed : result.2.sink.diagnostics = world.sink.diagnostics
  probed : result.2.boundary.probeAt? attached.address = some probe
  others : ∀ other, other ≠ attached.address →
    result.2.boundary.probeAt? other = world.boundary.probeAt? other
  nextCall : result.2.boundary.nextCall = world.boundary.nextCall
  unchanged : result.2 =
    { world with boundary := result.2.boundary, sink := result.2.sink }

/-- What attaching a probe returns and leaves in an ending: nothing and one diagnostic more, or the
probe at its address. -/
def Traffic.EndsAs (traffic : Traffic) (emitter : EmitterId) (modulePath symbol : String)
    (probe : Boundary.Probe) (result : Option Boundary.AttachedProbe × World)
    (ending : ProbeEnding) : Prop :=
  match ending with
  | .incapable => traffic.world.Declines (.missingCapability "native interception") result
  | .missing failure => traffic.world.Declines failure result
  | .refused _ => traffic.world.Declines (.missingCapability "boundary") result
  | .attached address =>
    traffic.world.Attaches ⟨modulePath, symbol, address⟩ { probe with emitter } result ∧
      traffic.Attaches
        ⟨result.2, traffic.calls, traffic.trace ++
          [⟨none, ⟨emitter, .probeAttached (Exports.labelText modulePath) symbol address⟩⟩]⟩
        address { probe with emitter }

namespace ProbeEnding

variable {host : Host} {modulePath symbol : String}

/-- The ending that is due. -/
def of (host : Host) (modulePath symbol : String) : ProbeEnding :=
  match host.symbols with
  | none => .incapable
  | some symbols =>
    match symbols.find modulePath symbol with
    | .error failure => .missing failure
    | .ok address =>
      if address ∈ host.sealedAddresses then .refused address else .attached address

theorem due_of (host : Host) (modulePath symbol : String) :
    (of host modulePath symbol).Due host modulePath symbol := by
  rw [of]
  cases hosted : host.symbols with
  | none => exact hosted
  | some symbols =>
    dsimp only
    cases found : symbols.find modulePath symbol with
    | error failure => exact ⟨symbols, hosted, found⟩
    | ok address =>
      dsimp only
      split_ifs with isSealed
      · exact ⟨symbols, hosted, found, isSealed⟩
      · exact ⟨symbols, hosted, found, isSealed⟩

theorem Due.eq_of {ending : ProbeEnding} (due : ending.Due host modulePath symbol) :
    ending = of host modulePath symbol := by
  rw [of]
  cases ending with
  | incapable => rw [show host.symbols = none from due]
  | missing failure =>
    obtain ⟨symbols, hosted, found⟩ := due
    rw [hosted]
    dsimp only
    rw [found]
  | refused address =>
    obtain ⟨symbols, hosted, found, isSealed⟩ := due
    rw [hosted]
    dsimp only
    rw [found]
    exact (if_pos isSealed).symm
  | attached address =>
    obtain ⟨symbols, hosted, found, isOpen⟩ := due
    rw [hosted]
    dsimp only
    rw [found]
    exact (if_neg isOpen).symm

end ProbeEnding

theorem World.declines_diagnose (world : World) (failure : HookFailure) :
    world.Declines failure (none, world.diagnose failure) :=
  ⟨rfl, rfl, rfl, fun _ => rfl, rfl⟩

theorem Traffic.probeSymbol_ends {traffic : Traffic} (steady : traffic.Steady) (emitter : EmitterId)
    {modulePath symbol : String} (probe : Boundary.Probe) {ending : ProbeEnding}
    (due : ending.Due traffic.world.host modulePath symbol) :
    traffic.EndsAs emitter modulePath symbol probe
      (traffic.world.probeSymbol emitter modulePath symbol probe) ending := by
  rw [World.probeSymbol]
  cases ending with
  | incapable =>
    rw [show traffic.world.host.symbols = none from due]
    exact traffic.world.declines_diagnose _
  | missing failure =>
    obtain ⟨symbols, hosted, found⟩ := due
    rw [hosted]
    dsimp only
    rw [World.attachSymbol, found]
    exact traffic.world.declines_diagnose failure
  | refused address =>
    obtain ⟨symbols, hosted, found, isSealed⟩ := due
    rw [hosted]
    dsimp only
    rw [World.attachSymbol, found]
    dsimp only
    rw [World.attachAt, if_pos (List.contains_iff_mem.mpr isSealed)]
    exact traffic.world.declines_diagnose _
  | attached address =>
    obtain ⟨symbols, hosted, found, isOpen⟩ := due
    rw [hosted]
    dsimp only
    rw [World.attachSymbol, found]
    dsimp only
    rw [World.attachAt, if_neg (mt List.contains_iff_mem.mp isOpen)]
    refine ⟨⟨rfl, rfl, rfl, ?_, ?_, rfl, rfl⟩, ?_⟩
    · exact Boundary.probeAt?_putProbe_self _ address _
    · exact fun other different => Boundary.probeAt?_putProbe_other _ _ different
    · exact steady.attaches address _ emitter rfl

/-- Attaching a probe to a symbol ends in exactly one of four ways, whatever probes have been
attached before and whatever calls are under way. Without native interception, for a symbol that is
not found, or for an address that the boundary refuses, there is one diagnostic, which in the second
case is that of the lookup, and nothing else changes. Otherwise there is one line, and the probe
takes the address over: it handles the calls to the address that begin from then on, and all other
calls go on as they would have done. -/
theorem attaching_a_probe_is_all_or_nothing {start : World} {traffic : Traffic}
    (reaches : Traffic.Reaches { world := start } traffic) (emitter : EmitterId)
    (modulePath symbol : String) (probe : Boundary.Probe) :
    ∃! ending : ProbeEnding, ending.Due traffic.world.host modulePath symbol ∧
      traffic.EndsAs emitter modulePath symbol probe
        (traffic.world.probeSymbol emitter modulePath symbol probe) ending := by
  have steady := (Traffic.Steady.beginning start).reaches reaches
  have due := ProbeEnding.due_of traffic.world.host modulePath symbol
  exact ⟨_, ⟨due, Traffic.probeSymbol_ends steady emitter probe due⟩, fun _ ends => ends.1.eq_of⟩

/-- A library that exports a function under two names. -/
def aliasWorld : World :=
  { host := { symbols := some (.table ⟨[("libc.so.6", "open", 7), ("libc.so.6", "open64", 7)]⟩) } }

/-- The function has a probe, which a call has found, when it is probed under its other name; then a
symbol is probed that does not exist. -/
theorem attaching_a_probe_is_all_or_nothing_alias :
    ∃ traffic : Traffic, Traffic.Reaches { world := aliasWorld } traffic ∧ traffic.HasBegun 0 ∧
      (traffic.world.probeSymbol 2 "libc.so.6" "open64" {}).1 = some ⟨"libc.so.6", "open64", 7⟩ ∧
      (traffic.world.probeSymbol 2 "libc.so.6" "read" {}).1 = none ∧
      ∀ symbol ∈ ["open64", "read"],
        ∃! ending : ProbeEnding, ending.Due traffic.world.host "libc.so.6" symbol ∧
          traffic.EndsAs 2 "libc.so.6" symbol {}
            (traffic.world.probeSymbol 2 "libc.so.6" symbol {}) ending := by
  let call : NativeCall := { address := 7, arguments := [.null] }
  let probed : World :=
    { aliasWorld with boundary := aliasWorld.boundary.putProbe 7 { emitter := 1 } }
  have made : Traffic.Reaches { world := aliasWorld } ⟨probed, [call], []⟩ :=
    .tail (.single (.attached 7 { emitter := 1 })) (.made 7 [.null])
  have present : [call][0]? = some call := rfl
  have seeks : call.Steps probed { call with stage := .probed, probe := some { emitter := 1 } } []
      probed := .seek rfl rfl
  have begun : Traffic.Reaches { world := aliasWorld } _ := made.tail (.stepped present seeks)
  exact ⟨_, begun, ⟨_, rfl, NativeStage.noConfusion⟩, by decide, by decide,
    fun symbol _ => attaching_a_probe_is_all_or_nothing begun 2 "libc.so.6" symbol {}⟩

end Intercept
