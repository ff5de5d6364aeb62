/-
This file says what a native call emits. Its probe shows its entry under the number that it has
taken, and may show its return under the same number. Each step of a call keeps it sound: what it
has emitted so far is told by how far it has come and by what it has noted, the probe that it
found, its crossing and the result of its callee. The probes in force and the steps of other
calls have no part in this.
-/
import Intercept.Proofs.Traffic
import Mathlib.Data.List.Basic

namespace Intercept

/-! ### Emissions -/

theorem Emission.mem_of_split {through emitter : EmitterId} {event : Event} {events : List Event}
    {before after : List Emission}
    (split : events.map (Emission.mk through) = before ++ ⟨emitter, event⟩ :: after) :
    event ∈ events := by
  have member : (⟨emitter, event⟩ : Emission) ∈ events.map (Emission.mk through) :=
    split ▸ List.mem_append_right before List.mem_cons_self
  obtain ⟨_, isEvent, same⟩ := List.mem_map.mp member
  exact (Emission.mk.inj same).2 ▸ isEvent

/-- Whether an emission is the entry of the call with a number. -/
def Emission.enters (number : UInt64) (emission : Emission) : Bool :=
  match emission.event with
  | .callEntered entered _ => entered == number
  | _ => false

theorem Emission.callNumber?_of_enters {number : UInt64} {emission : Emission}
    (enters : emission.enters number) : emission.event.callNumber? = some number := by
  unfold Emission.enters at enters
  split at enters
  next entered isEntered =>
    rw [isEntered, ← eq_of_beq enters]
    rfl
  next => cases enters

/-- The entries with a number among some emissions are those among what is emitted under it. -/
theorem filter_enters (number : UInt64) (emissions : List Emission) :
    emissions.filter (Emission.enters number) =
      (emissions.filter fun emission => emission.event.callNumber? = some number).filter
        (Emission.enters number) := by
  rw [List.filter_filter]
  refine List.filter_congr fun emission _ => ?_
  cases enters : emission.enters number with
  | false => rfl
  | true => exact (decide_eq_true (Emission.callNumber?_of_enters enters)).symm

/-! ### What a probe shows of a call -/

namespace Boundary.Probe

variable (probe : Probe) (number : UInt64) (arguments : List Argument)

/-- What a probe emits at the entry of the call with a number. -/
def entry : List Event :=
  .callEntered number (probe.decoded arguments) ::
    if probe.backtrace then [.callFrames number nativeFrames] else []

/-- What the call with a number notes at its entry. -/
def noted : Crossing where
  call := number
  reported := probe.reports (probe.decoded arguments)
  argument := some (probe.decoded arguments)

/-- What a probe emits at the return of the call with a number. -/
def report (result : Int64) : List Event :=
  if probe.reports (probe.decoded arguments) then
    [.callReturned number result (some (probe.decoded arguments))]
  else []

theorem enter_eq :
    probe.enter arguments { call := number } =
      (probe.entry number arguments, probe.noted number arguments) := by
  dsimp only [enter, noted, entry]
  cases probe.reports (probe.decoded arguments) <;> rfl

theorem callNumber?_entry :
    ∀ event ∈ probe.entry number arguments, event.callNumber? = some number := by
  intro event member
  rcases List.mem_cons.mp member with rfl | snapshot
  · rfl
  · split at snapshot
    · rw [List.mem_singleton.mp snapshot]
      rfl
    · exact absurd snapshot List.not_mem_nil

theorem callNumber?_report (result : Int64) :
    ∀ event ∈ probe.report number arguments result, event.callNumber? = some number := by
  intro event member
  unfold report at member
  split at member
  · rw [List.mem_singleton.mp member]
    rfl
  · exact absurd member List.not_mem_nil

/-- A return is no part of an entry. -/
theorem returned_not_mem_entry {told : UInt64} {value : Int64} {shown : Option String} :
    .callReturned told value shown ∉ probe.entry number arguments := by
  intro member
  rcases List.mem_cons.mp member with equal | snapshot
  · exact Event.noConfusion equal
  · split at snapshot
    · exact Event.noConfusion (List.mem_singleton.mp snapshot)
    · exact absurd snapshot List.not_mem_nil

/-- A return among the entry of a call and what has been emitted of its report is the whole
report. -/
theorem split_eq {result : Int64} {emitted pending : List Event}
    (report : probe.report number arguments result = emitted ++ pending)
    {before after : List Emission} {emitter : EmitterId} {told : UInt64} {value : Int64}
    {shown : Option String}
    (split : (probe.entry number arguments ++ emitted).map (Emission.mk probe.emitter) =
      before ++ ⟨emitter, .callReturned told value shown⟩ :: after) :
    emitter = probe.emitter ∧ told = number ∧ value = result ∧
      shown = some (probe.decoded arguments) ∧
      before = (probe.entry number arguments).map (Emission.mk probe.emitter) ∧ after = [] := by
  have foreign : .callReturned told value shown ∉ probe.entry number arguments :=
    probe.returned_not_mem_entry number arguments
  have unreported (none : emitted = []) : False := by
    rw [none, List.append_nil] at split
    exact foreign (Emission.mem_of_split split)
  unfold Probe.report at report
  split at report
  · rcases List.append_eq_singleton_iff.mp report.symm with ⟨none, -⟩ | ⟨rfl, -⟩
    · exact (unreported none).elim
    · rw [List.map_append, List.map_singleton] at split
      rcases List.eq_nil_or_concat' after with rfl | ⟨rest, last, rfl⟩
      · obtain ⟨same, ends⟩ := List.append_inj' split rfl
        cases ends
        exact ⟨rfl, rfl, rfl, rfl, same.symm, rfl⟩
      · rw [← List.cons_append, ← List.append_assoc] at split
        exact (foreign (Emission.mem_of_split (List.append_inj' split rfl).1)).elim
  · exact (unreported (List.append_eq_nil_iff.mp report.symm).1).elim

theorem filter_enters_entry :
    ((probe.entry number arguments).map (Emission.mk probe.emitter)).filter
        (Emission.enters number) =
      [⟨probe.emitter, .callEntered number (probe.decoded arguments)⟩] := by
  have enters : Emission.enters number
      ⟨probe.emitter, .callEntered number (probe.decoded arguments)⟩ = true :=
    beq_self_eq_true number
  rw [entry, List.map_cons, List.filter_cons_of_pos enters]
  cases probe.backtrace <;> rfl

/-- A probe asks for a report unless it has a pattern that the text does not match. -/
theorem reports_iff (value : String) :
    probe.reports value = true ↔
      ∀ pattern, probe.condition = some pattern → pattern.isMatch value = true := by
  unfold reports
  cases probe.condition with
  | none => exact iff_of_true rfl fun _ given => nomatch given
  | some pattern =>
    exact ⟨fun isMatch _ given => Option.some.inj given ▸ isMatch, fun all => all pattern rfl⟩

end Boundary.Probe

/-! ### Single calls -/

namespace NativeCall

/-- The number that a call has taken. -/
def number? (call : NativeCall) : Option UInt64 :=
  call.crossing.map Boundary.Crossing.call

/-- That a call has come as far as it has in the way it should, having emitted what it has. -/
inductive Sound : NativeCall → List Emission → Prop where
  | called {address : UInt64} {arguments : List Boundary.Argument} :
      Sound ⟨address, arguments, .called, none, none, none⟩ []
  | passing {address : UInt64} {arguments : List Boundary.Argument} :
      Sound ⟨address, arguments, .running, none, none, none⟩ []
  | passed {address : UInt64} {arguments : List Boundary.Argument} {result : Int64} :
      Sound ⟨address, arguments, .leaving [], none, none, some result⟩ []
  | past {address : UInt64} {arguments : List Boundary.Argument} {result : Int64} :
      Sound ⟨address, arguments, .returned result, none, none, some result⟩ []
  | probed {address : UInt64} {arguments : List Boundary.Argument} {probe : Boundary.Probe} :
      Sound ⟨address, arguments, .probed, some probe, none, none⟩ []
  | entering {address : UInt64} {arguments : List Boundary.Argument} {probe : Boundary.Probe}
      {number : UInt64} {emitted pending : List Event}
      (entry : probe.entry number arguments = emitted ++ pending) :
      Sound
        ⟨address, arguments, .entering pending, some probe, some (probe.noted number arguments),
          none⟩
        (emitted.map (Emission.mk probe.emitter))
  | running {address : UInt64} {arguments : List Boundary.Argument} {probe : Boundary.Probe}
      {number : UInt64} :
      Sound
        ⟨address, arguments, .running, some probe, some (probe.noted number arguments), none⟩
        ((probe.entry number arguments).map (Emission.mk probe.emitter))
  | leaving {address : UInt64} {arguments : List Boundary.Argument} {probe : Boundary.Probe}
      {number : UInt64} {emitted pending : List Event} {result : Int64}
      (report : probe.report number arguments result = emitted ++ pending) :
      Sound
        ⟨address, arguments, .leaving pending, some probe, some (probe.noted number arguments),
          some result⟩
        ((probe.entry number arguments ++ emitted).map (Emission.mk probe.emitter))
  | returned {address : UInt64} {arguments : List Boundary.Argument} {probe : Boundary.Probe}
      {number : UInt64} {result : Int64} :
      Sound
        ⟨address, arguments, .returned result, some probe,
          some (probe.noted number arguments), some result⟩
        ((probe.entry number arguments ++ probe.report number arguments result).map
          (Emission.mk probe.emitter))

variable {call next : NativeCall} {world after : World} {emitted more : List Emission}

/-- A step of a call keeps it sound. -/
theorem Sound.step (sound : call.Sound emitted) (steps : call.Steps world next more after) :
    next.Sound (emitted ++ more) := by
  cases steps with
  | pass isCalled _ =>
    cases sound <;> cases isCalled
    exact .passing
  | seek isCalled _ =>
    cases sound <;> cases isCalled
    exact .probed
  | number isProbed found begun entered =>
    cases sound <;> cases isProbed
    cases found
    obtain ⟨rfl, -⟩ := Prod.mk.inj begun
    obtain ⟨rfl, rfl⟩ := Prod.mk.inj ((Boundary.Probe.enter_eq ..).symm.trans entered)
    exact .entering (List.nil_append _).symm
  | enter isEntering found =>
    cases sound <;> cases isEntering
    cases found
    rename_i entry
    rw [← List.map_singleton, ← List.map_append]
    exact .entering (entry.trans (List.append_cons _ _ _))
  | start isEntering =>
    cases sound <;> cases isEntering
    rename_i entry
    rw [List.append_nil] at entry
    rw [List.append_nil, ← entry]
    exact .running
  | answer _ isRunning =>
    cases sound <;> cases isRunning
    · exact .passed
    · rw [List.append_nil, ← List.append_nil (Boundary.Probe.entry _ _ _)]
      exact .leaving (List.nil_append _).symm
  | leave isLeaving found =>
    cases sound <;> cases isLeaving
    cases found
    rename_i report
    rw [← List.map_singleton, ← List.map_append, List.append_assoc]
    exact .leaving (report.trans (List.append_cons _ _ _))
  | finish isLeaving answered =>
    cases sound <;> cases isLeaving <;> cases answered
    · exact .past
    · rename_i report
      rw [List.append_nil] at report
      rw [List.append_nil, ← report]
      exact .returned

/-! ### What single calls emit -/

/-- Everything that a call emits is about itself. -/
theorem Sound.callNumber? (sound : call.Sound emitted) :
    ∀ emission ∈ emitted, emission.event.callNumber? = call.number? := by
  have about {emitter : EmitterId} {number : UInt64} {events : List Event}
      (shown : ∀ event ∈ events, event.callNumber? = some number) :
      ∀ emission ∈ events.map (Emission.mk emitter),
        emission.event.callNumber? = some number := by
    intro emission member
    obtain ⟨event, isEvent, rfl⟩ := List.mem_map.mp member
    exact shown event isEvent
  cases sound with
  | called | passing | passed | past | probed =>
    exact fun _ member => absurd member List.not_mem_nil
  | @entering _ arguments probe number _ _ entry =>
    have shown := probe.callNumber?_entry number arguments
    rw [entry] at shown
    exact about (List.forall_mem_append.mp shown).1
  | @running _ arguments probe number => exact about (probe.callNumber?_entry number arguments)
  | @leaving _ arguments probe number _ _ result report =>
    have shown := probe.callNumber?_report number arguments result
    rw [report] at shown
    exact about (List.forall_mem_append.mpr
      ⟨probe.callNumber?_entry number arguments, (List.forall_mem_append.mp shown).1⟩)
  | @returned _ arguments probe number result =>
    exact about (List.forall_mem_append.mpr
      ⟨probe.callNumber?_entry number arguments,
        probe.callNumber?_report number arguments result⟩)

/-- A call that has found no probe takes no number and emits nothing. -/
theorem Sound.unprobed (sound : call.Sound emitted) (unprobed : call.probe = none) :
    call.number? = none ∧ emitted = [] := by
  cases sound <;> cases unprobed <;> exact ⟨rfl, rfl⟩

/-- A call returns the result of its callee. -/
theorem Sound.answered (sound : call.Sound emitted) {result : Int64}
    (isReturned : call.stage = .returned result) : call.answer = some result := by
  cases sound <;> cases isReturned <;> rfl

/-- A call that has returned has emitted what the probe that it found shows of it. -/
theorem Sound.emitted_eq (sound : call.Sound emitted) {probe : Boundary.Probe} {result : Int64}
    (found : call.probe = some probe) (isReturned : call.stage = .returned result) :
    ∃ number, call.number? = some number ∧
      emitted = (probe.entry number call.arguments ++
        probe.report number call.arguments result).map (Emission.mk probe.emitter) := by
  cases sound <;> cases isReturned <;> cases found
  exact ⟨_, rfl, rfl⟩

/-- If what a call has emitted contains a return, it is the report of the call, and just the entry
of the call stands before it. -/
theorem Sound.reported (sound : call.Sound emitted) {before after : List Emission}
    {emitter : EmitterId} {told : UInt64} {value : Int64} {shown : Option String}
    (split : emitted = before ++ ⟨emitter, .callReturned told value shown⟩ :: after) :
    ∃ probe, call.probe = some probe ∧ call.number? = some told ∧ call.answer = some value ∧
      emitter = probe.emitter ∧ shown = some (probe.decoded call.arguments) ∧
      before = (probe.entry told call.arguments).map (Emission.mk probe.emitter) ∧
      after = [] := by
  cases sound with
  | called | passing | passed | past | probed =>
    exact absurd split.symm (List.append_ne_nil_of_right_ne_nil _ (List.cons_ne_nil _ _))
  | @entering _ arguments probe number _ pending entry =>
    have member := List.mem_append_left pending (Emission.mem_of_split split)
    rw [← entry] at member
    exact absurd member (probe.returned_not_mem_entry number arguments)
  | @running _ arguments probe number =>
    exact absurd (Emission.mem_of_split split) (probe.returned_not_mem_entry number arguments)
  | @leaving _ arguments probe number _ _ _ report =>
    obtain ⟨rfl, rfl, rfl, rfl, rfl, rfl⟩ := probe.split_eq number arguments report split
    exact ⟨_, rfl, rfl, rfl, rfl, rfl, rfl, rfl⟩
  | @returned _ arguments probe number =>
    obtain ⟨rfl, rfl, rfl, rfl, rfl, rfl⟩ :=
      probe.split_eq number arguments (List.append_nil _).symm split
    exact ⟨_, rfl, rfl, rfl, rfl, rfl, rfl, rfl⟩

end NativeCall

/-! ### Steps of one call -/

namespace NativeCall

variable {call next : NativeCall} {world after : World} {emitted more : List Emission}

theorem Steps.address (steps : call.Steps world next more after) : next.address = call.address := by
  cases steps <;> rfl

theorem Steps.arguments (steps : call.Steps world next more after) :
    next.arguments = call.arguments := by
  cases steps <;> rfl

/-- A call that has taken a step has begun. -/
theorem Steps.begun (steps : call.Steps world next more after) : next.stage ≠ .called := by
  cases steps <;> exact NativeStage.noConfusion

theorem Steps.probes (steps : call.Steps world next more after) :
    after.boundary.probes = world.boundary.probes := by
  cases steps with
  | number _ _ begun _ =>
    obtain ⟨-, rfl⟩ := Prod.mk.inj begun
    rfl
  | _ => rfl

theorem Steps.emissions (steps : call.Steps world next more after) :
    after.sink.emissions = world.sink.emissions ++ more := by
  cases steps with
  | enter | leave => rfl
  | _ => exact (List.append_nil _).symm

/-- The probe of a call is the one in force at its address when the call begins, and remains so
from then on. -/
theorem Steps.probe (steps : call.Steps world next more after) (sound : call.Sound emitted) :
    call.stage = .called ∧ next.probe = world.boundary.probeAt? call.address ∨
      call.stage ≠ .called ∧ next.probe = call.probe := by
  cases steps with
  | pass isCalled unprobed =>
    refine .inl ⟨isCalled, ?_⟩
    cases sound <;> cases isCalled
    exact unprobed.symm
  | seek isCalled probed => exact .inl ⟨isCalled, probed.symm⟩
  | number stands | enter stands | start stands | answer _ stands | leave stands | finish stands =>
    refine .inr ⟨fun isCalled => ?_, rfl⟩
    cases stands.symm.trans isCalled

/-- A step either leaves the numbers alone or gives the next one to a call that has none. -/
theorem Steps.number? (steps : call.Steps world next more after) (sound : call.Sound emitted) :
    next.number? = call.number? ∧ after.boundary.nextCall = world.boundary.nextCall ∨
      call.number? = none ∧ next.number? = some world.boundary.nextCall ∧
        after.boundary.nextCall = world.boundary.nextCall + 1 := by
  cases steps with
  | number isProbed _ begun entered =>
    obtain ⟨rfl, rfl⟩ := Prod.mk.inj begun
    obtain ⟨-, rfl⟩ := Prod.mk.inj ((Boundary.Probe.enter_eq ..).symm.trans entered)
    cases sound <;> cases isProbed
    exact .inr ⟨rfl, rfl, rfl⟩
  | _ => exact .inl ⟨rfl, rfl⟩

/-- A step changes nothing but the next number and what has been emitted. -/
theorem Steps.after_eq (steps : call.Steps world next more after) :
    after = { world with
      boundary := { world.boundary with nextCall := after.boundary.nextCall }
      sink := { world.sink with emissions := world.sink.emissions ++ more } } := by
  cases steps with
  | enter | leave => rfl
  | number _ _ begun _ =>
    obtain ⟨-, rfl⟩ := Prod.mk.inj begun
    rw [List.append_nil]
  | _ => rw [List.append_nil]

/-- A step can be taken in any world with the same next number and, if the call is about to look
its probe up, the same probe at its address. -/
theorem Steps.replay {other : World} (steps : call.Steps world next more after)
    (sameNext : other.boundary.nextCall = world.boundary.nextCall)
    (sameProbe : call.stage = .called →
      other.boundary.probeAt? call.address = world.boundary.probeAt? call.address) :
    call.Steps other next more
      { other with
        boundary := { other.boundary with nextCall := after.boundary.nextCall }
        sink := { other.sink with emissions := other.sink.emissions ++ more } } := by
  have unchanged : { other with
      boundary := { other.boundary with nextCall := world.boundary.nextCall }
      sink := { other.sink with emissions := other.sink.emissions ++ [] } } = other := by
    rw [← sameNext, List.append_nil]
  cases steps with
  | pass isCalled unprobed =>
    rw [unchanged]
    exact .pass isCalled ((sameProbe isCalled).trans unprobed)
  | seek isCalled probed =>
    rw [unchanged]
    exact .seek isCalled ((sameProbe isCalled).trans probed)
  | number isProbed found begun entered =>
    obtain ⟨rfl, rfl⟩ := Prod.mk.inj begun
    rw [← sameNext] at entered
    rw [← sameNext, List.append_nil]
    exact .number isProbed found rfl entered
  | enter isEntering found =>
    rw [show (world.emit _ _).boundary.nextCall = other.boundary.nextCall from sameNext.symm]
    exact .enter isEntering found
  | start isEntering =>
    rw [unchanged]
    exact .start isEntering
  | answer result isRunning =>
    rw [unchanged]
    exact .answer result isRunning
  | leave isLeaving found =>
    rw [show (world.emit _ _).boundary.nextCall = other.boundary.nextCall from sameNext.symm]
    exact .leave isLeaving found
  | finish isLeaving answered =>
    rw [unchanged]
    exact .finish isLeaving answered

end NativeCall

end Intercept
