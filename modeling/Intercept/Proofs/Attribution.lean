/-
This file proves that native calls are not mixed up, however many of them are under way at once.
As long as there are fewer calls than numbers, each number belongs to one call, and what is
emitted under a number is what this call emits: its entry, and its return if the probe that it
found at the beginning asks for it. So a return tells the argument and the result of the call
that it belongs to, and goes where its entry went, whatever other calls and probes came between
the two. The invariant ties what each call has emitted to how far it has come, never to the
probes in force.
-/
import Intercept.Proofs.Crossing

namespace Intercept

/-! ### Places among calls -/

theorem getElem?_concat_cases {calls : List NativeCall} {last call : NativeCall} {index : Nat}
    (found : (calls ++ [last])[index]? = some call) :
    calls[index]? = some call ∨ index = calls.length ∧ call = last := by
  rcases Nat.lt_or_ge index calls.length with before | beyond
  · rw [List.getElem?_append_left before] at found
    exact .inl found
  · rw [List.getElem?_append_right beyond] at found
    obtain ⟨isZero, isLast⟩ := List.getElem?_eq_some_iff.mp found
    simp only [List.getElem_singleton] at isLast
    rw [List.length_singleton] at isZero
    exact .inr ⟨by omega, isLast.symm⟩

theorem getElem?_set_cases {calls : List NativeCall} {next call : NativeCall}
    {index other : Nat} (found : (calls.set index next)[other]? = some call) :
    other = index ∧ call = next ∨ other ≠ index ∧ calls[other]? = some call := by
  rw [List.getElem?_set] at found
  split at found
  next same =>
    split at found
    · exact .inl ⟨same.symm, (Option.some.inj found).symm⟩
    · cases found
  next differs => exact .inr ⟨fun same => differs same.symm, found⟩

/-! ### Probes at addresses -/

theorem Boundary.mem_of_probeAt? {boundary : Boundary} {address : UInt64}
    {probe : Boundary.Probe}
    (found : boundary.probeAt? address = some probe) : (address, probe) ∈ boundary.probes := by
  obtain ⟨before, after, split, -⟩ := List.lookup_eq_some_iff.mp found
  rw [split]
  exact List.mem_append_right _ List.mem_cons_self

theorem Boundary.isProbed_of_mem {boundary : Boundary} {address : UInt64}
    {probe : Boundary.Probe} (member : (address, probe) ∈ boundary.probes) :
    boundary.isProbed address := by
  unfold Boundary.isProbed Boundary.probeAt?
  exact List.lookup_isSome_iff.mpr ⟨_, member, beq_self_eq_true address⟩

theorem Boundary.probeAt?_putProbe_self (boundary : Boundary) (address : UInt64)
    (probe : Boundary.Probe) : (boundary.putProbe address probe).probeAt? address = some probe :=
  List.lookup_cons_self

theorem Boundary.probeAt?_putProbe_other (boundary : Boundary) {address other : UInt64}
    (probe : Boundary.Probe) (different : other ≠ address) :
    (boundary.putProbe address probe).probeAt? other = boundary.probeAt? other := by
  rw [probeAt?, putProbe, List.lookup_cons, beq_false_of_ne different]
  rfl

/-! ### Numbers -/

/-- How many numbers there are from a first one up to another one. -/
def turns (first number : UInt64) : Nat :=
  (number - first).toNat

theorem turns_self (number : UInt64) : turns number number = 0 := by
  rw [turns, UInt64.sub_self]
  rfl

theorem turns_succ {first number : UInt64} (few : turns first number + 1 < UInt64.size) :
    turns first (number + 1) = turns first number + 1 := by
  have moved : number + 1 - first = number - first + 1 := by
    rw [UInt64.sub_eq_add_neg, UInt64.sub_eq_add_neg, UInt64.add_assoc, UInt64.add_assoc,
      UInt64.add_comm 1]
  rw [turns, moved, UInt64.toNat_add]
  exact Nat.mod_eq_of_lt few

/-- That calls have taken the numbers from a first one up to a next one, each number one call. -/
structure Numbered (first next : UInt64) (calls : List NativeCall) : Prop where
  counted : turns first next = calls.countP fun call => call.number?.isSome
  issued : ∀ {call : NativeCall} {number : UInt64}, call ∈ calls → call.number? = some number →
    turns first number < turns first next
  apart : ∀ {one two : Nat} {call other : NativeCall} {number : UInt64},
    calls[one]? = some call → calls[two]? = some other →
      call.number? = some number → other.number? = some number → one = two

namespace Numbered

variable {first upcoming : UInt64} {calls : List NativeCall} {call next : NativeCall} {index : Nat}

theorem beginning (first : UInt64) : Numbered first first [] where
  counted := turns_self first
  issued member := by cases member
  apart found := by cases found

theorem concat (numbered : Numbered first upcoming calls) (fresh : call.number? = none) :
    Numbered first upcoming (calls ++ [call]) where
  counted := by
    rw [List.countP_append, List.countP_singleton, fresh]
    exact numbered.counted
  issued {other number} member taken := by
    rcases List.mem_append.mp member with before | isNew
    · exact numbered.issued before taken
    · rw [List.mem_singleton.mp isNew, fresh] at taken
      cases taken
  apart {one two _ _ _} found otherFound taken otherTaken := by
    rcases getElem?_concat_cases found with before | ⟨-, rfl⟩
    · rcases getElem?_concat_cases otherFound with otherBefore | ⟨-, rfl⟩
      · exact numbered.apart before otherBefore taken otherTaken
      · exact absurd (fresh.symm.trans otherTaken) (Option.some_ne_none _).symm
    · exact absurd (fresh.symm.trans taken) (Option.some_ne_none _).symm

/-- A call that keeps its number, or keeps having none, keeps the numbers in order. -/
theorem keep (numbered : Numbered first upcoming calls) (present : calls[index]? = some call)
    (same : next.number? = call.number?) : Numbered first upcoming (calls.set index next) where
  counted := by
    obtain ⟨within, isCall⟩ := List.getElem?_eq_some_iff.mp present
    have positive : call.number?.isSome = true →
        0 < calls.countP fun call => call.number?.isSome := fun isNumbered =>
      List.countP_pos_iff.mpr ⟨call, List.mem_of_getElem? present, isNumbered⟩
    rw [List.countP_set within, isCall, same, numbered.counted]
    cases isNumbered : call.number?.isSome with
    | true =>
      have := positive isNumbered
      simp only [if_true]
      omega
    | false => simp
  issued {other number} member taken := by
    rcases List.mem_or_eq_of_mem_set member with before | rfl
    · exact numbered.issued before taken
    · exact numbered.issued (List.mem_of_getElem? present) (same.symm.trans taken)
  apart {one two callOne callTwo number} found otherFound taken otherTaken := by
    have back {place : Nat} {other : NativeCall}
        (found : (calls.set index next)[place]? = some other)
        (taken : other.number? = some number) :
        ∃ original, calls[place]? = some original ∧ original.number? = some number := by
      rcases getElem?_set_cases found with ⟨rfl, rfl⟩ | ⟨-, found⟩
      · exact ⟨call, present, same.symm.trans taken⟩
      · exact ⟨other, found, taken⟩
    obtain ⟨_, before, taken⟩ := back found taken
    obtain ⟨_, otherBefore, otherTaken⟩ := back otherFound otherTaken
    exact numbered.apart before otherBefore taken otherTaken

/-- A call that takes the next number keeps the numbers in order, as long as there are fewer
calls than numbers. -/
theorem take (numbered : Numbered first upcoming calls) (few : calls.length < UInt64.size)
    (present : calls[index]? = some call) (none : call.number? = none)
    (taken : next.number? = some upcoming) :
    Numbered first (upcoming + 1) (calls.set index next) := by
  obtain ⟨within, isCall⟩ := List.getElem?_eq_some_iff.mp present
  have count : (calls.set index next).countP (fun call => call.number?.isSome) =
      (calls.countP fun call => call.number?.isSome) + 1 := by
    rw [List.countP_set within, isCall, none, taken]
    rfl
  have bound : (calls.set index next).countP (fun call => call.number?.isSome) ≤ calls.length :=
    Nat.le_trans List.countP_le_length (Nat.le_of_eq List.length_set)
  have succ : turns first (upcoming + 1) = turns first upcoming + 1 :=
    turns_succ (by rw [numbered.counted]; omega)
  constructor
  case counted => rw [succ, numbered.counted, count]
  case issued =>
    intro other number member isTaken
    rw [succ]
    rcases List.mem_or_eq_of_mem_set member with before | rfl
    · exact Nat.lt_succ_of_lt (numbered.issued before isTaken)
    · cases taken.symm.trans isTaken
      exact Nat.lt_succ_self _
  case apart =>
    -- The next number is past all that have been taken.
    have unused {place : Nat} {other : NativeCall} (found : calls[place]? = some other) :
        other.number? ≠ some upcoming := fun isTaken =>
      Nat.lt_irrefl _ (numbered.issued (List.mem_of_getElem? found) isTaken)
    intro one two callOne callTwo number found otherFound isTaken otherTaken
    rcases getElem?_set_cases found with ⟨rfl, rfl⟩ | ⟨-, before⟩ <;>
      rcases getElem?_set_cases otherFound with ⟨rfl, rfl⟩ | ⟨-, otherBefore⟩
    · rfl
    · cases taken.symm.trans isTaken
      exact absurd otherTaken (unused otherBefore)
    · cases taken.symm.trans otherTaken
      exact absurd isTaken (unused before)
    · exact numbered.apart before otherBefore isTaken otherTaken

end Numbered

/-! ### What is emitted -/

namespace Traffic

/-- What has been emitted. -/
def emissions (traffic : Traffic) : List Emission :=
  traffic.trace.map Report.emission

/-- What the call at a place among the calls has emitted. -/
def emittedBy (traffic : Traffic) (index : Nat) : List Emission :=
  (traffic.trace.filter fun report => report.source = some index).map Report.emission

/-- What has been emitted under a number. -/
def emittedUnder (traffic : Traffic) (number : UInt64) : List Emission :=
  traffic.emissions.filter fun emission => emission.event.callNumber? = some number

theorem emissions_append (world : World) (calls : List NativeCall) (trace : List Report)
    (source : Option Nat) (emitted : List Emission) :
    emissions ⟨world, calls, trace ++ emitted.map (Report.mk source)⟩ =
      trace.map Report.emission ++ emitted := by
  have back : (emitted.map (Report.mk source)).map Report.emission = emitted := by
    rw [List.map_map]
    exact List.map_id emitted
  rw [emissions, List.map_append, back]

theorem emittedBy_append_self (world : World) (calls : List NativeCall) (trace : List Report)
    (index : Nat) (emitted : List Emission) :
    emittedBy ⟨world, calls, trace ++ emitted.map (Report.mk (some index))⟩ index =
      emittedBy ⟨world, calls, trace⟩ index ++ emitted := by
  have own : (emitted.map (Report.mk (some index))).filter
      (fun report => report.source = some index) = emitted.map (Report.mk (some index)) := by
    refine List.filter_eq_self.mpr fun report member => ?_
    obtain ⟨_, -, rfl⟩ := List.mem_map.mp member
    exact decide_eq_true rfl
  have back : (emitted.map (Report.mk (some index))).map Report.emission = emitted := by
    rw [List.map_map]
    exact List.map_id emitted
  rw [emittedBy, List.filter_append, List.map_append, own, back, emittedBy]

theorem emittedBy_append_other (world : World) (calls : List NativeCall) (trace : List Report)
    {index : Nat} {source : Option Nat} (other : source ≠ some index) (emitted : List Emission) :
    emittedBy ⟨world, calls, trace ++ emitted.map (Report.mk source)⟩ index =
      emittedBy ⟨world, calls, trace⟩ index := by
  have none : (emitted.map (Report.mk source)).filter
      (fun report => report.source = some index) = [] := by
    refine List.filter_eq_nil_iff.mpr fun report member => ?_
    obtain ⟨_, -, rfl⟩ := List.mem_map.mp member
    exact fun same => other (of_decide_eq_true same)
  rw [emittedBy, List.filter_append, none, List.append_nil, emittedBy]

/-! ### Calls that emit what they should -/

/-- That each call of a traffic has emitted what it should have, however many calls there are. -/
structure Steady (traffic : Traffic) : Prop where
  sound : ∀ {index : Nat} {call : NativeCall}, traffic.calls[index]? = some call →
    call.Sound (traffic.emittedBy index)
  made : ∀ {report : Report} {index : Nat}, report ∈ traffic.trace →
    report.source = some index → index < traffic.calls.length

namespace Steady

variable {traffic next : Traffic} {index : Nat} {call stepped : NativeCall}
  {emitted : List Emission} {world : World}

theorem beginning (world : World) : Steady { world } where
  sound found := by cases found
  made member := by cases member

/-- A call that is not yet made has emitted nothing. -/
theorem emittedBy_length (steady : traffic.Steady) :
    traffic.emittedBy traffic.calls.length = [] := by
  refine List.map_eq_nil_iff.mpr (List.filter_eq_nil_iff.mpr fun report member own => ?_)
  exact Nat.lt_irrefl _ (steady.made member (of_decide_eq_true own))

theorem make (steady : traffic.Steady) (address : UInt64) (arguments : List Boundary.Argument) :
    Steady { traffic with calls := traffic.calls ++ [{ address, arguments }] } where
  sound {index call} found := by
    rcases getElem?_concat_cases found with before | ⟨rfl, rfl⟩
    · exact steady.sound before
    · exact steady.emittedBy_length ▸ .called
  made member source := by
    rw [List.length_append]
    exact Nat.lt_add_right _ (steady.made member source)

theorem step (steady : traffic.Steady) (present : traffic.calls[index]? = some call)
    (steps : call.Steps traffic.world stepped emitted world) :
    Steady ⟨world, traffic.calls.set index stepped,
      traffic.trace ++ emitted.map (Report.mk (some index))⟩ where
  sound {other found} isOther := by
    rcases getElem?_set_cases isOther with ⟨rfl, rfl⟩ | ⟨differs, isOther⟩
    · rw [emittedBy_append_self]
      exact (steady.sound present).step steps
    · rw [emittedBy_append_other _ _ _ fun same => differs (Option.some.inj same).symm]
      exact steady.sound isOther
  made {report other} isReport source := by
    rw [List.length_set]
    rcases List.mem_append.mp isReport with before | isNew
    · exact steady.made before source
    · obtain ⟨_, -, rfl⟩ := List.mem_map.mp isNew
      cases source
      exact (List.getElem?_eq_some_iff.mp present).1

/-- What no call emits leaves what calls have emitted. -/
theorem foreign (steady : traffic.Steady) (world : World) (emitted : List Emission) :
    Steady ⟨world, traffic.calls, traffic.trace ++ emitted.map (Report.mk none)⟩ where
  sound {index call} found := by
    rw [emittedBy_append_other _ _ _ (Option.some_ne_none index).symm]
    exact steady.sound found
  made {report other} isReport source := by
    rcases List.mem_append.mp isReport with before | isNew
    · exact steady.made before source
    · obtain ⟨_, -, rfl⟩ := List.mem_map.mp isNew
      cases source

theorem leads (steady : traffic.Steady) (leads : traffic.Leads next) : next.Steady := by
  cases leads with
  | made address arguments => exact steady.make address arguments
  | stepped present steps => exact steady.step present steps
  | attached => exact ⟨steady.sound, steady.made⟩
  | elsewhere => exact steady.foreign _ _

theorem reaches (steady : traffic.Steady) (reaches : traffic.Reaches next) : next.Steady := by
  induction reaches with
  | refl => exact steady
  | tail _ leads inductionHypothesis => exact inductionHypothesis.leads leads

end Steady

/-! ### The invariant -/

/-- That a traffic that has begun in a world is in order: each call has emitted what it should
have, nothing else that has been emitted is about a call, numbers are taken in turn and by one
call each, and each call keeps the probe that it found at its address. -/
structure Orderly (start : World) (traffic : Traffic) : Prop where
  sound : ∀ {index : Nat} {call : NativeCall}, traffic.calls[index]? = some call →
    call.Sound (traffic.emittedBy index)
  made : ∀ {report : Report} {index : Nat}, report ∈ traffic.trace →
    report.source = some index → index < traffic.calls.length
  foreign : ∀ {report : Report}, report ∈ traffic.trace → report.source = none →
    report.emission.event.callNumber? = none
  written : traffic.world.sink.emissions = start.sink.emissions ++ traffic.emissions
  numbered : Numbered start.boundary.nextCall traffic.world.boundary.nextCall traffic.calls
  probes : ∃ added, traffic.world.boundary.probes = added ++ start.boundary.probes
  known : ∀ {call : NativeCall} {probe : Boundary.Probe}, call ∈ traffic.calls →
    call.probe = some probe → (call.address, probe) ∈ traffic.world.boundary.probes
  sought : ∀ {call : NativeCall}, call ∈ traffic.calls → call.stage ≠ .called →
    start.boundary.isProbed call.address → call.probe.isSome

namespace Orderly

variable {start : World} {traffic next : Traffic}

theorem beginning (world : World) : Orderly world { world } where
  sound found := by cases found
  made member := by cases member
  foreign member := by cases member
  written := (List.append_nil _).symm
  numbered := .beginning _
  probes := ⟨[], rfl⟩
  known member := by cases member
  sought member := by cases member

theorem steady (orderly : Orderly start traffic) : traffic.Steady :=
  ⟨orderly.sound, orderly.made⟩

/-- Making a call keeps a traffic in order. -/
theorem make (orderly : Orderly start traffic) (address : UInt64)
    (arguments : List Boundary.Argument) :
    Orderly start { traffic with calls := traffic.calls ++ [{ address, arguments }] } where
  sound := (orderly.steady.make address arguments).sound
  made := (orderly.steady.make address arguments).made
  foreign := orderly.foreign
  written := orderly.written
  numbered := orderly.numbered.concat rfl
  probes := orderly.probes
  known {call probe} member found := by
    rcases List.mem_append.mp member with member | isNew
    · exact orderly.known member found
    · rw [List.mem_singleton.mp isNew] at found
      cases found
  sought {call} member begun probed := by
    rcases List.mem_append.mp member with member | isNew
    · exact orderly.sought member begun probed
    · rw [List.mem_singleton.mp isNew] at begun
      exact absurd rfl begun

/-- An address that had a probe at the beginning still has one. -/
theorem isProbed (orderly : Orderly start traffic) {address : UInt64}
    (probed : start.boundary.isProbed address) :
    (traffic.world.boundary.probeAt? address).isSome := by
  obtain ⟨added, grown⟩ := orderly.probes
  unfold Boundary.probeAt?
  rw [grown, List.lookup_append, Option.isSome_or]
  exact Bool.or_eq_true_iff.mpr (.inr probed)

variable {index : Nat} {call stepped : NativeCall} {emitted : List Emission} {world : World}

theorem numbered_step (orderly : Orderly start traffic) (few : traffic.calls.length < UInt64.size)
    (present : traffic.calls[index]? = some call)
    (steps : call.Steps traffic.world stepped emitted world) :
    Numbered start.boundary.nextCall world.boundary.nextCall
      (traffic.calls.set index stepped) := by
  rcases steps.number? (orderly.sound present) with ⟨same, kept⟩ | ⟨none, taken, next⟩
  · rw [kept]
    exact orderly.numbered.keep present same
  · rw [next]
    exact orderly.numbered.take few present none taken

/-- A step of a call keeps a traffic in order, as long as there are fewer calls than numbers. -/
theorem step (orderly : Orderly start traffic) (few : traffic.calls.length < UInt64.size)
    (present : traffic.calls[index]? = some call)
    (steps : call.Steps traffic.world stepped emitted world) :
    Orderly start ⟨world, traffic.calls.set index stepped,
      traffic.trace ++ emitted.map (Report.mk (some index))⟩ where
  sound := (orderly.steady.step present steps).sound
  made := (orderly.steady.step present steps).made
  foreign {report} isReport source := by
    rcases List.mem_append.mp isReport with before | isNew
    · exact orderly.foreign before source
    · obtain ⟨_, -, rfl⟩ := List.mem_map.mp isNew
      cases source
  written := by
    rw [steps.emissions, orderly.written, List.append_assoc, emissions_append, emissions]
  numbered := orderly.numbered_step few present steps
  probes := by
    rw [steps.probes]
    exact orderly.probes
  known {other probe} member found := by
    rw [steps.probes]
    rcases List.mem_or_eq_of_mem_set member with before | rfl
    · exact orderly.known before found
    · rw [steps.address]
      rcases steps.probe (orderly.sound present) with ⟨-, same⟩ | ⟨-, same⟩
      · exact Boundary.mem_of_probeAt? (same.symm.trans found)
      · exact orderly.known (List.mem_of_getElem? present) (same.symm.trans found)
  sought {other} member begun probed := by
    rcases List.mem_or_eq_of_mem_set member with before | rfl
    · exact orderly.sought before begun probed
    · rw [steps.address] at probed
      rcases steps.probe (orderly.sound present) with ⟨-, same⟩ | ⟨isBegun, same⟩
      · rw [same]
        exact orderly.isProbed probed
      · rw [same]
        exact orderly.sought (List.mem_of_getElem? present) isBegun probed

/-- Putting a probe at an address keeps a traffic in order. -/
theorem attach (orderly : Orderly start traffic) (address : UInt64) (probe : Boundary.Probe) :
    Orderly start
      { traffic with
        world := { traffic.world with
          boundary := traffic.world.boundary.putProbe address probe } } where
  sound := orderly.sound
  made := orderly.made
  foreign := orderly.foreign
  written := orderly.written
  numbered := orderly.numbered
  probes := by
    obtain ⟨added, grown⟩ := orderly.probes
    exact ⟨(address, probe) :: added, congrArg (List.cons (address, probe)) grown⟩
  known member found := List.mem_cons_of_mem _ (orderly.known member found)
  sought := orderly.sought

/-- What leaves the boundary alone and emits nothing about calls keeps a traffic in order. -/
theorem elsewhere (orderly : Orderly start traffic)
    (aside : world.boundary = traffic.world.boundary)
    (emits : world.sink.emissions = traffic.world.sink.emissions ++ emitted)
    (foreign : ∀ emission ∈ emitted, emission.event.callNumber? = none) :
    Orderly start ⟨world, traffic.calls, traffic.trace ++ emitted.map (Report.mk none)⟩ where
  sound := (orderly.steady.foreign world emitted).sound
  made := (orderly.steady.foreign world emitted).made
  foreign {report} isReport source := by
    rcases List.mem_append.mp isReport with before | isNew
    · exact orderly.foreign before source
    · obtain ⟨emission, isEmitted, rfl⟩ := List.mem_map.mp isNew
      exact foreign emission isEmitted
  written := by
    rw [emits, orderly.written, List.append_assoc, emissions_append, emissions]
  numbered := aside ▸ orderly.numbered
  probes := aside ▸ orderly.probes
  known := aside ▸ orderly.known
  sought := orderly.sought

/-- Whatever happens keeps a traffic in order, as long as there are fewer calls than numbers. -/
theorem leads (orderly : Orderly start traffic) (few : traffic.calls.length < UInt64.size)
    (leads : traffic.Leads next) : Orderly start next := by
  cases leads with
  | made address arguments => exact orderly.make address arguments
  | stepped present steps => exact orderly.step few present steps
  | attached address probe => exact orderly.attach address probe
  | elsewhere aside emits foreign => exact orderly.elsewhere aside emits foreign

end Orderly

theorem Leads.length_le {traffic next : Traffic} (leads : traffic.Leads next) :
    traffic.calls.length ≤ next.calls.length := by
  cases leads with
  | made =>
    rw [List.length_append]
    exact Nat.le_add_right _ _
  | stepped => exact Nat.le_of_eq List.length_set.symm
  | attached | elsewhere => exact Nat.le_refl _

/-- A traffic with fewer calls than numbers is in order. -/
theorem Reaches.orderly {world : World} {traffic : Traffic}
    (reaches : Reaches { world } traffic) (few : traffic.calls.length < UInt64.size) :
    Orderly world traffic := by
  induction reaches with
  | refl => exact .beginning world
  | tail _ leads inductionHypothesis =>
    have fewer := Nat.lt_of_le_of_lt leads.length_le few
    exact (inductionHypothesis fewer).leads fewer leads

end Traffic

/-! ### Nothing is mixed up -/

namespace Traffic

variable {start : World} {traffic : Traffic} {index : Nat} {call : NativeCall} {number : UInt64}

theorem Orderly.source_iff (orderly : Orderly start traffic)
    (present : traffic.calls[index]? = some call) (numbered : call.number? = some number)
    {report : Report} (isReport : report ∈ traffic.trace) :
    report.emission.event.callNumber? = some number ↔ report.source = some index := by
  have own {place : Nat} {other : NativeCall} (found : traffic.calls[place]? = some other)
      (source : report.source = some place) :
      report.emission.event.callNumber? = other.number? :=
    (orderly.sound found).callNumber? _
      (List.mem_map_of_mem (List.mem_filter.mpr ⟨isReport, decide_eq_true source⟩))
  refine ⟨fun about => ?_, fun source => (own present source).trans numbered⟩
  cases source : report.source with
  | none => cases (orderly.foreign isReport source).symm.trans about
  | some place =>
    have found := List.getElem?_eq_getElem (orderly.made isReport source)
    have same := (own found source).symm.trans about
    rw [orderly.numbered.apart found present same numbered]

/-- What is emitted under the number of a call is what this call emits. -/
theorem Orderly.emittedUnder_eq (orderly : Orderly start traffic)
    (present : traffic.calls[index]? = some call) (numbered : call.number? = some number) :
    traffic.emittedUnder number = traffic.emittedBy index := by
  rw [emittedUnder, emissions, List.filter_map, emittedBy]
  refine congrArg _ (List.filter_congr fun report isReport => ?_)
  exact decide_eq_decide.mpr (orderly.source_iff present numbered isReport)

theorem mem_emittedUnder {emission : Emission} :
    emission ∈ traffic.emittedUnder number ↔
      emission ∈ traffic.emissions ∧ emission.event.callNumber? = some number := by
  rw [emittedUnder, List.mem_filter, decide_eq_true_eq]

/-- Whatever is emitted about a call is emitted by a call, and this is the call with the number. -/
theorem Orderly.exists_call (orderly : Orderly start traffic) {emission : Emission}
    (member : emission ∈ traffic.emissions)
    (about : emission.event.callNumber? = some number) :
    ∃ (index : Nat) (call : NativeCall), traffic.calls[index]? = some call ∧
      call.number? = some number := by
  obtain ⟨report, isReport, rfl⟩ := List.mem_map.mp member
  cases source : report.source with
  | none => cases (orderly.foreign isReport source).symm.trans about
  | some place =>
    have found := List.getElem?_eq_getElem (orderly.made isReport source)
    have same := (orderly.sound found).callNumber? report.emission
      (List.mem_map_of_mem (List.mem_filter.mpr ⟨isReport, decide_eq_true source⟩))
    exact ⟨place, _, found, same.symm.trans about⟩

/-- A return in what has been emitted under a number is the report of the call with this number,
and just the entry of this call stands before it. -/
theorem Orderly.reported (orderly : Orderly start traffic) {before after : List Emission}
    {emitter : EmitterId} {value : Int64} {shown : Option String}
    (split : traffic.emissions = before ++ ⟨emitter, .callReturned number value shown⟩ :: after) :
    ∃ call ∈ traffic.calls, ∃ probe, call.probe = some probe ∧ call.number? = some number ∧
      call.answer = some value ∧ emitter = probe.emitter ∧
      shown = some (probe.decoded call.arguments) ∧
      before.filter (Emission.enters number) =
        [⟨probe.emitter, .callEntered number (probe.decoded call.arguments)⟩] ∧
      after.filter (Emission.enters number) = [] := by
  have member : ⟨emitter, .callReturned number value shown⟩ ∈ traffic.emissions := by
    rw [split]
    exact List.mem_append_right _ List.mem_cons_self
  obtain ⟨index, call, present, numbered⟩ := orderly.exists_call member rfl
  let about (emission : Emission) : Bool := emission.event.callNumber? = some number
  have under : traffic.emittedBy index =
      before.filter about ++ ⟨emitter, .callReturned number value shown⟩ :: after.filter about := by
    rw [← orderly.emittedUnder_eq present numbered, emittedUnder, split, List.filter_append]
    exact congrArg _ (List.filter_cons_of_pos (decide_eq_true rfl))
  obtain ⟨probe, found, -, answered, through, text, isBefore, isAfter⟩ :=
    (orderly.sound present).reported under
  refine ⟨call, List.mem_of_getElem? present, probe, found, numbered, answered, through, text,
    ?_, ?_⟩
  · rw [filter_enters, isBefore, probe.filter_enters_entry]
  · rw [filter_enters, isAfter, List.filter_nil]

/-- A call that has found a probe has shown what this probe shows when it has returned. -/
theorem Orderly.shown (orderly : Orderly start traffic) {probe : Boundary.Probe} {result : Int64}
    (isCall : call ∈ traffic.calls) (found : call.probe = some probe)
    (isReturned : call.stage = .returned result) :
    ∃ number, call.number? = some number ∧
      traffic.emittedUnder number =
        (probe.entry number call.arguments ++ probe.report number call.arguments result).map
          (Emission.mk probe.emitter) := by
  obtain ⟨index, present⟩ := List.mem_iff_getElem?.mp isCall
  obtain ⟨number, numbered, emitted⟩ := (orderly.sound present).emitted_eq found isReturned
  exact ⟨number, numbered, (orderly.emittedUnder_eq present numbered).trans emitted⟩

/-- Whether a call has been reported when it has returned is up to the probe that it has
found. -/
theorem reported_iff {probe : Boundary.Probe} {arguments : List Boundary.Argument}
    {result : Int64}
    (emitted : traffic.emittedUnder number =
      (probe.entry number arguments ++ probe.report number arguments result).map
        (Emission.mk probe.emitter)) :
    (∃ emitter value shown, ⟨emitter, .callReturned number value shown⟩ ∈ traffic.emissions) ↔
      ∀ pattern, probe.condition = some pattern →
        pattern.isMatch (probe.decoded arguments) = true := by
  rw [← probe.reports_iff]
  constructor
  · rintro ⟨emitter, value, shown, member⟩
    have under := mem_emittedUnder.mpr ⟨member, rfl⟩
    rw [emitted] at under
    obtain ⟨event, isShown, same⟩ := List.mem_map.mp under
    obtain ⟨-, rfl⟩ := Emission.mk.inj same
    rcases List.mem_append.mp isShown with entry | report
    · exact absurd entry (probe.returned_not_mem_entry number arguments)
    · unfold Boundary.Probe.report at report
      split at report
      · assumption
      · exact absurd report List.not_mem_nil
  · intro asks
    have under : ⟨probe.emitter, .callReturned number result (some (probe.decoded arguments))⟩ ∈
        traffic.emittedUnder number := by
      rw [emitted, Boundary.Probe.report, if_pos asks]
      exact List.mem_map_of_mem (List.mem_append_right _ (List.mem_singleton.mpr rfl))
    exact ⟨_, _, _, (mem_emittedUnder.mp under).1⟩

/-- That nothing is mixed up in a traffic that has begun in a world. -/
structure Attributed (start : World) (traffic : Traffic) : Prop where
  /-- No two calls have the same number. -/
  apart : ∀ {one two : Nat} {call other : NativeCall} {number : UInt64},
    traffic.calls[one]? = some call → traffic.calls[two]? = some other →
      call.number? = some number → other.number? = some number → one = two
  /-- A return that is reported is that of the call with its number: it tells what the callee of
  this call has returned and what the entry of this call has shown, it goes where this entry has
  gone, and there is no other entry with its number, neither before it nor after it. -/
  reports : ∀ {before after : List Emission} {emitter : EmitterId} {number : UInt64}
    {value : Int64} {shown : Option String},
    traffic.emissions = before ++ ⟨emitter, .callReturned number value shown⟩ :: after →
      ∃ call ∈ traffic.calls, ∃ probe, call.probe = some probe ∧ call.number? = some number ∧
        call.answer = some value ∧ emitter = probe.emitter ∧
        shown = some (probe.decoded call.arguments) ∧
        before.filter (Emission.enters number) =
          [⟨probe.emitter, .callEntered number (probe.decoded call.arguments)⟩] ∧
        after.filter (Emission.enters number) = []
  /-- What a call that has found a probe has shown under its number when it has returned is its
  entry and, if the probe asks for it, its return, all through the emitter of this probe. The
  probe asks for it unless it has a pattern that the shown text does not match. -/
  shows : ∀ {call : NativeCall} {probe : Boundary.Probe} {result : Int64},
    call ∈ traffic.calls → call.probe = some probe → call.stage = .returned result →
      ∃ number, call.number? = some number ∧
        traffic.emittedUnder number =
          (probe.entry number call.arguments ++ probe.report number call.arguments result).map
            (Emission.mk probe.emitter) ∧
        ((∃ emitter value shown,
            ⟨emitter, .callReturned number value shown⟩ ∈ traffic.emissions) ↔
          ∀ pattern, probe.condition = some pattern →
            pattern.isMatch (probe.decoded call.arguments) = true)
  /-- A call returns what its callee has returned. -/
  returns : ∀ {call : NativeCall} {result : Int64}, call ∈ traffic.calls →
    call.stage = .returned result → call.answer = some result
  /-- A call that has found no probe takes no number and emits nothing. -/
  silent : ∀ {index : Nat} {call : NativeCall}, traffic.calls[index]? = some call →
    call.probe = none → call.number? = none ∧ traffic.emittedBy index = []
  /-- The probe that a call has found was put at its address. -/
  known : ∀ {call : NativeCall} {probe : Boundary.Probe}, call ∈ traffic.calls →
    call.probe = some probe → (call.address, probe) ∈ traffic.world.boundary.probes
  /-- A call to an address at which no probe has been put finds none. -/
  unattached : ∀ {call : NativeCall}, call ∈ traffic.calls →
    traffic.world.boundary.isProbed call.address = false → call.probe = none
  /-- A call to an address that had a probe at the beginning finds one. -/
  attached : ∀ {call : NativeCall}, call ∈ traffic.calls → call.stage ≠ .called →
    start.boundary.isProbed call.address → call.probe.isSome
  /-- What is emitted in the traffic is what the world has got. -/
  written : traffic.world.sink.emissions = start.sink.emissions ++ traffic.emissions

end Traffic

/-- As long as there are fewer native calls than numbers, nothing is mixed up, whatever calls are
under way at once and whatever probes are put at their addresses meanwhile. -/
theorem native_calls_are_attributed {world : World} {traffic : Traffic}
    (reaches : Traffic.Reaches { world } traffic) (few : traffic.calls.length < UInt64.size) :
    traffic.Attributed world := by
  have orderly := reaches.orderly few
  refine
    { apart := orderly.numbered.apart
      reports := orderly.reported
      shows := fun isCall found isReturned => ?_
      returns := fun isCall isReturned => ?_
      silent := fun present unprobed => (orderly.sound present).unprobed unprobed
      known := orderly.known
      unattached := fun isCall free => ?_
      attached := orderly.sought
      written := orderly.written }
  · obtain ⟨number, numbered, emitted⟩ := orderly.shown isCall found isReturned
    exact ⟨number, numbered, emitted, Traffic.reported_iff emitted⟩
  · obtain ⟨index, present⟩ := List.mem_iff_getElem?.mp isCall
    exact (orderly.sound present).answered isReturned
  · refine Option.eq_none_iff_forall_ne_some.mpr fun probe found => ?_
    have probed := Boundary.isProbed_of_mem (orderly.known isCall found)
    exact Bool.false_ne_true (free.symm.trans probed)

/-- Two calls to one address. When the first one has been entered another probe is put at the
address, which the second one finds, and the first one returns before the second one. -/
theorem native_calls_are_attributed_replaced :
    ∃ traffic : Traffic, Traffic.Reaches { world := {} } traffic ∧
      traffic.calls.length < UInt64.size ∧
      traffic.emissions =
        [⟨1, .callEntered 0 "a"⟩, ⟨2, .callEntered 1 "<null>"⟩, ⟨2, .callFrames 1 nativeFrames⟩,
          ⟨1, .callReturned 0 5 (some "a")⟩, ⟨2, .callReturned 1 6 (some "<null>")⟩] ∧
      traffic.Attributed {} := by
  have step {traffic : Traffic} {call next : NativeCall} {emitted : List Emission} {world : World}
      (reaches : Traffic.Reaches { world := {} } traffic) (index : Nat)
      (present : traffic.calls[index]? = some call)
      (steps : call.Steps traffic.world next emitted world) :
      Traffic.Reaches { world := {} } ⟨world, traffic.calls.set index next,
        traffic.trace ++ emitted.map (Report.mk (some index))⟩ :=
    reaches.tail (.stepped present steps)
  have attached : Traffic.Reaches { world := {} } _ := .single (.attached 7 { emitter := 1 })
  have one := attached.tail (.made 7 [.bytes [97, 0]])
  have one := step one 0 rfl (.seek rfl rfl)
  have one := step one 0 rfl (.number rfl rfl rfl rfl)
  have one := step one 0 rfl (.enter rfl rfl)
  have one := step one 0 rfl (.start rfl)
  have replaced := one.tail (.attached 7 { emitter := 2, backtrace := true })
  have two := replaced.tail (.made 7 [.null])
  have two := step two 1 rfl (.seek rfl rfl)
  have two := step two 1 rfl (.number rfl rfl rfl rfl)
  have two := step two 1 rfl (.enter rfl rfl)
  have two := step two 1 rfl (.enter rfl rfl)
  have two := step two 1 rfl (.start rfl)
  have first := step two 0 rfl (.answer 5 rfl)
  have first := step first 0 rfl (.leave rfl rfl)
  have first := step first 0 rfl (.finish rfl rfl)
  have second := step first 1 rfl (.answer 6 rfl)
  have second := step second 1 rfl (.leave rfl rfl)
  have second := step second 1 rfl (.finish rfl rfl)
  exact ⟨_, second, by decide, rfl, native_calls_are_attributed second (by decide)⟩

end Intercept
