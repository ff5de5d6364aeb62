/-
This file looks at several boundaries in one process. Each has probes of its own and counts the
calls to probed addresses for itself, and what the calls of all of them emit may end up in one
trace. Whatever order things happen in, the calls of one boundary never notice those of another
one. So numbers tell the calls of one boundary apart, and returns belong to one entry each among
what these calls emit. But every boundary begins to count with the same number, and so numbers tell
all calls of the process apart exactly if at most one boundary has given any.
-/
import Intercept.Proofs.Attribution

namespace Intercept

/-! ### Many boundaries at once -/

/-- A boundary with the calls that cross it, in the order in which they were made. -/
structure Lane where
  boundary : Boundary := {}
  calls : List NativeCall := []

/-- An emission, and the native call that it comes from, if it comes from one: its lane, and its
place among the calls there. -/
structure Notice where
  origin : Option (Nat × Nat)
  emission : Emission

/-- What an emission is to a lane: a report, if it comes from a call of the lane. -/
def Notice.within (place : Nat) (notice : Notice) : Option Report :=
  match notice.origin with
  | some (lane, index) => if lane = place then some ⟨some index, notice.emission⟩ else none
  | none => none

/-- The boundaries of a process, with what has been emitted since it began. -/
structure Junction where
  lanes : List Lane := []
  trace : List Notice := []

namespace Junction

/-- Puts a lane in the place of another one. -/
def put (junction : Junction) (place : Nat) (lane : Lane) : Junction :=
  { junction with lanes := junction.lanes.set place lane }

/-- Adds emissions that come from somewhere. -/
def tell (junction : Junction) (origin : Option (Nat × Nat)) (emitted : List Emission) :
    Junction :=
  { junction with trace := junction.trace ++ emitted.map (Notice.mk origin) }

/-- That something happens in a process with many boundaries: another boundary is set up, a call is
made to one of them, a call takes a step at its own boundary, a probe is put at an address, or
something else is emitted. -/
inductive Leads (junction : Junction) : Junction → Prop where
  | opened : Leads junction { junction with lanes := junction.lanes ++ [{}] }
  | made {place : Nat} {lane : Lane} (present : junction.lanes[place]? = some lane)
      (address : UInt64) (arguments : List Boundary.Argument) :
      Leads junction
        (junction.put place { lane with calls := lane.calls ++ [{ address, arguments }] })
  | stepped {place index : Nat} {lane : Lane} {call next : NativeCall} {emitted : List Emission}
      {world : World} (present : junction.lanes[place]? = some lane)
      (isCall : lane.calls[index]? = some call)
      (steps : call.Steps { boundary := lane.boundary } next emitted world) :
      Leads junction
        ((junction.put place ⟨world.boundary, lane.calls.set index next⟩).tell
          (some (place, index)) emitted)
  | attached {place : Nat} {lane : Lane} (present : junction.lanes[place]? = some lane)
      (address : UInt64) (probe : Boundary.Probe) :
      Leads junction
        (junction.put place { lane with boundary := lane.boundary.putProbe address probe })
  | elsewhere {emitted : List Emission}
      (foreign : ∀ emission ∈ emitted, emission.event.callNumber? = none) :
      Leads junction (junction.tell none emitted)

/-- That a process comes to a junction, beginning without any boundary. -/
def Reached : Junction → Prop :=
  Relation.ReflTransGen Leads {}

/-! ### Single lanes -/

/-- The lane at a place; an empty one where there is none. -/
def lane (junction : Junction) (place : Nat) : Lane :=
  junction.lanes.getD place {}

theorem lane_of_present {junction : Junction} {place : Nat} {lane : Lane}
    (present : junction.lanes[place]? = some lane) : junction.lane place = lane := by
  rw [Junction.lane, List.getD_eq_getElem?_getD, present, Option.getD_some]

theorem lane_put_self {junction : Junction} {place : Nat} {old : Lane}
    (present : junction.lanes[place]? = some old) (lane : Lane) :
    (junction.put place lane).lane place = lane := by
  obtain ⟨within, -⟩ := List.getElem?_eq_some_iff.mp present
  rw [Junction.lane, put, List.getD_eq_getElem?_getD, List.getElem?_set_self within,
    Option.getD_some]

theorem lane_put_other (junction : Junction) {place other : Nat} (different : other ≠ place)
    (lane : Lane) : (junction.put place lane).lane other = junction.lane other := by
  rw [Junction.lane, put, List.getD_eq_getElem?_getD, List.getElem?_set_ne different.symm,
    ← List.getD_eq_getElem?_getD, Junction.lane]

theorem lane_opened (junction : Junction) (place : Nat) :
    ({ junction with lanes := junction.lanes ++ [{}] } : Junction).lane place =
      junction.lane place := by
  simp only [Junction.lane, List.getD_eq_getElem?_getD]
  rcases Nat.lt_or_ge place junction.lanes.length with before | beyond
  · rw [List.getElem?_append_left before]
  · rw [List.getElem?_append_right beyond, List.getElem?_eq_none beyond]
    cases place - junction.lanes.length <;> rfl

/-- The reports of a lane. -/
def reports (junction : Junction) (place : Nat) : List Report :=
  junction.trace.filterMap (Notice.within place)

theorem reports_tell_self (junction : Junction) (place index : Nat) (emitted : List Emission) :
    (junction.tell (some (place, index)) emitted).reports place =
      junction.reports place ++ emitted.map (Report.mk (some index)) := by
  have own : Notice.within place ∘ Notice.mk (some (place, index)) =
      some ∘ Report.mk (some index) := funext fun _ => if_pos rfl
  rw [reports, tell, List.filterMap_append, List.filterMap_map, own, List.filterMap_eq_map, reports]

theorem reports_tell_other (junction : Junction) {place : Nat} {origin : Option (Nat × Nat)}
    (other : ∀ index, origin ≠ some (place, index)) (emitted : List Emission) :
    (junction.tell origin emitted).reports place = junction.reports place := by
  rw [reports, tell, List.filterMap_append, List.filterMap_map]
  refine (congrArg _ (List.filterMap_eq_nil_iff.mpr fun emission _ => ?_)).trans
    (List.append_nil _)
  rcases origin with _ | ⟨lane, index⟩
  · rfl
  · exact if_neg fun same => other index (by rw [same])

@[simp]
theorem reports_put (junction : Junction) (place other : Nat) (lane : Lane) :
    (junction.put place lane).reports other = junction.reports other :=
  rfl

@[simp]
theorem lane_tell (junction : Junction) (origin : Option (Nat × Nat)) (emitted : List Emission)
    (place : Nat) : (junction.tell origin emitted).lane place = junction.lane place :=
  rfl

end Junction

/-- The traffic of a lane alone: its calls cross its boundary, and its reports are all that is
emitted. -/
def Lane.traffic (lane : Lane) (reports : List Report) : Traffic where
  world := { boundary := lane.boundary, sink := { emissions := reports.map Report.emission } }
  calls := lane.calls
  trace := reports

/-- The traffic of the lane at a place. -/
def Junction.traffic (junction : Junction) (place : Nat) : Traffic :=
  (junction.lane place).traffic (junction.reports place)

/-- A step of a call is told by the boundary. -/
theorem NativeCall.Steps.transport {call next : NativeCall} {world after other : World}
    {emitted : List Emission} (steps : call.Steps world next emitted after)
    (same : other.boundary = world.boundary) :
    call.Steps other next emitted
      { other with
        boundary := after.boundary
        sink := { other.sink with emissions := other.sink.emissions ++ emitted } } := by
  have boundary : Boundary.mk other.boundary.probes after.boundary.nextCall = after.boundary := by
    rw [same, ← steps.probes]
  rw [← boundary]
  exact steps.replay (congrArg Boundary.nextCall same) fun _ => by rw [same]

namespace Junction

variable {junction next : Junction}

theorem traffic_of_present {place : Nat} {lane : Lane}
    (present : junction.lanes[place]? = some lane) :
    junction.traffic place = lane.traffic (junction.reports place) := by
  rw [Junction.traffic, lane_of_present present]

theorem traffic_put_self {place : Nat} {old : Lane}
    (present : junction.lanes[place]? = some old) (lane : Lane) :
    (junction.put place lane).traffic place = lane.traffic (junction.reports place) := by
  rw [Junction.traffic, lane_put_self present, reports_put]

theorem traffic_put_other (junction : Junction) {place other : Nat} (different : other ≠ place)
    (lane : Lane) : (junction.put place lane).traffic other = junction.traffic other := by
  rw [Junction.traffic, lane_put_other _ different, reports_put, Junction.traffic]

theorem traffic_tell_other (junction : Junction) {place : Nat} {origin : Option (Nat × Nat)}
    (other : ∀ index, origin ≠ some (place, index)) (emitted : List Emission) :
    (junction.tell origin emitted).traffic place = junction.traffic place := by
  rw [Junction.traffic, lane_tell, reports_tell_other _ other, Junction.traffic]

/-- Whatever happens in a process happens in one lane at most, and there it happens as it would
alone. -/
theorem Leads.traffic (leads : junction.Leads next) (place : Nat) :
    next.traffic place = junction.traffic place ∨
      (junction.traffic place).Leads (next.traffic place) := by
  cases leads with
  | opened =>
    left
    rw [Junction.traffic, lane_opened]
    rfl
  | @made other lane present address arguments =>
    by_cases same : place = other
    · subst same
      rw [traffic_put_self present, traffic_of_present present]
      exact .inr (.made address arguments)
    · exact .inl (traffic_put_other _ same _)
  | @stepped other index lane call after emitted world present isCall steps =>
    by_cases same : place = other
    · subst same
      right
      have moves : (lane.traffic (junction.reports place)).Leads _ :=
        .stepped isCall (steps.transport rfl)
      have told : ((junction.reports place) ++ emitted.map (Report.mk (some index))).map
          Report.emission = (junction.reports place).map Report.emission ++ emitted :=
        Traffic.emissions_append {} [] _ _ _
      rw [traffic_of_present present, Junction.traffic, lane_tell, lane_put_self present,
        reports_tell_self, reports_put]
      unfold Lane.traffic at moves ⊢
      rw [told]
      exact moves
    · have foreign : ∀ own, some (other, index) ≠ some (place, own) :=
        fun _ equal => same (congrArg Prod.fst (Option.some.inj equal)).symm
      exact .inl ((traffic_tell_other _ foreign _).trans (traffic_put_other _ same _))
  | @attached other lane present address probe =>
    by_cases same : place = other
    · subst same
      rw [traffic_put_self present, traffic_of_present present]
      exact .inr (.attached address probe)
    · exact .inl (traffic_put_other _ same _)
  | elsewhere => exact .inl (traffic_tell_other _ (fun _ => (Option.some_ne_none _).symm) _)

theorem Reached.traffic (reached : junction.Reached) (place : Nat) :
    Traffic.Reaches { world := {} } (junction.traffic place) := by
  induction reached with
  | refl => exact .refl
  | tail _ leads inductionHypothesis =>
    rcases leads.traffic place with same | moves
    · rw [same]
      exact inductionHypothesis
    · exact inductionHypothesis.tail moves

/-- That there are fewer calls than numbers. -/
def Few (junction : Junction) : Prop :=
  ∀ lane ∈ junction.lanes, lane.calls.length < UInt64.size

theorem Few.length_lt (few : junction.Few) (place : Nat) :
    (junction.lane place).calls.length < UInt64.size := by
  cases present : junction.lanes[place]? with
  | none =>
    rw [Junction.lane, List.getD_eq_getElem?_getD, present]
    exact Nat.zero_lt_succ _
  | some lane =>
    rw [lane_of_present present]
    exact few lane (List.mem_of_getElem? present)

/-- Every lane is in order, whatever happens in the others. -/
theorem Reached.orderly (reached : junction.Reached) (few : junction.Few) (place : Nat) :
    Traffic.Orderly {} (junction.traffic place) :=
  (reached.traffic place).orderly (few.length_lt place)

end Junction

/-! ### The first number -/

/-- That no call has a number as long as the first one has not been given. -/
def Traffic.Begun (first : UInt64) (traffic : Traffic) : Prop :=
  (traffic.world.boundary.nextCall = first ∧ ∀ call ∈ traffic.calls, call.number? = none) ∨
    ∃ call ∈ traffic.calls, call.number? = some first

/-- A call that takes a step stands among the others all the same. -/
theorem mem_set_of_mem {calls : List NativeCall} {index : Nat} {call other : NativeCall}
    (present : calls[index]? = some call) (member : other ∈ calls) (next : NativeCall) :
    other = call ∨ other ∈ calls.set index next := by
  obtain ⟨place, found⟩ := List.mem_iff_getElem?.mp member
  by_cases same : place = index
  · subst same
    exact .inl (Option.some.inj (found.symm.trans present))
  · rw [← List.getElem?_set_ne (Ne.symm same)] at found
    exact .inr (List.mem_of_getElem? found)

theorem Traffic.Begun.of_leads {first : UInt64} {start : World} {traffic next : Traffic}
    (leads : traffic.Leads next) (orderly : Traffic.Orderly start traffic)
    (begun : traffic.Begun first) : next.Begun first := by
  cases leads with
  | made address arguments =>
    refine begun.imp (fun ⟨isNext, free⟩ => ⟨isNext, ?_⟩) fun ⟨call, isCall, taken⟩ =>
      ⟨call, List.mem_append_left _ isCall, taken⟩
    exact List.forall_mem_append.mpr ⟨free, List.forall_mem_singleton.mpr rfl⟩
  | @stepped index call stepped _ _ present steps =>
    have within := (List.getElem?_eq_some_iff.mp present).1
    rcases steps.number? (orderly.sound present) with ⟨same, sameNext⟩ | ⟨free, taken, -⟩
    · refine begun.imp (fun ⟨isNext, free⟩ => ⟨sameNext.trans isNext, fun other isOther => ?_⟩)
        fun ⟨other, isOther, taken⟩ => ?_
      · rcases List.mem_or_eq_of_mem_set isOther with before | rfl
        · exact free other before
        · exact same.trans (free call (List.mem_of_getElem? present))
      · rcases mem_set_of_mem present isOther stepped with rfl | remains
        · exact ⟨stepped, List.mem_set within _, same.trans taken⟩
        · exact ⟨other, remains, taken⟩
    · right
      rcases begun with ⟨isNext, -⟩ | ⟨other, isOther, otherTaken⟩
      · exact ⟨stepped, List.mem_set within _, isNext ▸ taken⟩
      · rcases mem_set_of_mem present isOther stepped with rfl | remains
        · cases free.symm.trans otherTaken
        · exact ⟨other, remains, otherTaken⟩
  | attached => exact begun
  | elsewhere aside =>
    unfold Traffic.Begun
    rw [aside]
    exact begun

theorem Traffic.Reaches.begun {world : World} {traffic : Traffic}
    (reaches : Traffic.Reaches { world } traffic) (few : traffic.calls.length < UInt64.size) :
    traffic.Begun world.boundary.nextCall := by
  induction reaches with
  | refl => exact .inl ⟨rfl, fun _ isCall => nomatch isCall⟩
  | tail reaches leads inductionHypothesis =>
    have fewer := Nat.lt_of_le_of_lt leads.length_le few
    exact .of_leads leads (Traffic.Reaches.orderly reaches fewer) (inductionHypothesis fewer)

/-! ### Numbers across lanes -/

/-- That a lane has given a number. -/
def Lane.Numbers (lane : Lane) : Prop :=
  ∃ call ∈ lane.calls, call.number?.isSome

namespace Junction

variable {junction : Junction}

/-- What has been emitted. -/
def emissions (junction : Junction) : List Emission :=
  junction.trace.map Notice.emission

/-- That no two calls have the same number, whatever lanes they are in. -/
def Apart (junction : Junction) : Prop :=
  ∀ {place other one two : Nat} {call otherCall : NativeCall} {number : UInt64},
    (junction.lane place).calls[one]? = some call →
      (junction.lane other).calls[two]? = some otherCall →
        call.number? = some number → otherCall.number? = some number →
          place = other ∧ one = two

/-- That at most one lane has given numbers. -/
def Single (junction : Junction) : Prop :=
  ∀ place other, (junction.lane place).Numbers → (junction.lane other).Numbers → place = other

/-- Every lane that has given a number has given the first one. -/
theorem Reached.first_taken (reached : junction.Reached) (few : junction.Few) {place : Nat}
    (numbers : (junction.lane place).Numbers) :
    ∃ call ∈ (junction.lane place).calls, call.number? = some 0 := by
  rcases (reached.traffic place).begun (few.length_lt place) with ⟨-, free⟩ | taken
  · obtain ⟨call, isCall, isNumbered⟩ := numbers
    have none := free call isCall
    rw [none] at isNumbered
    cases isNumbered
  · exact taken

/-- Numbers tell all calls of a process apart exactly if at most one lane has given any. -/
theorem Reached.apart_iff (reached : junction.Reached) (few : junction.Few) :
    junction.Apart ↔ junction.Single := by
  constructor
  · intro apart place other numbers otherNumbers
    obtain ⟨call, isCall, taken⟩ := reached.first_taken few numbers
    obtain ⟨otherCall, isOther, otherTaken⟩ := reached.first_taken few otherNumbers
    obtain ⟨one, found⟩ := List.mem_iff_getElem?.mp isCall
    obtain ⟨two, otherFound⟩ := List.mem_iff_getElem?.mp isOther
    exact (apart found otherFound taken otherTaken).1
  · intro single place other one two call otherCall number found otherFound taken otherTaken
    have numbers {place index : Nat} {call : NativeCall}
        (found : (junction.lane place).calls[index]? = some call)
        (taken : call.number? = some number) : (junction.lane place).Numbers :=
      ⟨call, List.mem_of_getElem? found, Option.isSome_of_eq_some taken⟩
    obtain rfl := single _ _ (numbers found taken) (numbers otherFound otherTaken)
    exact ⟨rfl, (reached.orderly few place).numbered.apart found otherFound taken otherTaken⟩

/-! ### Returns in the trace of all lanes -/

theorem Reached.foreign (reached : junction.Reached) :
    ∀ notice ∈ junction.trace, notice.origin = none →
      notice.emission.event.callNumber? = none := by
  induction reached with
  | refl => exact fun _ isNotice => nomatch isNotice
  | tail _ leads inductionHypothesis =>
    cases leads with
    | opened | made | attached => exact inductionHypothesis
    | stepped =>
      refine List.forall_mem_append.mpr ⟨inductionHypothesis, fun notice isNotice isForeign => ?_⟩
      obtain ⟨_, -, rfl⟩ := List.mem_map.mp isNotice
      cases isForeign
    | elsewhere foreign =>
      refine List.forall_mem_append.mpr ⟨inductionHypothesis, fun notice isNotice _ => ?_⟩
      obtain ⟨emission, isEmission, rfl⟩ := List.mem_map.mp isNotice
      exact foreign emission isEmission

/-- What is emitted about a call comes from a lane that has given the number of the call. -/
theorem Reached.exists_lane (reached : junction.Reached) (few : junction.Few) {notice : Notice}
    (isNotice : notice ∈ junction.trace) {number : UInt64}
    (about : notice.emission.event.callNumber? = some number) :
    ∃ place index, notice.origin = some (place, index) ∧ (junction.lane place).Numbers := by
  obtain ⟨_ | ⟨place, index⟩, emission⟩ := notice
  · cases (reached.foreign _ isNotice rfl).symm.trans about
  · have isReport : emission ∈ (junction.traffic place).emissions :=
      List.mem_map.mpr ⟨⟨some index, emission⟩,
        List.mem_filterMap.mpr ⟨_, isNotice, if_pos rfl⟩, rfl⟩
    obtain ⟨_, call, found, taken⟩ := (reached.orderly few place).exists_call isReport about
    exact ⟨place, index, rfl, call, List.mem_of_getElem? found, Option.isSome_of_eq_some taken⟩

end Junction

theorem Notice.emission_within {place : Nat} {notice : Notice} {report : Report}
    (within : notice.within place = some report) : report.emission = notice.emission := by
  unfold Notice.within at within
  split at within
  · obtain ⟨-, same⟩ := Option.ite_none_right_eq_some.mp within
    cases same
    rfl
  · cases within

/-- Where everything about a number comes from one lane, the entries with this number are those
that the lane reports. -/
theorem filter_enters_within {number : UInt64} {place : Nat} {notices : List Notice}
    (single : ∀ notice ∈ notices, notice.emission.event.callNumber? = some number →
      ∃ index, notice.origin = some (place, index)) :
    (notices.map Notice.emission).filter (Emission.enters number) =
      ((notices.filterMap (Notice.within place)).map Report.emission).filter
        (Emission.enters number) := by
  induction notices with
  | nil => rfl
  | cons notice rest inductionHypothesis =>
    have others := inductionHypothesis fun other isOther =>
      single other (List.mem_cons_of_mem _ isOther)
    rw [List.map_cons, List.filter_cons, List.filterMap_cons, others]
    cases enters : notice.emission.enters number with
    | true =>
      obtain ⟨index, isOrigin⟩ := single notice List.mem_cons_self
        (Emission.callNumber?_of_enters enters)
      have reported : notice.within place = some ⟨some index, notice.emission⟩ := by
        rw [Notice.within, isOrigin]
        exact if_pos rfl
      rw [reported, if_pos rfl]
      exact (List.filter_cons_of_pos enters).symm
    | false =>
      rw [if_neg Bool.false_ne_true]
      cases reported : notice.within place with
      | none => rfl
      | some report =>
        rw [← Notice.emission_within reported, ← Bool.not_eq_true] at enters
        exact (List.filter_cons_of_neg enters).symm

namespace Junction

variable {junction : Junction} {before after : List Emission} {emitter : EmitterId}
  {number : UInt64} {value : Int64} {shown : Option String}

/-- A return that a lane reports is that of its call with the number, after the entry of this
call. -/
theorem Reached.reported (reached : junction.Reached) (few : junction.Few) {place : Nat}
    (split : (junction.reports place).map Report.emission =
      before ++ ⟨emitter, .callReturned number value shown⟩ :: after) :
    ∃ call ∈ (junction.lane place).calls, ∃ text, call.number? = some number ∧
      call.answer = some value ∧ shown = some text ∧
      before.filter (Emission.enters number) = [⟨emitter, .callEntered number text⟩] ∧
      after.filter (Emission.enters number) = [] := by
  obtain ⟨call, isCall, probe, -, taken, answered, rfl, isText, entered, alone⟩ :=
    (reached.orderly few place).reported split
  exact ⟨call, isCall, _, taken, answered, isText, entered, alone⟩

/-- Where one lane has given all numbers, a return in the trace of all lanes has just one entry. -/
theorem Reached.shared (reached : junction.Reached) (few : junction.Few)
    (single : junction.Single)
    (split : junction.emissions =
      before ++ ⟨emitter, .callReturned number value shown⟩ :: after) :
    ∃ text, shown = some text ∧
      before.filter (Emission.enters number) = [⟨emitter, .callEntered number text⟩] ∧
      after.filter (Emission.enters number) = [] := by
  obtain ⟨earlier, rest, isTrace, rfl, isRest⟩ := List.map_eq_append_iff.mp split
  obtain ⟨notice, later, rfl, isReturn, rfl⟩ := List.map_eq_cons_iff.mp isRest
  have isNotice : notice ∈ junction.trace :=
    isTrace ▸ List.mem_append_right _ List.mem_cons_self
  have about : notice.emission.event.callNumber? = some number := by
    rw [isReturn]
    rfl
  obtain ⟨place, index, isOrigin, numbers⟩ := reached.exists_lane few isNotice about
  -- Everything about the number comes from the lane that the return comes from.
  have fromLane : ∀ other ∈ junction.trace, other.emission.event.callNumber? = some number →
      ∃ index, other.origin = some (place, index) := by
    intro other isOther isAbout
    obtain ⟨_, index, isOther, otherNumbers⟩ := reached.exists_lane few isOther isAbout
    exact ⟨index, single _ _ numbers otherNumbers ▸ isOther⟩
  rw [isTrace] at fromLane
  obtain ⟨fromEarlier, fromRest⟩ := List.forall_mem_append.mp fromLane
  have fromLater := (List.forall_mem_cons.mp fromRest).2
  have reported : notice.within place = some ⟨some index, notice.emission⟩ := by
    rw [Notice.within, isOrigin]
    exact if_pos rfl
  have laneSplit : (junction.reports place).map Report.emission =
      (earlier.filterMap (Notice.within place)).map Report.emission ++
        ⟨emitter, .callReturned number value shown⟩ ::
          (later.filterMap (Notice.within place)).map Report.emission := by
    rw [reports, isTrace, List.filterMap_append, List.filterMap_cons, reported,
      List.map_append, List.map_cons, isReturn]
  obtain ⟨-, -, text, -, -, isText, entered, alone⟩ := reached.reported few laneSplit
  exact ⟨text, isText, (filter_enters_within fromEarlier).trans entered,
    (filter_enters_within fromLater).trans alone⟩

/-- What numbers tell in a process with many boundaries. -/
structure Identified (junction : Junction) : Prop where
  /-- No two calls of one lane have the same number. -/
  apart : ∀ {place one two : Nat} {call other : NativeCall} {number : UInt64},
    (junction.lane place).calls[one]? = some call →
      (junction.lane place).calls[two]? = some other →
        call.number? = some number → other.number? = some number → one = two
  /-- A return that a lane reports is that of its call with the number, and there is just one entry
  with this number among what the lane reports: the entry of this call, which comes before. -/
  reports : ∀ {place : Nat} {before after : List Emission} {emitter : EmitterId}
    {number : UInt64} {value : Int64} {shown : Option String},
    (junction.reports place).map Report.emission =
        before ++ ⟨emitter, .callReturned number value shown⟩ :: after →
      ∃ call ∈ (junction.lane place).calls, ∃ text, call.number? = some number ∧
        call.answer = some value ∧ shown = some text ∧
        before.filter (Emission.enters number) = [⟨emitter, .callEntered number text⟩] ∧
        after.filter (Emission.enters number) = []
  /-- No two calls of the process have the same number exactly if at most one lane has given
  any. -/
  unique : junction.Apart ↔ junction.Single
  /-- If so, there is just one entry for every return in the trace of all lanes. -/
  shared : junction.Apart → ∀ {before after : List Emission} {emitter : EmitterId}
    {number : UInt64} {value : Int64} {shown : Option String},
    junction.emissions = before ++ ⟨emitter, .callReturned number value shown⟩ :: after →
      ∃ text, shown = some text ∧
        before.filter (Emission.enters number) = [⟨emitter, .callEntered number text⟩] ∧
        after.filter (Emission.enters number) = []

end Junction

/-- As long as there are fewer calls than numbers, numbers identify the calls of one lane, and the
calls of the whole process exactly if at most one lane has given any. -/
theorem numbers_identify_calls_of_one_lane {junction : Junction} (reached : junction.Reached)
    (few : junction.Few) : junction.Identified where
  apart := (reached.orderly few _).numbered.apart
  reports := reached.reported few
  unique := reached.apart_iff few
  shared apart := reached.shared few ((reached.apart_iff few).mp apart)

namespace Junction.Reached

variable {junction : Junction} (reached : junction.Reached) (place : Nat) {lane : Lane}
  (present : junction.lanes[place]? = some lane)

include reached present

theorem attach (address : UInt64) (probe : Boundary.Probe) :
    Reached (junction.put place { lane with boundary := lane.boundary.putProbe address probe }) :=
  reached.tail (.attached present address probe)

theorem make (address : UInt64) (arguments : List Boundary.Argument) :
    Reached (junction.put place { lane with calls := lane.calls ++ [{ address, arguments }] }) :=
  reached.tail (.made present address arguments)

theorem step (index : Nat) {call next : NativeCall} {emitted : List Emission} {world : World}
    (isCall : lane.calls[index]? = some call)
    (steps : call.Steps { boundary := lane.boundary } next emitted world) :
    Reached ((junction.put place ⟨world.boundary, lane.calls.set index next⟩).tell
      (some (place, index)) emitted) :=
  reached.tail (.stepped present isCall steps)

end Junction.Reached

/-- Two boundaries, with a probe at the first one and a call to it that is under way. -/
def halfway : Junction where
  lanes :=
    [{ boundary := { probes := [(7, {})], nextCall := 1 }
       calls := [⟨7, [.bytes [97, 0]], .running, some {}, some ⟨0, true, some "a"⟩, none⟩] },
      {}]
  trace := [⟨some (0, 0), ⟨0, .callEntered 0 "a"⟩⟩]

theorem halfway_reached : halfway.Reached := by
  have opened : Junction.Reached _ := (Relation.ReflTransGen.single .opened).tail .opened
  have made := (opened.attach 0 rfl 7 {}).make 0 rfl 7 [.bytes [97, 0]]
  have sought := made.step 0 rfl 0 rfl (.seek rfl rfl)
  have numbered := sought.step 0 rfl 0 rfl (.number rfl rfl rfl rfl)
  have entered := numbered.step 0 rfl 0 rfl (.enter rfl rfl)
  exact entered.step 0 rfl 0 rfl (.start rfl)

/-- A call to the second boundary, which has a probe as well, is made while the one to the first
boundary is under way. Both have the number zero, and both returns come after two entries with it. -/
theorem first_numbers_coincide :
    ∃ junction : Junction, junction.Reached ∧ junction.Few ∧ ¬ junction.Apart ∧
      junction.emissions =
        [⟨0, .callEntered 0 "a"⟩, ⟨0, .callEntered 0 "b"⟩, ⟨0, .callReturned 0 6 (some "b")⟩,
          ⟨0, .callReturned 0 5 (some "a")⟩] := by
  have made := (halfway_reached.attach 1 rfl 7 {}).make 1 rfl 7 [.bytes [98, 0]]
  have sought := made.step 1 rfl 0 rfl (.seek rfl rfl)
  have numbered := sought.step 1 rfl 0 rfl (.number rfl rfl rfl rfl)
  have entered := numbered.step 1 rfl 0 rfl (.enter rfl rfl)
  have running := entered.step 1 rfl 0 rfl (.start rfl)
  have inner := (running.step 1 rfl 0 rfl (.answer 6 rfl)).step 1 rfl 0 rfl (.leave rfl rfl)
  have outer := (inner.step 0 rfl 0 rfl (.answer 5 rfl)).step 0 rfl 0 rfl (.leave rfl rfl)
  refine ⟨_, outer, List.forall_mem_cons.mpr ⟨by decide, List.forall_mem_singleton.mpr (by decide)⟩,
    fun apart => ?_, rfl⟩
  have coincide : (0 : Nat) = 1 ∧ (0 : Nat) = 0 := apart rfl rfl rfl rfl
  exact Nat.zero_ne_one coincide.1

/-- The same process after a call to the second boundary, which has no probe, and a second call to
the first one have been made. -/
def bypassed : Junction where
  lanes :=
    [{ boundary := { probes := [(7, {})], nextCall := 2 }
       calls :=
        [⟨7, [.bytes [97, 0]], .leaving [], some {}, some ⟨0, true, some "a"⟩, some 5⟩,
          ⟨7, [.bytes [98, 0]], .entering [], some {}, some ⟨1, true, some "b"⟩, none⟩] },
      { calls := [⟨7, [.null], .running, none, none, none⟩] }]
  trace :=
    [⟨some (0, 0), ⟨0, .callEntered 0 "a"⟩⟩, ⟨some (0, 1), ⟨0, .callEntered 1 "b"⟩⟩,
      ⟨some (0, 0), ⟨0, .callReturned 0 5 (some "a")⟩⟩]

theorem bypassed_reached : bypassed.Reached := by
  have passing := (halfway_reached.make 1 rfl 7 [.null]).step 1 rfl 0 rfl (.pass rfl rfl)
  have sought := (passing.make 0 rfl 7 [.bytes [98, 0]]).step 0 rfl 1 rfl (.seek rfl rfl)
  have numbered := sought.step 0 rfl 1 rfl (.number rfl rfl rfl rfl)
  have entered := numbered.step 0 rfl 1 rfl (.enter rfl rfl)
  have answered := entered.step 0 rfl 0 rfl (.answer 5 rfl)
  exact answered.step 0 rfl 0 rfl (.leave rfl rfl)

/-- Only the first boundary has given numbers, and so they tell all calls apart. -/
theorem numbers_identify_calls_of_one_lane_bypassed :
    bypassed.Reached ∧ bypassed.Few ∧ bypassed.Identified ∧ bypassed.Apart := by
  have few : bypassed.Few :=
    List.forall_mem_cons.mpr ⟨by decide, List.forall_mem_singleton.mpr (by decide)⟩
  have identified := numbers_identify_calls_of_one_lane bypassed_reached few
  have first : ∀ place, (bypassed.lane place).Numbers → place = 0 := by
    rintro (_ | _ | place) ⟨call, isCall, isNumbered⟩
    · rfl
    · rw [List.mem_singleton.mp isCall] at isNumbered
      cases isNumbered
    · cases isCall
  exact ⟨bypassed_reached, few, identified, identified.unique.mpr fun place other numbers
    otherNumbers => (first place numbers).trans (first other otherNumbers).symm⟩

end Intercept
