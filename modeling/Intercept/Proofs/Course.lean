/-
This file follows a call that a tracer traces through its strand: rewriting the arguments,
opening, what the declared body does, settling, closing, and popping the frame. As long as the
call reaches its overload only once, whatever else the declared body does tells nothing of this
overload, so the strand tells the entry and the closing event of the one tracer, in this order,
and nothing else of it. The world may change between any two steps: what the strand has captured
decides.
-/
import Intercept.Proofs.Undisturbed

namespace Intercept

/-! ### What is known of the calls of an overload -/

/-- The overload that the call at a site has reached, in its runtime. -/
def Site.place (site : Site) : RuntimeId × OverloadRef :=
  (site.runtime, site.reference)

/-- The event of a tracer for a call of an overload. -/
def Telling.trace? (place : RuntimeId × OverloadRef) : Telling → Option (Tracer × Event)
  | .traced site tracer event => if site.place = place then some (tracer, event) else none
  | .probed _ _ => none

/-- The events of tracers for calls of an overload, in order. -/
def tracesOf (place : RuntimeId × OverloadRef) (tellings : List Telling) :
    List (Tracer × Event) :=
  tellings.filterMap (Telling.trace? place)

/-- What has been told. -/
def News.telling? : News → Option Telling
  | .told telling => some telling
  | .reached _ _ => none

/-- An overload as a call has reached it. -/
def News.reached? (place : RuntimeId × OverloadRef) : News → Option Overload
  | .reached site overload => if site.place = place then some overload else none
  | .told _ => none

/-- An overload as calls have reached it, call by call. -/
def reachedIn (place : RuntimeId × OverloadRef) (news : List News) : List Overload :=
  news.filterMap (News.reached? place)

/-- The events that tracers have told of calls of an overload, in order. -/
def tracedIn (place : RuntimeId × OverloadRef) (news : List News) : List (Tracer × Event) :=
  tracesOf place (news.filterMap News.telling?)

section Places

variable {place : RuntimeId × OverloadRef} {site : Site}

theorem tracesOf_self (site : Site) (tracer : Tracer) (events : List Event) :
    tracesOf site.place (events.map (.traced site tracer)) = events.map (Prod.mk tracer) := by
  rw [tracesOf, List.filterMap_map, ← List.filterMap_eq_map]
  exact List.filterMap_congr fun event _ => if_pos rfl

theorem tracesOf_other (elsewhere : site.place ≠ place) (tracer : Tracer) (events : List Event) :
    tracesOf place (events.map (.traced site tracer)) = [] := by
  refine List.filterMap_eq_nil_iff.mpr fun telling member => ?_
  obtain ⟨event, -, rfl⟩ := List.mem_map.mp member
  exact if_neg elsewhere

theorem tracesOf_probed (place : RuntimeId × OverloadRef) (emitter : EmitterId)
    (events : List Event) : tracesOf place (events.map (.probed emitter)) = [] := by
  refine List.filterMap_eq_nil_iff.mpr fun telling member => ?_
  obtain ⟨event, -, rfl⟩ := List.mem_map.mp member
  rfl

theorem reachedIn_self (site : Site) (overload : Overload) :
    reachedIn site.place [.reached site overload] = [overload] :=
  List.filterMap_cons_some (if_pos rfl)

theorem reachedIn_append (place : RuntimeId × OverloadRef) (first second : List News) :
    reachedIn place (first ++ second) = reachedIn place first ++ reachedIn place second :=
  List.filterMap_append ..

theorem tracedIn_append (place : RuntimeId × OverloadRef) (first second : List News) :
    tracedIn place (first ++ second) = tracedIn place first ++ tracedIn place second := by
  rw [tracedIn, List.filterMap_append]
  exact List.filterMap_append ..

/-- An event that is told is no longer to be told. -/
theorem tracedIn_told (place : RuntimeId × OverloadRef) (telling : Telling)
    (outbox : List Telling) :
    tracedIn place [.told telling] ++ tracesOf place outbox = tracesOf place (telling :: outbox) :=
  (List.filterMap_append (f := Telling.trace? place) (l := [telling])).symm

end Places

/-! ### Strands over other strands -/

/-- The strand with more to be done after it. -/
def Strand.above (strand : Strand) (bottom : List Pending) : Strand :=
  { strand with pending := strand.pending ++ bottom }

/-- What is to be done after a strand is not looked at before the strand has come to its end. -/
theorem Strand.Steps.framed {inner next : Strand} {bottom : List Pending} {world after : World}
    {news : List News} (steps : (inner.above bottom).Steps world news next after) :
    (∃ later : Strand, next = later.above bottom ∧ inner.Steps world news later after) ∨
      ∃ outcome thread, inner = ⟨.deliver outcome, [], thread, []⟩ := by
  obtain ⟨focus, pending, thread, outbox⟩ := inner
  unfold above at steps
  generalize stacked : pending ++ bottom = all at steps
  cases steps with
  | tell | finish | frames | hook | install | define | dispatched | refused =>
    subst stacked
    exact .inl ⟨⟨_, pending, _, _⟩, rfl, by constructor <;> assumption⟩
  | call | spawn | unprobed | probed | plain =>
    subst stacked
    exact .inl ⟨⟨_, _ :: pending, _, _⟩, rfl, by constructor <;> assumption⟩
  | straight force busy =>
    subst stacked
    exact .inl ⟨⟨_, _ :: pending, _, _⟩, rfl, .straight force busy⟩
  | rewrite force idle =>
    subst stacked
    exact .inl ⟨⟨_, _ :: _ :: pending, _, _⟩, rfl, .rewrite force idle⟩
  -- What is done with an outcome is the strand's own, unless it has come to its end.
  | leave | answer | join | cross | close =>
    rcases List.append_eq_cons_iff.mp stacked with ⟨rfl, -⟩ | ⟨rest, rfl, rfl⟩
    · exact .inr ⟨_, _, rfl⟩
    · exact .inl ⟨⟨_, rest, _, _⟩, rfl, by constructor <;> assumption⟩
  | forward | settle =>
    rcases List.append_eq_cons_iff.mp stacked with ⟨rfl, -⟩ | ⟨rest, rfl, rfl⟩
    · exact .inr ⟨_, _, rfl⟩
    · exact .inl ⟨⟨_, _ :: rest, _, _⟩, rfl, by constructor⟩

/-! ### Strands beside an overload -/

section Beside

variable (place : RuntimeId × OverloadRef)

/-- That what is to be done is not part of a traced call of an overload. -/
def Pending.Beside : Pending → Prop
  | .forward site _ | .settle site _ | .close site _ _ => site.place ≠ place
  | _ => True

/-- That what is done next is no call of an overload. -/
def Focus.Beside : Focus → Prop
  | .perform runtime (.call overload _ _) => (runtime, overload.reference) ≠ place
  | _ => True

/-- That a strand is in no call of an overload. -/
structure Strand.Beside (strand : Strand) : Prop where
  focus : strand.focus.Beside place
  pending : ∀ pending ∈ strand.pending, pending.Beside place

end Beside

/-- A strand that is in no call of an overload, and reaches none, tells nothing more of this
overload than what it had to tell already. -/
theorem Strand.Steps.beside {place : RuntimeId × OverloadRef} {strand next : Strand}
    {world after : World} {news : List News} (steps : strand.Steps world news next after)
    (beside : strand.Beside place) (none : reachedIn place news = []) :
    next.Beside place ∧
      tracedIn place news ++ tracesOf place next.outbox = tracesOf place strand.outbox := by
  obtain ⟨focus, pending⟩ := beside
  cases steps with
  | tell => exact ⟨⟨focus, pending⟩, tracedIn_told ..⟩
  | finish | frames | hook | install | define | refused => exact ⟨⟨trivial, pending⟩, rfl⟩
  | call | spawn | unprobed | plain | straight =>
    exact ⟨⟨trivial, List.forall_mem_cons.mpr ⟨trivial, pending⟩⟩, rfl⟩
  | probed =>
    exact ⟨⟨trivial, List.forall_mem_cons.mpr ⟨trivial, pending⟩⟩, tracesOf_probed ..⟩
  | @dispatched runtime _ receiver arguments overload =>
    refine ⟨⟨fun same => ?_, pending⟩, rfl⟩
    subst same
    have reached := reachedIn_self ⟨runtime, overload.reference, receiver, arguments⟩ overload
    exact List.cons_ne_nil _ _ (reached.symm.trans none)
  | rewrite =>
    exact ⟨⟨trivial, List.forall_mem_cons.mpr
      ⟨focus, List.forall_mem_cons.mpr ⟨trivial, pending⟩⟩⟩, rfl⟩
  | forward =>
    obtain ⟨elsewhere, rest⟩ := List.forall_mem_cons.mp pending
    exact ⟨⟨trivial, List.forall_mem_cons.mpr ⟨elsewhere, rest⟩⟩, tracesOf_other elsewhere ..⟩
  | settle =>
    obtain ⟨elsewhere, rest⟩ := List.forall_mem_cons.mp pending
    exact ⟨⟨trivial, List.forall_mem_cons.mpr ⟨elsewhere, rest⟩⟩, rfl⟩
  | close =>
    obtain ⟨elsewhere, rest⟩ := List.forall_mem_cons.mp pending
    exact ⟨⟨trivial, rest⟩, tracesOf_other elsewhere _ [_]⟩
  | leave | answer | join => exact ⟨⟨trivial, (List.forall_mem_cons.mp pending).2⟩, rfl⟩
  | @cross _ probed =>
    refine ⟨⟨trivial, (List.forall_mem_cons.mp pending).2⟩, ?_⟩
    cases probed with
    | none => rfl
    | some => exact tracesOf_probed ..

/-! ### The course of a traced call -/

namespace Tracer

/-- What a tracer that only traces tells at the entry of the call at a site. -/
def entry (tracer : Tracer) (site : Site) : List Event :=
  tracer.entryEvents site.arguments site.arguments false [site.reference.key]

/-- What a tracer that only traces tells when the declared body has ended. -/
def ending (tracer : Tracer) : Outcome → Event
  | .returned value => .left tracer.path value.render none
  | .raised fault => .faulted tracer.path fault.render

theorem ending_eq {tracer : Tracer} (only : tracer.hook.OnlyTraces) (arguments : List Value)
    (frames : List String) (outcome delivery : Outcome) :
    (⟨tracer, arguments, frames, outcome, delivery⟩ : Passage).closing = tracer.ending outcome := by
  cases outcome with
  | returned value =>
    rw [Passage.closing, only.result]
    rfl
  | raised fault => rfl

theorem tracesOf_opens {tracer : Tracer} (only : tracer.hook.OnlyTraces) (site : Site) :
    tracesOf site.place (tracer.opens site site.arguments [site.reference.key]) =
      (tracer.entry site).map (Prod.mk tracer) := by
  rw [opens, only.arguments]
  exact tracesOf_self ..

end Tracer

/-- The phases of a call at a site, made on a thread of its own, from the moment at which it has
read that a tracer is over its overload: what the strand is, and what it has told of calls of
this overload. -/
inductive Course (site : Site) (tracer : Tracer) : Strand → List (Tracer × Event) → Prop where
  | read {overload : Overload} (isReference : overload.reference = site.reference)
      (force : overload.bodyInForce = .traced tracer) :
      Course site tracer
        ⟨.perform site.runtime (.call overload site.receiver site.arguments), [], {}, []⟩ []
  | rewriting :
      Course site tracer
        ⟨.perform site.runtime (.procedure (tracer.rewriting site.arguments)),
          [.forward site tracer, .leave], ⟨[site.reference.key], []⟩, []⟩ []
  | rewritten :
      Course site tracer
        ⟨.deliver (.returned (.list site.arguments)), [.forward site tracer, .leave],
          ⟨[site.reference.key], []⟩, []⟩ []
  /-- The entry is told, and then the declared body runs. -/
  | within {inner : Strand} {told : List (Tracer × Event)} (beside : inner.Beside site.place)
      (opens : told ++ tracesOf site.place inner.outbox =
        (tracer.entry site).map (Prod.mk tracer)) :
      Course site tracer (inner.above [.settle site tracer, .leave]) told
  | settling {outcome : Outcome} {thread : Thread} :
      Course site tracer
        ⟨.perform site.runtime (.procedure (tracer.settling outcome)),
          [.close site tracer outcome, .leave], thread, []⟩
        ((tracer.entry site).map (Prod.mk tracer))
  | settled {outcome : Outcome} {thread : Thread} :
      Course site tracer
        ⟨.deliver outcome, [.close site tracer outcome, .leave], thread, []⟩
        ((tracer.entry site).map (Prod.mk tracer))
  | closing {outcome : Outcome} {thread : Thread} :
      Course site tracer
        ⟨.deliver outcome, [.leave], thread, [.traced site tracer (tracer.ending outcome)]⟩
        ((tracer.entry site).map (Prod.mk tracer))
  | closed {outcome : Outcome} {thread : Thread} {pending : List Pending}
      (last : pending = [.leave] ∨ pending = []) :
      Course site tracer ⟨.deliver outcome, pending, thread, []⟩
        ((tracer.entry site ++ [tracer.ending outcome]).map (Prod.mk tracer))

namespace Course

variable {site : Site} {tracer : Tracer} {strand next : Strand} {told : List (Tracer × Event)}
  {world after : World} {news : List News}

/-- With no news, nothing more has been told. -/
theorem silent (course : Course site tracer strand told) :
    Course site tracer strand (told ++ tracedIn site.place []) :=
  (List.append_nil told).symm ▸ course

/-- A step of a strand in the course of a traced call is the next one in it, unless its overload
is reached once more. -/
theorem steps (course : Course site tracer strand told) (only : tracer.hook.OnlyTraces)
    (steps : strand.Steps world news next after) (none : reachedIn site.place news = []) :
    Course site tracer next (told ++ tracedIn site.place news) := by
  cases course with
  | read isReference force =>
    cases steps with
    | plain other => cases force.symm.trans other
    | straight _ busy => cases busy
    | rewrite other =>
      cases force.symm.trans other
      rw [isReference]
      exact .rewriting
  | rewriting =>
    rw [Tracer.rewriting_of_onlyTraces only] at steps
    cases steps
    exact silent .rewritten
  | rewritten =>
    cases steps
    have nothing : ∀ pending ∈ ([] : List Pending), pending.Beside site.place :=
      fun _ member => by cases member
    exact silent (@within _ _ ⟨_, [], _, _⟩ _ ⟨trivial, nothing⟩ (Tracer.tracesOf_opens only site))
  | within beside opens =>
    rcases steps.framed with ⟨later, rfl, innerSteps⟩ | ⟨outcome, thread, rfl⟩
    · obtain ⟨beside, same⟩ := innerSteps.beside beside none
      refine .within beside ?_
      rw [List.append_assoc, same]
      exact opens
    · cases steps
      cases (List.append_nil told).symm.trans opens
      exact silent .settling
  | settling =>
    rw [Tracer.settling_of_onlyTraces only] at steps
    cases steps
    exact silent .settled
  | @settled outcome =>
    cases steps with
    | close isPassage =>
      subst isPassage
      rw [Tracer.ending_eq only, Passage.result_of_delivery rfl]
      exact silent .closing
  | @closing outcome =>
    cases steps
    have told : tracedIn site.place [.told (.traced site tracer (tracer.ending outcome))] =
        [(tracer, tracer.ending outcome)] := tracesOf_self site tracer [tracer.ending outcome]
    rw [told, ← List.map_singleton, ← List.map_append]
    exact .closed (.inl rfl)
  | closed last =>
    rcases last with rfl | rfl
    · cases steps
      exact silent (.closed (.inr rfl))
    · cases steps

/-- A call that has ended has told the entry and the closing event for its outcome. -/
theorem ended {outcome : Outcome} {thread : Thread}
    (course : Course site tracer ⟨.deliver outcome, [], thread, []⟩ told) :
    told = (tracer.entry site ++ [tracer.ending outcome]).map (Prod.mk tracer) := by
  generalize isStrand : (⟨.deliver outcome, [], thread, []⟩ : Strand) = strand at course
  cases course with
  | within =>
    have pending := congrArg Strand.pending isStrand
    cases List.append_ne_nil_of_right_ne_nil _ (List.cons_ne_nil _ _) pending.symm
  | closed =>
    cases isStrand
    rfl
  | _ => cases isStrand

end Course

end Intercept
