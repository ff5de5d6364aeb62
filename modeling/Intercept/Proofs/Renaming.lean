/-
This file compares runs up to the identities of tracers. Identities are only ever compared with
each other, so two worlds with the same bodies in force, but for a renaming of identities that
confuses none, give the same outcomes and emit the same events.
-/
import Intercept.Proofs.Shadowing

namespace Intercept

/-! ### Renamed bodies -/

/-- That two bodies in force are the same, but for a tracer's identity. -/
inductive BodyInForce.Renamed (renames : Nat → Nat → Prop) : BodyInForce → BodyInForce → Prop where
  | plain {body : Body} : Renamed renames (.plain body) (.plain body)
  | traced {tracer : Tracer} {identity : Nat} (related : renames tracer.identity identity) :
      Renamed renames (.traced tracer) (.traced { tracer with identity })

/-- Runs are compared by what is emitted, between overloads with the same bodies in force up to
a renaming of identities. Forwarding stacks correspond item by item. -/
def upToRenaming (renames : Nat → Nat → Prop) : Likeness where
  overloads overload other :=
    overload.reference = other.reference ∧ overload.bodyInForce.Quiet ∧
      overload.bodyInForce.Renamed renames other.bodyInForce
  forwarding := List.Forall₂ renames
  told episodes others := emissionsOf episodes = emissionsOf others

theorem upToRenaming_beginForward {renames : Nat → Nat → Prop} {state other : State}
    {identity otherIdentity : Nat} (alike : state.Alike (upToRenaming renames) other)
    (related : renames identity otherIdentity) :
    (state.beginForward identity).Alike (upToRenaming renames) (other.beginForward otherIdentity) :=
  ⟨alike.world, alike.frames, .cons related alike.forwarding⟩

theorem upToRenaming_endForward {renames : Nat → Nat → Prop} {state other : State}
    (alike : state.Alike (upToRenaming renames) other) :
    state.endForward.Alike (upToRenaming renames) other.endForward := by
  have popped := List.forall₂_drop 1 alike.forwarding
  rw [List.drop_one, List.drop_one] at popped
  exact ⟨alike.world, alike.frames, popped⟩

/-! ### Runs in lockstep -/

/-- A renaming that confuses no identities is kept by single calls. -/
theorem upToRenaming_lockstep {renames : Nat → Nat → Prop} (unique : Relator.BiUnique renames) :
    (upToRenaming renames).Lockstep where
  reference related := related.1
  quiet related := related.2.1
  fresh quiet := ⟨rfl, quiet, .plain⟩
  idle := .nil
  nothing := rfl
  append first second := by
    show emissionsOf _ = emissionsOf _
    rw [emissionsOf_append, emissionsOf_append, first, second]
  framesRead := rfl
  spawned := by
    intro work otherWork same
    show emissionsOf _ = emissionsOf _
    rw [emissionsOf_cons, emissionsOf_cons, Episode.marks, Episode.marks, emissions_map_removed,
      emissions_map_removed]
    exact congrArg (· ++ _) same
  crossed := by
    intro emitter entry within otherWithin leave same
    show emissionsOf _ = emissionsOf _
    rw [emissionsOf_cons, emissionsOf_cons, Episode.marks, Episode.marks]
    simp only [List.map_append]
    exact congrArg (fun inner => _ ++ inner ++ _ ++ _) same
  plain := by
    intro runtime overload other body receiver arguments state within outcome after related force
      ran otherState alike
    obtain ⟨reference, -, renamed⟩ := related
    rw [force] at renamed
    generalize otherForce : other.bodyInForce = otherBody at renamed
    cases renamed
    obtain ⟨_, _, ran, alike, same⟩ := ran _ (alike.pushFrame (congrArg _ reference))
    refine ⟨_, _, .plain otherForce ran, alike.popFrame, ?_⟩
    show emissionsOf _ = emissionsOf _
    rw [emissionsOf_cons, emissionsOf_cons]
    exact congrArg (· ++ _) same
  straight := by
    intro runtime overload other tracer receiver arguments state within outcome after related
      force busy ran otherState alike
    obtain ⟨reference, -, renamed⟩ := related
    rw [force] at renamed
    generalize otherForce : other.bodyInForce = otherBody at renamed
    cases renamed with
    | traced related =>
      have otherBusy := (List.rel_mem unique related alike.forwarding).mp busy
      obtain ⟨_, _, ran, alike, same⟩ := ran _ (alike.pushFrame (congrArg _ reference))
      refine ⟨_, _, .straight otherForce otherBusy ran, alike.popFrame, ?_⟩
      show emissionsOf _ = emissionsOf _
      rw [emissionsOf_cons, emissionsOf_cons]
      exact congrArg (· ++ _) same
  traced := by
    intro runtime overload other receiver arguments rewritten rewriting within delivering state
      entered left settled passage related force idle isForwarded isFrames rewrote forwarded
      delivered otherState alike
    obtain ⟨reference, -, renamed⟩ := related
    rw [force] at renamed
    generalize otherForce : other.bodyInForce = otherBody at renamed
    cases renamed with
    | @traced _ identity related =>
      have otherIdle := mt (List.rel_mem unique related alike.forwarding).mpr idle
      let otherPassage : Passage := { passage with tracer := { passage.tracer with identity } }
      obtain ⟨_, otherEntered, rewrote, alike, sameRewriting⟩ :=
        rewrote _ (alike.pushFrame (congrArg _ reference))
      have isPassage : otherPassage =
          ⟨otherPassage.tracer, rewritten.asArguments, otherEntered.thread.frames,
            passage.outcome, passage.delivery⟩ := by
        rw [← isForwarded, ← alike.frames, ← isFrames]
      obtain ⟨_, otherLeft, forwarded, alike, sameWithin⟩ := forwarded _
        (upToRenaming_beginForward (alike.emitAll passage.tracer.emitter passage.tracer.emitter
          (passage.entry arguments) (otherPassage.entry arguments)) related)
      rw [isForwarded] at forwarded
      obtain ⟨_, otherSettled, delivered, alike, sameDelivering⟩ :=
        delivered _ (upToRenaming_endForward alike)
      have completes : Completes runtime (.call other receiver arguments) otherState
          [.traced ⟨runtime, other.reference, receiver, arguments⟩ otherPassage _ _ _]
          otherPassage.result
          (otherSettled.emit otherPassage.tracer.emitter otherPassage.closing).popFrame :=
        .traced otherForce otherIdle isPassage rewrote forwarded delivered
      refine ⟨_, _, completes, (alike.emit _ _ _ _).popFrame, ?_⟩
      show emissionsOf _ = emissionsOf _
      rw [emissionsOf_traced, emissionsOf_traced, sameRewriting, sameWithin, sameDelivering]
      rfl

/-! ### Runs moment by moment -/

/-- That the same has been emitted since two beginnings. -/
def Account.SameSince (before otherBefore : List Emission) (account other : Account) : Prop :=
  ∃ emitted, account.emitted = before ++ emitted ∧ other.emitted = otherBefore ++ emitted

theorem sameSince_agreement (renames : Nat → Nat → Prop) (before otherBefore : List Emission) :
    (upToRenaming renames).Agreement (Account.SameSince before otherBefore) where
  same := by
    rintro account other ⟨since, emitted, otherEmitted⟩ _ more
    refine ⟨since ++ more, ?_, ?_⟩
    · rw [Account.further, emitted, List.append_assoc]
    · rw [Account.further, otherEmitted, List.append_assoc]
  told := by
    rintro account other episodes others ⟨since, emitted, otherEmitted⟩ told
    have told : emissionsOf episodes = emissionsOf others := told
    refine ⟨since ++ emissionsOf episodes, ?_, ?_⟩
    · rw [Account.further, emitted, List.append_assoc]
    · rw [Account.further, otherEmitted, ← told, List.append_assoc]

/-- A renaming that confuses no identities is kept by single calls that are under way. -/
theorem upToRenaming_shadows {renames : Nat → Nat → Prop} (unique : Relator.BiUnique renames)
    (before otherBefore : List Emission) :
    (upToRenaming renames).Shadows (Account.SameSince before otherBefore) where
  lockstep := upToRenaming_lockstep unique
  agreement := sameSince_agreement renames before otherBefore
  call := by
    intro runtime overload other receiver arguments calls otherCalls observed otherObserved next
      state otherState related alike agrees leads
    have lockstep := upToRenaming_lockstep unique
    have agreement := sameSince_agreement renames before otherBefore
    obtain ⟨reference, quiet, renamed⟩ := related
    have pushed : (state.pushFrame overload.reference.key).Alike (upToRenaming renames)
        (otherState.pushFrame other.reference.key) := alike.pushFrame (congrArg _ reference)
    generalize force : overload.bodyInForce = body at renamed quiet
    generalize otherForce : other.bodyInForce = otherBody at renamed
    cases renamed with
    | plain =>
      cases leads with
      | plain isPlain =>
        cases force.symm.trans isPlain
        exact ⟨_, .single (.plain otherForce), agreement.observing _ agrees,
          .inl ⟨rfl, .procedure (quiet _ _), pushed⟩⟩
      | straight isTraced | rewriting isTraced | forwarding isTraced | settling isTraced =>
        cases force.symm.trans isTraced
    | @traced tracer identity related =>
      have sameBusy := List.rel_mem unique related alike.forwarding
      cases leads with
      | plain isPlain => cases force.symm.trans isPlain
      | straight isTraced busy =>
        cases force.symm.trans isTraced
        exact ⟨_, .single (.straight otherForce (sameBusy.mp busy)), agreement.observing _ agrees,
          .inl ⟨rfl, .procedure (quiet.declaredBody _ _), pushed⟩⟩
      | rewriting isTraced idle =>
        cases force.symm.trans isTraced
        exact ⟨_, .single (.rewriting otherForce (mt sameBusy.mpr idle)), agrees,
          .inl ⟨rfl, .procedure (quiet.rewriting _), pushed⟩⟩
      | forwarding isTraced idle rewrote =>
        cases force.symm.trans isTraced
        obtain ⟨_, _, otherRewrote, entered, told⟩ :=
          lockstep.follows rewrote (.procedure (quiet.rewriting _)) _ pushed
        refine ⟨_, .single (.forwarding otherForce (mt sameBusy.mpr idle) otherRewrote), ?_,
          .inl ⟨rfl, .procedure (quiet.declaredBody _ _),
            upToRenaming_beginForward (entered.emitAll _ _ _ _) related⟩⟩
        rw [entered.frames]
        exact agreement.observing _
          (agreement.emitting _ _ (agreement.completing rewrote otherRewrote told agrees))
      | @settling _ _ _ _ _ rewritten _ _ _ _ _ _ _ _ isTraced idle rewrote forwarded =>
        cases force.symm.trans isTraced
        obtain ⟨_, otherEntered, otherRewrote, entered, toldRewriting⟩ :=
          lockstep.follows rewrote (.procedure (quiet.rewriting _)) _ pushed
        rw [entered.frames] at forwarded
        let entry := tracer.entryEvents arguments rewritten.asArguments
          tracer.hook.transformArguments.isSome otherEntered.thread.frames
        have begun := upToRenaming_beginForward
          (entered.emitAll tracer.emitter tracer.emitter entry entry) related
        obtain ⟨_, _, otherForwarded, left, toldWithin⟩ :=
          lockstep.follows forwarded (.procedure (quiet.declaredBody _ _)) _ begun
        have agreesEntered := agreement.completing rewrote otherRewrote toldRewriting agrees
        have agreesLeft := agreement.completing forwarded otherForwarded toldWithin
          (agreement.emitting tracer.emitter entry agreesEntered)
        exact ⟨_,
          .single (.settling otherForce (mt sameBusy.mpr idle) otherRewrote otherForwarded),
          agreesLeft, .inl ⟨rfl, .procedure (quiet.settling _), upToRenaming_endForward left⟩⟩

end Intercept
