/-
This file says what becomes of parts that are joined to a name. The name is read at its last dot, so
the target has the parts that were joined if the second one has no dot in it. Otherwise what stands
before the last dot of the second part goes over to the first one, and then it is not noticed if the
first part was empty. Parts that join to the same name give the same target, so different parts can
be mistaken for each other, but only if one of the second parts has a dot in it.
-/
import Intercept.Proofs.Targeting

namespace Intercept

/-- What has a separator in it has a last one. -/
theorem Text.exists_append_of_mem {separator : Char} {text : List Char}
    (present : separator ∈ text) :
    ∃ before after, text = before ++ separator :: after ∧ separator ∉ after := by
  cases split : splitLast? separator text with
  | none => exact absurd present (splitLast?_eq_none_iff.mp split)
  | some parts =>
    exact ⟨parts.1, parts.2, (append_of_splitLast? split).symm, not_mem_of_splitLast? split⟩

/-- A text shows what stands before and after the last separator in it. -/
theorem Text.append_cons_inj {separator : Char} {before after beforeOther afterOther : List Char}
    (absent : separator ∉ after) (absentOther : separator ∉ afterOther)
    (same : before ++ separator :: after = beforeOther ++ separator :: afterOther) :
    before = beforeOther ∧ after = afterOther := by
  have split := congrArg (splitLast? separator) same
  rw [splitLast?_append _ absent, splitLast?_append _ absentOther] at split
  exact Prod.mk.inj (Option.some.inj split)

namespace Target

variable {container member containerOther memberOther last : String} {target : Target}

/-! ### Names of parts -/

theorem toList_join (container member : String) :
    (container ++ "." ++ member).toList = container.toList ++ '.' :: member.toList := by
  simp

/-- A name shows the parts that it is joined from, if the second one has no dot in it. -/
theorem join_inj (undotted : '.' ∉ member.toList) (undottedOther : '.' ∉ memberOther.toList)
    (same : container ++ "." ++ member = containerOther ++ "." ++ memberOther) :
    container = containerOther ∧ member = memberOther := by
  rw [← String.toList_inj, toList_join, toList_join] at same
  obtain ⟨sameContainer, sameMember⟩ := Text.append_cons_inj undotted undottedOther same
  exact ⟨String.toList_inj.mp sameContainer, String.toList_inj.mp sameMember⟩

theorem exists_append_of_dotted (dotted : '.' ∈ member.toList) :
    ∃ front last : String, member = front ++ "." ++ last ∧ '.' ∉ last.toList := by
  obtain ⟨before, after, parts, undotted⟩ := Text.exists_append_of_mem dotted
  refine ⟨String.ofList before, String.ofList after, ?_, String.toList_ofList ▸ undotted⟩
  rw [← String.toList_inj, toList_join, String.toList_ofList, String.toList_ofList, parts]

/-! ### Joining parts -/

theorem ofParts_eq_ok_iff :
    ofParts container member = .ok target ↔
      Splits (container ++ "." ++ member) target.container target.member :=
  ⟨splits_of_parse, parse_of_splits⟩

/-- If the second part has no dot in it, the parts are kept, and neither of them may be empty. -/
theorem ofParts_of_undotted (container : String) (undotted : '.' ∉ member.toList) :
    ofParts container member =
      if container = "" ∨ member = "" then
        .error (.malformedTarget (container ++ "." ++ member))
      else .ok ⟨container, member⟩ := by
  split_ifs with empty
  · refine parse_of_not_splits fun front last splits => ?_
    obtain ⟨rfl, rfl⟩ := join_inj undotted splits.last splits.joined
    exact empty.elim splits.named splits.nonempty
  · rw [not_or] at empty
    exact ofParts_eq_ok_iff.mpr ⟨rfl, empty.1, empty.2, undotted⟩

/-- What stands before the last dot of the second part goes over to the first part, which is not
empty then. -/
theorem ofParts_of_dotted (container front : String) (undotted : '.' ∉ last.toList) :
    ofParts container (front ++ "." ++ last) =
      if last = "" then
        .error (.malformedTarget (container ++ "." ++ (front ++ "." ++ last)))
      else .ok ⟨container ++ "." ++ front, last⟩ := by
  have sameName : container ++ "." ++ (front ++ "." ++ last) =
      container ++ "." ++ front ++ "." ++ last := by
    simp only [String.append_assoc]
  have named : container ++ "." ++ front ≠ "" := by simp
  rw [ofParts, sameName]
  exact (ofParts_of_undotted _ undotted).trans
    (ite_congr (propext (or_iff_right named)) (fun _ => rfl) fun _ => rfl)

/-- A name that cannot be read is reported as it is. -/
theorem failure_of_parse {name : String} {failure : HookFailure}
    (fails : parse name = .error failure) : failure = .malformedTarget name := by
  have refused := parse_of_not_splits fun _ _ splits =>
    nomatch fails.symm.trans (parse_of_splits splits)
  exact Except.error.inj (fails.symm.trans refused)

/-- Parts give the same answer, a target or a failure, exactly if they join to the same name. -/
theorem ofParts_eq_iff :
    ofParts container member = ofParts containerOther memberOther ↔
      container ++ "." ++ member = containerOther ++ "." ++ memberOther := by
  refine ⟨fun same => ?_, congrArg parse⟩
  cases joins : ofParts container member with
  | ok target =>
    have joinsOther := same.symm.trans joins
    exact (dottedName_of_parse joins).symm.trans (dottedName_of_parse joinsOther)
  | error failure =>
    have failsOther := same.symm.trans joins
    exact HookFailure.malformedTarget.inj
      ((failure_of_parse joins).symm.trans (failure_of_parse failsOther))

/-- That a target has the parts that it was joined from, and neither of them is empty. -/
structure Keeps (target : Target) (container member : String) : Prop where
  sameContainer : target.container = container
  sameMember : target.member = member
  named : container ≠ ""
  nonempty : member ≠ ""

/-- A target has the parts that it was joined from exactly if there was no dot in the second one. -/
theorem keeps_iff (joins : ofParts container member = .ok target) :
    target.Keeps container member ↔ '.' ∉ member.toList := by
  have splits := ofParts_eq_ok_iff.mp joins
  constructor
  · exact fun keeps => keeps.sameMember ▸ splits.last
  · intro undotted
    obtain ⟨sameContainer, sameMember⟩ := join_inj undotted splits.last splits.joined
    exact ⟨sameContainer.symm, sameMember.symm, sameContainer ▸ splits.named,
      sameMember ▸ splits.nonempty⟩

/-- The parts of a target give this target, whatever it was joined from. -/
theorem ofParts_self (joins : ofParts container member = .ok target) :
    ofParts target.container target.member = .ok target :=
  (congrArg parse (ofParts_eq_ok_iff.mp joins).joined).symm.trans joins

/-- Parts are kept unless there is a dot in the second one. If there is none, they are the parts of
the target, or one of them is empty and they are refused. If there is one, the target has the second
part from its last dot on as its member and all before it as its container, and it has other parts
than it was joined from. Different parts give the same target, or are refused alike, exactly if they
join to the same name; parts without a dot in the second one never do. -/
theorem parts_are_kept_unless_dotted (container member : String) :
    ('.' ∉ member.toList → ofParts container member =
      if container = "" ∨ member = "" then
        .error (.malformedTarget (container ++ "." ++ member))
      else .ok ⟨container, member⟩) ∧
    ('.' ∈ member.toList → ∃ front last : String,
      member = front ++ "." ++ last ∧ '.' ∉ last.toList ∧ ofParts container member =
        if last = "" then .error (.malformedTarget (container ++ "." ++ member))
        else .ok ⟨container ++ "." ++ front, last⟩) ∧
    (∀ target, ofParts container member = .ok target →
      (target.Keeps container member ↔ '.' ∉ member.toList) ∧
        ofParts target.container target.member = .ok target) ∧
    (∀ containerOther memberOther : String,
      (ofParts container member = ofParts containerOther memberOther ↔
        container ++ "." ++ member = containerOther ++ "." ++ memberOther) ∧
      ('.' ∉ member.toList → '.' ∉ memberOther.toList →
        ofParts container member = ofParts containerOther memberOther →
          container = containerOther ∧ member = memberOther)) := by
  refine ⟨ofParts_of_undotted container, fun dotted => ?_, fun target joins => ?_,
    fun containerOther memberOther => ⟨ofParts_eq_iff, fun undotted undottedOther same => ?_⟩⟩
  · obtain ⟨front, last, rfl, undotted⟩ := exists_append_of_dotted dotted
    exact ⟨front, last, rfl, undotted, ofParts_of_dotted container front undotted⟩
  · exact ⟨keeps_iff joins, ofParts_self joins⟩
  · exact join_inj undotted undottedOther (ofParts_eq_iff.mp same)

/-- Parts with a dot in the second one, and their target joined again. -/
theorem parts_are_kept_unless_dotted_greeter :
    ofParts "pkg.Greeter" "<init>" = .ok ⟨"pkg.Greeter", "<init>"⟩ ∧
      Keeps ⟨"pkg.Greeter", "<init>"⟩ "pkg.Greeter" "<init>" ∧
    ofParts "pkg" "Greeter.greet" = .ok ⟨"pkg.Greeter", "greet"⟩ ∧
      ¬ Keeps ⟨"pkg.Greeter", "greet"⟩ "pkg" "Greeter.greet" := by
  have plain := parts_are_kept_unless_dotted "pkg.Greeter" "<init>"
  have dotted := parts_are_kept_unless_dotted "pkg" "Greeter.greet"
  have joins := plain.1 (by decide)
  obtain ⟨front, last, parts, undotted, joinsDotted⟩ := dotted.2.1 (by decide)
  obtain ⟨rfl, rfl⟩ : front = "Greeter" ∧ last = "greet" :=
    join_inj undotted (by decide) (parts.symm.trans (by decide))
  exact ⟨joins, (plain.2.2.1 _ joins).1.mpr (by decide), joinsDotted,
    mt (dotted.2.2.1 _ joinsDotted).1.mp (by decide)⟩

/-- A dot in the second part moves what stands before it, and lets an empty first part pass. Other
parts give the same target. -/
theorem dotted_member_loses_its_front :
    ofParts "pkg" "Greeter.greet" = .ok ⟨"pkg.Greeter", "greet"⟩ ∧
      ofParts "pkg.Greeter" "greet" = .ok ⟨"pkg.Greeter", "greet"⟩ ∧
      ofParts "" "Greeter.greet" = .ok ⟨".Greeter", "greet"⟩ ∧
      ¬ ∀ container member target, ofParts container member = .ok target →
        target.Keeps container member := by
  have joins : ofParts "pkg" "Greeter.greet" = .ok ⟨"pkg.Greeter", "greet"⟩ := by decide
  refine ⟨joins, by decide, by decide, fun keeps => ?_⟩
  exact absurd (keeps _ _ _ joins).sameContainer (by decide)

end Target

end Intercept
