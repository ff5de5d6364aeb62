/-
This file proves what holds of a table of classes after any amendments. Its parts agree with each
other: the index leads from a name to the class that has it, an overload is kept under its class and
its member and nowhere else, and the member names of a class account for its overloads and for its
members without a body. Nothing that has been declared is ever changed or moved, so a reference that
has been handed out keeps its meaning. And the registries of a process that runs are what such
tables stand for.
-/
import Intercept.Proofs.Representation

namespace Intercept

namespace ClassTable

/-! ### Amending a table -/

/-- The table after an amendment; a hook gets a tracer of the given identity. An amendment that
fails leaves what it has made, but puts nothing over an overload. -/
def amend (table : ClassTable) (identity : Nat) : Amendment → ClassTable
  | .declareClass name => table.declareClass name
  | .declareMember container member => table.declareMember container member
  | .declareMethod container member parameters body =>
    (table.declareMethod container member parameters body).2
  | .install emitter reference path hook =>
    match table.install identity emitter reference path hook with
    | .ok after => after
    | .error _ => table
  | .replace reference body =>
    match table.replace reference body with
    | .ok after => after
    | .error _ => table

/-- The table after amendments, one after another, each with the identity for its tracer. -/
def amendAll (table : ClassTable) (amendments : List (Nat × Amendment)) : ClassTable :=
  amendments.foldl (fun table entry => table.amend entry.1 entry.2) table

namespace Represents

variable {table : ClassTable} {registry : Registry} {reference : OverloadRef}

/-- A body that is put over a declared overload is put over the one of the registry. -/
theorem amend_replace (represents : table.Represents registry) (coherent : registry.Coherent)
    {overload : Overload} (found : registry.overload? reference = some overload) (identity : Nat)
    (body : BodyInForce) :
    (table.amend identity (.replace reference body)).Represents
      (registry.putBody reference body) := by
  obtain ⟨after, replaced, isAfter⟩ := represents.replace_of_some coherent found body
  rw [ClassTable.amend, replaced]
  exact isAfter

theorem amend_install (represents : table.Represents registry) (coherent : registry.Coherent)
    {overload : Overload} (found : registry.overload? reference = some overload) (identity : Nat)
    (emitter : EmitterId) (path : String) (hook : Hook) :
    (table.amend identity (.install emitter reference path hook)).Represents
      (registry.putBody reference
        (.traced ⟨identity, emitter, path, hook, overload.declaredBody⟩)) := by
  rw [ClassTable.amend, represents.install_eq coherent found]
  exact represents.amend_replace coherent found identity _

/-- An amendment of a table is one of the registry. -/
theorem amend (represents : table.Represents registry) (coherent : registry.Coherent)
    (identity : Nat) (amendment : Amendment) :
    ∃ after, registry.Takes amendment after ∧
      (table.amend identity amendment).Represents after := by
  cases amendment with
  | declareClass name =>
    exact ⟨_, .declareClass name, represents.declareClass coherent name⟩
  | declareMember container member =>
    exact ⟨_, .declareMember container member,
      represents.declareMember coherent container member⟩
  | declareMethod container member parameters body =>
    exact ⟨_, .declareMethod container member parameters body,
      (represents.declareMethod coherent container member parameters body).2⟩
  | install emitter reference path hook =>
    cases found : registry.overload? reference with
    | none =>
      refine ⟨registry, .refused rfl, ?_⟩
      rw [ClassTable.amend, represents.install_of_none coherent found]
      exact represents
    | some overload =>
      exact ⟨_, .put rfl reference _,
        represents.amend_install coherent found identity emitter path hook⟩
  | replace reference body =>
    cases found : registry.overload? reference with
    | none =>
      refine ⟨registry, .refused rfl, ?_⟩
      rw [ClassTable.amend, represents.replace_of_none coherent found]
      exact represents
    | some overload =>
      exact ⟨_, .put rfl reference body, represents.amend_replace coherent found identity body⟩

/-- Amendments of a table lead to one that stands for what they add up to. -/
theorem amendAll (represents : table.Represents registry) {before : List Amendment}
    (sums : registry.Sums before) (amendments : List (Nat × Amendment)) :
    ∃ after, (table.amendAll amendments).Represents after ∧
      after.Sums (before ++ amendments.map Prod.snd) ∧ registry.Grows after := by
  induction amendments generalizing table registry before with
  | nil => exact ⟨registry, represents, (List.append_nil before).symm ▸ sums, .refl registry⟩
  | cons entry rest inductionHypothesis =>
    obtain ⟨middle, takes, isMiddle⟩ := represents.amend sums.coherent entry.1 entry.2
    obtain ⟨after, isAfter, sumsAfter, grows⟩ :=
      inductionHypothesis isMiddle (sums.of_takes takes)
    refine ⟨after, isAfter, ?_, (Registry.Grows.of_takes takes).trans grows⟩
    rwa [List.map_cons, List.append_cons]

end Represents

/-! ### Tables of a process -/

variable {table : ClassTable} {world after : World} {runtime : RuntimeId}

/-- Whatever is done to the registry of a runtime can be done to a table that stands for it. -/
theorem Represents.of_turns (represents : table.Represents (world.registry runtime))
    (coherent : (world.registry runtime).Coherent) (turns : world.Turns after) :
    ∃ amendments, (table.amendAll amendments).Represents (after.registry runtime) := by
  cases turns with
  | aside beside =>
    refine ⟨[], ?_⟩
    rw [World.registry_congr beside.registries]
    exact represents
  | refused => exact ⟨[], represents⟩
  | @declared changed registry extend =>
    rcases world.registry_setRegistry_cases changed runtime registry with reads | ⟨rfl, reads⟩ <;>
      rw [reads]
    · exact ⟨[], represents⟩
    · cases extend with
      | declareClass name =>
        exact ⟨[(0, .declareClass name)], represents.declareClass coherent name⟩
      | declareMember container member =>
        exact ⟨[(0, .declareMember container member)],
          represents.declareMember coherent container member⟩
      | declareMethod container member parameters body =>
        exact ⟨[(0, .declareMethod container member parameters body)],
          (represents.declareMethod coherent container member parameters body).2⟩
  | @hooked monitor reference overload path hook found =>
    by_cases same : runtime = monitor.runtime
    · subst same
      rw [World.registry_hooked_self found, Registry.reference_of_overload? found]
      exact ⟨[(world.nextTracer, .install monitor.emitter reference path hook)],
        represents.amend_install coherent found world.nextTracer monitor.emitter path hook⟩
    · rw [World.registry_hooked_other same]
      exact ⟨[], represents⟩
  | @replaced changed reference overload body found =>
    rcases world.registry_setRegistry_cases changed runtime
      ((world.registry changed).putBody overload.reference (.plain body)) with
        reads | ⟨rfl, reads⟩ <;> rw [reads]
    · exact ⟨[], represents⟩
    · rw [Registry.reference_of_overload? found]
      exact ⟨[(0, .replace reference (.plain body))],
        represents.amend_replace coherent found 0 (.plain body)⟩

theorem amendAll_append (table : ClassTable) (earlier later : List (Nat × Amendment)) :
    table.amendAll (earlier ++ later) = (table.amendAll earlier).amendAll later :=
  List.foldl_append

/-- While a process runs, a table that stands for the registry of a runtime is amended. -/
theorem Represents.of_becomes (represents : table.Represents (world.registry runtime))
    (reachable : world.Reachable) (becomes : world.Becomes after) :
    ∃ amendments, (table.amendAll amendments).Represents (after.registry runtime) := by
  induction becomes with
  | refl => exact ⟨[], represents⟩
  | tail becomes turns inductionHypothesis =>
    obtain ⟨earlier, isMiddle⟩ := inductionHypothesis
    obtain ⟨later, isAfter⟩ :=
      isMiddle.of_turns ((reachable.of_becomes becomes).coherent runtime) turns
    exact ⟨earlier ++ later, table.amendAll_append earlier later ▸ isAfter⟩

/-- The registry of a runtime is what some amended table stands for. -/
theorem exists_represents (reachable : world.Reachable) (runtime : RuntimeId) :
    ∃ amendments, (({} : ClassTable).amendAll amendments).Represents (world.registry runtime) := by
  obtain ⟨host, runtimes, becomes⟩ := reachable
  have bare : Represents {} ((State.initial host runtimes).world.registry runtime) :=
    (registry_initial host runtimes runtime).symm ▸ represents_empty
  exact bare.of_becomes ⟨host, runtimes, .refl⟩ becomes

end ClassTable

namespace ClassTable

/-! ### What a table keeps -/

/-- All overloads of a table, in whatever list they are kept. -/
def stored (table : ClassTable) : List Overload :=
  table.classes.flatMap fun record => record.overloads.flatMap Prod.snd

/-- That the parts of a table agree with each other and with the amendments that have been made. -/
structure Consistent (table : ClassTable) (amendments : List Amendment) : Prop where
  named : (table.classes.map ClassRecord.name).Nodup
  /-- The index has a slot for a name exactly if the class there has it. -/
  indexed : ∀ name slot,
    table.slotOf? name = some slot ↔ table.classes[slot]?.map ClassRecord.name = some name
  /-- No member of a class has two lists. -/
  keyed : ∀ record ∈ table.classes, record.keys.Nodup
  /-- What is kept under a class and a member is an overload of this class and this member. -/
  placed : ∀ record ∈ table.classes, ∀ entry ∈ record.overloads, ∀ overload ∈ entry.2,
    overload.reference.container = record.name ∧ overload.reference.member = entry.1
  distinct : (table.stored.map Overload.reference).Nodup
  /-- Every overload is found by its reference. -/
  found : ∀ overload ∈ table.stored, table.overload? overload.reference = some overload
  counted : ∀ record ∈ table.classes, ∀ member,
    record.declared.count member = (record.overloadsOf member).length +
      amendments.countP (Amendment.notes record.name member)
  /-- The declared body of an overload is the one that was declared for it first. -/
  bodies : ∀ reference, (table.overload? reference).map Overload.declaredBody =
    amendments.findSome? (Amendment.body? reference)
  /-- A declaration is refused exactly if there was one for the same overload before. -/
  answers : ∀ container member parameters body,
    (table.declareMethod container member parameters body).1.toOption =
      if (amendments.findSome? (Amendment.body? ⟨container, member, ⟨parameters⟩⟩)).isSome then none
      else some ⟨container, member, ⟨parameters⟩⟩
  /-- A declaration that is refused has made neither a class nor a list. -/
  refused : ∀ container member parameters body failure,
    (table.declareMethod container member parameters body).1 = .error failure →
      (table.declareMethod container member parameters body).2 = table

variable {table : ClassTable} {registry : Registry} {amendments : List Amendment}

namespace Represents

theorem mem_stored (represents : table.Represents registry) {overload : Overload}
    (isStored : overload ∈ table.stored) : overload ∈ registry.overloads := by
  obtain ⟨record, isRecord, inRecord⟩ := List.mem_flatMap.mp isStored
  obtain ⟨entry, isEntry, isKept⟩ := List.mem_flatMap.mp inRecord
  rw [(represents.keeps record isRecord).list_eq isEntry] at isKept
  exact List.mem_of_mem_filter isKept

theorem placed (represents : table.Represents registry) {record : ClassRecord}
    (isRecord : record ∈ table.classes) {entry : String × List Overload}
    (isEntry : entry ∈ record.overloads) {overload : Overload} (isKept : overload ∈ entry.2) :
    overload.reference.container = record.name ∧ overload.reference.member = entry.1 := by
  rw [(represents.keeps record isRecord).list_eq isEntry] at isKept
  exact of_decide_eq_true (List.mem_filter.mp isKept).2

/-- References in one list differ as those of the registry do, references in two lists of a class
differ in their members, and references in two classes differ in their classes. -/
theorem distinct_stored (represents : table.Represents registry) (coherent : registry.Coherent) :
    (table.stored.map Overload.reference).Nodup := by
  refine List.pairwise_map.mpr (List.pairwise_flatMap.mpr ⟨fun record isRecord => ?_, ?_⟩)
  · have keeps := represents.keeps record isRecord
    refine List.pairwise_flatMap.mpr ⟨fun entry isEntry => ?_, ?_⟩
    · rw [keeps.list_eq isEntry]
      exact (List.pairwise_map.mp coherent.distinct).filter _
    · refine (List.pairwise_map.mp keeps.keyed).imp_of_mem ?_
      intro entry other isEntry isOther different overload isKept another isAnother same
      refine different ?_
      rw [← (represents.placed isRecord isEntry isKept).2, same,
        (represents.placed isRecord isOther isAnother).2]
  · refine (List.pairwise_map.mp (represents.named coherent.named)).imp_of_mem ?_
    intro record other isRecord isOther different overload isKept another isAnother same
    obtain ⟨entry, isEntry, isKept⟩ := List.mem_flatMap.mp isKept
    obtain ⟨otherEntry, isOtherEntry, isAnother⟩ := List.mem_flatMap.mp isAnother
    refine different ?_
    rw [← (represents.placed isRecord isEntry isKept).1, same,
      (represents.placed isOther isOtherEntry isAnother).1]

theorem consistent (represents : table.Represents registry) (sums : registry.Sums amendments) :
    table.Consistent amendments where
  named := represents.named sums.coherent.named
  indexed name slot := by
    rw [represents.slots, Registry.slotOf?_eq_some_iff sums.coherent.named, Registry.classNames,
      ← represents.classes, List.map_map, List.getElem?_map]
    rfl
  keyed record isRecord := (represents.keeps record isRecord).keyed
  placed _ isRecord _ isEntry _ isKept := represents.placed isRecord isEntry isKept
  distinct := represents.distinct_stored sums.coherent
  found overload isStored := by
    have declared := represents.mem_stored isStored
    obtain ⟨other, found⟩ := Registry.exists_overload? (List.mem_map_of_mem declared)
    rw [represents.overload? sums.coherent, found,
      sums.coherent.distinct.eq_of_overload? declared rfl found]
  counted record isRecord member := by
    have isClass : record.outline ∈ registry.classes :=
      represents.classes ▸ List.mem_map_of_mem isRecord
    have members : registry.membersOf record.name = record.declared := by
      rw [Registry.membersOf, show record.name = record.outline.name from rfl,
        sums.coherent.classOf? isClass]
      rfl
    rw [← members, sums.counted, Registry.memberDeclarations_eq, List.length_map,
      (represents.keeps record isRecord).lists]
  bodies reference := by rw [represents.overload? sums.coherent, sums.bodies]
  answers container member parameters body := by
    rw [(represents.declareMethod sums.coherent container member parameters body).1, ← sums.bodies]
    cases declared : registry.overload? ⟨container, member, ⟨parameters⟩⟩ with
    | some overload =>
      rw [Registry.declareMethod_declared declared]
      rfl
    | none =>
      rw [Registry.declareMethod_free declared]
      rfl
  refused container member parameters body failure fails := by
    rw [(represents.declareMethod sums.coherent container member parameters body).1] at fails
    cases declared : registry.overload? ⟨container, member, ⟨parameters⟩⟩ with
    | some overload => rw [represents.declareMethod_of_some sums.coherent declared]
    | none =>
      rw [Registry.declareMethod_free declared] at fails
      cases fails

end Represents

end ClassTable

/-! ### What stays -/

/-- That a class keeps its name, and gets member names and overloads at the end of their lists
only; bodies may be put over overloads that it has. -/
structure ClassRecord.StaysIn (record later : ClassRecord) : Prop where
  name : later.name = record.name
  declared : record.declared <+: later.declared
  overloads : ∀ member,
    ((record.overloadsOf member).map fun overload =>
        (overload.reference, overload.declaredBody)) <+:
      (later.overloadsOf member).map fun overload =>
        (overload.reference, overload.declaredBody)

namespace ClassTable

/-- That in a later table all that is declared is where it was, and that references to classes and
overloads keep their meaning. -/
structure StaysIn (table later : ClassTable) : Prop where
  classes : ∀ {slot : Nat} {record : ClassRecord}, table.classes[slot]? = some record →
    ∃ after, later.classes[slot]? = some after ∧ record.StaysIn after
  resolved : ∀ {name : String} {container : ClassRef}, table.resolve? name = some container →
    later.resolve? name = some container
  referred : ∀ {container : ClassRef} {record : ClassRecord},
    table.classAt? container = some record →
      ∃ after, later.classAt? container = some after ∧ record.StaysIn after
  denoted : ∀ {reference : OverloadRef} {overload : Overload},
    table.overload? reference = some overload →
      ∃ after, later.overload? reference = some after ∧ after.reference = overload.reference ∧
        after.declaredBody = overload.declaredBody

variable {table later : ClassTable} {registry after : Registry}

namespace Represents

theorem staysIn_record (represents : table.Represents registry) (isAfter : later.Represents after)
    (grows : registry.Grows after) {slot : Nat} {record : ClassRecord}
    (stands : table.classes[slot]? = some record) :
    ∃ recordAfter, later.classes[slot]? = some recordAfter ∧ record.StaysIn recordAfter := by
  have isEntry : registry.classes[slot]? = some record.outline := by
    rw [← represents.classes, List.getElem?_map, stands, Option.map_some]
  obtain ⟨entry, isEntryAfter, sameName, growsMembers⟩ := grows.classes isEntry
  rw [← isAfter.classes, List.getElem?_map] at isEntryAfter
  obtain ⟨recordAfter, standsAfter, rfl⟩ := Option.map_eq_some_iff.mp isEntryAfter
  refine ⟨recordAfter, standsAfter, sameName, growsMembers, fun member => ?_⟩
  have growsOverloads := grows.memberDeclarations record.name member
  have name : recordAfter.name = record.name := sameName
  rwa [Registry.memberDeclarations_eq, Registry.memberDeclarations_eq,
    ← (represents.keeps record (List.mem_of_getElem? stands)).lists, ← name,
    ← (isAfter.keeps recordAfter (List.mem_of_getElem? standsAfter)).lists] at growsOverloads

theorem staysIn (represents : table.Represents registry) (isAfter : later.Represents after)
    (grows : registry.Grows after) (coherent : registry.Coherent)
    (coherentAfter : after.Coherent) : table.StaysIn later where
  classes := represents.staysIn_record isAfter grows
  resolved isClass := by
    obtain ⟨slot, slotted, rfl⟩ := Option.map_eq_some_iff.mp isClass
    rw [represents.slots] at slotted
    rw [resolve?, isAfter.slots, grows.slotOf? coherent.named coherentAfter.named slotted]
    rfl
  referred isClass := by
    obtain ⟨stands, named⟩ := Option.filter_eq_some_iff.mp isClass
    obtain ⟨recordAfter, standsAfter, stays⟩ := represents.staysIn_record isAfter grows stands
    refine ⟨recordAfter, ?_, stays⟩
    rw [ClassTable.classAt?, standsAfter]
    exact Option.filter_eq_some_iff.mpr ⟨rfl, stays.name ▸ named⟩
  denoted found := by
    rw [represents.overload? coherent] at found
    rw [isAfter.overload? coherentAfter]
    exact grows.overload? found

end Represents

end ClassTable

/-- Whatever is done to a table of classes, its parts agree, and what has been declared in it stays
where it is. While a process runs, the registry of each of its runtimes is what such a table stands
for, with the same answers. -/
theorem class_tables_consistent_and_growing :
    (∀ earlier later : List (Nat × Amendment),
      let table := ({} : ClassTable).amendAll earlier
      table.Consistent (earlier.map Prod.snd) ∧ table.StaysIn (table.amendAll later)) ∧
    ∀ {world after : World}, world.Reachable → world.Becomes after → ∀ runtime,
      ∃ earlier later : List (Nat × Amendment),
        let table := ({} : ClassTable).amendAll earlier
        table.Represents (world.registry runtime) ∧ table.Answers (world.registry runtime) ∧
        (table.amendAll later).Represents (after.registry runtime) ∧
        (table.amendAll later).Answers (after.registry runtime) := by
  constructor
  · intro earlier later table
    obtain ⟨registry, represents, sums, -⟩ :=
      ClassTable.represents_empty.amendAll Registry.Sums.empty earlier
    obtain ⟨after, isAfter, sumsAfter, grows⟩ := represents.amendAll sums later
    exact ⟨represents.consistent sums,
      represents.staysIn isAfter grows sums.coherent sumsAfter.coherent⟩
  · intro world after reachable becomes runtime
    obtain ⟨earlier, represents⟩ := ClassTable.exists_represents reachable runtime
    obtain ⟨later, isAfter⟩ := represents.of_becomes reachable becomes
    exact ⟨earlier, later, represents, represents.answers (reachable.coherent runtime), isAfter,
      isAfter.answers ((reachable.of_becomes becomes).coherent runtime)⟩

/-- At a desk somebody greets, and somebody is declared to greet once more, which is refused. -/
def deskAmendments : List (Nat × Amendment) :=
  [(0, .declareMethod "Desk" "greet" ["Str"] fun _ _ => .pure .null),
    (0, .declareMember "Desk" "wave"),
    (0, .declareMethod "Desk" "greet" ["Str"] fun _ _ => .pure (.str "again")),
    (0, .declareClass "Bell")]

/-- Later the greeting is hooked, the hook is replaced, and there is a second greeting. -/
def laterDeskAmendments : List (Nat × Amendment) :=
  [(1, .install 0 ⟨"Desk", "greet", ⟨["Str"]⟩⟩ "Desk.greet" {}),
    (0, .replace ⟨"Desk", "greet", ⟨["Str"]⟩⟩ (.plain fun _ _ => .pure (.str "later"))),
    (0, .declareMethod "Desk" "greet" [] fun _ _ => .pure .null)]

/-- The desk stays the first class, and its greetings stay in the order of their declaration. In a
process that starts with one runtime, a bell is declared. -/
theorem class_tables_consistent_and_growing_desk :
    let table := ({} : ClassTable).amendAll deskAmendments
    let later := table.amendAll laterDeskAmendments
    let start := (State.initial {} 1).world
    let rung := start.setRegistry 0 ((start.registry 0).declareClass "Bell")
    (table.Consistent (deskAmendments.map Prod.snd) ∧ table.StaysIn later ∧
      table.slots = [("Bell", 1), ("Desk", 0)] ∧
      table.classes.map ClassRecord.outline = [⟨"Desk", ["greet", "wave"]⟩, ⟨"Bell", []⟩] ∧
      later.classes.map ClassRecord.outline =
        [⟨"Desk", ["greet", "wave", "greet"]⟩, ⟨"Bell", []⟩] ∧
      later.classes.map ClassRecord.keys = [["wave", "greet"], []] ∧
      later.overloadRefs ⟨"Desk", 0⟩ "greet" =
        [⟨"Desk", "greet", ⟨["Str"]⟩⟩, ⟨"Desk", "greet", ⟨[]⟩⟩]) ∧
    start.Reachable ∧ start.Becomes rung ∧
    ∃ earlier later : List (Nat × Amendment),
      (({} : ClassTable).amendAll earlier).Represents (start.registry 0) ∧
      ((({} : ClassTable).amendAll earlier).amendAll later).Represents (rung.registry 0) := by
  intro table later start rung
  have holds := class_tables_consistent_and_growing.1 deskAmendments laterDeskAmendments
  have reachable : start.Reachable := ⟨{}, 1, .refl⟩
  have becomes : start.Becomes rung := .single (.declared (.declareClass "Bell"))
  obtain ⟨earlier, later, represents, -, isAfter, -⟩ :=
    class_tables_consistent_and_growing.2 reachable becomes 0
  exact ⟨⟨holds.1, holds.2, by decide +kernel, by decide +kernel, by decide +kernel,
    by decide +kernel, by decide +kernel⟩, reachable, becomes, earlier, later, represents, isAfter⟩

end Intercept
