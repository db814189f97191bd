import Mathlib.Data.List.Basic
import MemoryTimeline.Proofs.ScopeAttribution
import MemoryTimeline.Proofs.VisitedStatements

/-!
# The fields of a new object

A statement that constructs an object (`Constructs`) records the object itself, then a field for
each data member of its class with the default, then a field for each statement of the constructor
that assigns one (`Construction`). The values of the constructor's parameters are settled before the
first of these statements. So a field ends up with what the constructor assigns to it last, and
otherwise with the last default, and the snapshot after the statement shows this value.
-/

namespace MemoryTimeline

/-- The class that a program means by a name: the first one that is declared under it at the top
level. -/
def Program.Declares (program : Program) (name : String)
    (definition : Program.Class Program.Node) : Prop :=
  ∃ before after, program.nodes = before ++ .classDeclaration definition :: after ∧
    definition.name = name ∧ ∀ other, .classDeclaration other ∈ before → other.name ≠ name

/-- Looking a name up finds the class that is declared first under it. -/
theorem Program.class?_eq_some_iff {program : Program} {name : String}
    {definition : Program.Class Program.Node} :
    program.class? name = some definition ↔ program.Declares name definition := by
  rw [class?, List.findSome?_eq_some_iff]
  constructor
  · rintro ⟨before, node, after, nodes, found, earlier⟩
    obtain ⟨rfl, named⟩ := Node.classNamed?_eq_some_iff.mp found
    refine ⟨before, after, nodes, named, ?_⟩
    intro other member
    exact Node.classNamed?_eq_none_iff.mp (earlier _ member) other rfl
  · rintro ⟨before, after, nodes, named, earlier⟩
    refine ⟨before, _, after, nodes, Node.classNamed?_eq_some_iff.mpr ⟨rfl, named⟩, ?_⟩
    intro node member
    rw [Node.classNamed?_eq_none_iff]
    rintro other rfl
    exact earlier other member

namespace Recorder

open Program (Argument Class Member Node Parameter)

/-- The record of an object in automatic storage. -/
def objectRecord (object : Program.ObjectDeclaration) (parent : String) : Record where
  name := (object.name.or object.objectName).getD ""
  value := .str object.classType
  scope := scopeOf object.scope parent
  kind := .object
  classType := some object.classType
  id := object.id
  line := object.line

/-- An object that a statement constructs. -/
structure Construction where
  /-- The record of the object, on the heap after that of the pointer to it. -/
  own : List Record
  definition : Class Node
  site : Site
  args : List Argument

/-- The object that a statement constructs: one in automatic storage, or the instance that is
allocated for a pointer, if the class is declared. -/
inductive Constructs (program : Program) (recorder : Recorder) (parent : String) :
    Node → Construction → Prop where
  | object {object definition} (declared : program.Declares object.classType definition) :
      Constructs program recorder parent (.objectDeclaration object)
        { own := [objectRecord object parent]
          definition
          site := ⟨(objectRecord object parent).name, (objectRecord object parent).scope,
            object.line⟩
          args := object.args }
  | onHeap {pointer name definition} (isNew : pointer.allocation = some "new")
      (named : pointer.allocatedType.or pointer.classType = some name)
      (declared : program.Declares name definition) :
      Constructs program recorder parent (.classPointer pointer)
        { own :=
            [instancePointer pointer parent recorder.nextHeap,
              instanceEntity pointer recorder.nextHeap]
          definition
          site := ⟨pointer.name ++ "_heap", "heap", pointer.line⟩
          args := pointer.args }

/-- The field that a statement of a constructor assigns, with the value as it is written. Only
assignments to a name or to a member of the object itself assign fields. -/
def assignedIn? : Node → Option (String × Json)
  | .assignment statement => some (statement.name, statement.value)
  | .memberAssignment statement =>
    if statement.object = "this" then some (statement.member, statement.value) else none
  | _ => none

/-- A constructor is carried out for the statements that assign fields, and for no others. -/
theorem assignedIn?_eq (statement : Node) :
    assignedIn? statement =
      (fieldAssignment? statement).map fun assignment => (assignment.1, assignment.2.1) := by
  cases statement with
  | memberAssignment statement =>
      simp only [assignedIn?, fieldAssignment?]
      split <;> rfl
  | _ => rfl

/-- What an argument stands for after some events: a name for the value of its last record, and any
other value for itself. What is not known, or null, is written as `"param"`. -/
def knownValue (log : List Event) (argument : Option Json) : Json :=
  let value? := argument.bind fun value =>
    match value.identifier? with
    | some name =>
      (log.reverse.findSome? fun event => event.record?.filter (·.name = name)).map (·.value)
    | none => some value
  match value? with
  | some value => if value.isNull then .str "param" else value
  | none => .str "param"

/-- The recorder looks arguments up in the events so far. -/
theorem resolve_fst_eq (recorder : Recorder) (argument : Option Json) :
    (recorder.resolve argument).1 = knownValue recorder.timeline.events argument := by
  have latest (name : String) : recorder.timeline.events.reverse.findSome?
      (fun event => event.record?.filter (·.name = name)) = recorder.latest? name := by
    rw [timeline, List.reverse_reverse, latest?]
  cases argument with
  | none => rfl
  | some value =>
      simp only [resolve, knownValue, Option.bind_some, latest]
      cases value.identifier? with
      | none =>
          simp only
          split <;> rfl
      | some name =>
          simp only
          cases recorder.latest? name <;> rfl

namespace Construction

variable (construction : Construction)

/-- The constructor that runs: the first parameterized one where there are arguments and the
first default one where there are none, and otherwise the first of the other kind. -/
def run? : Option (Member Node) :=
  let parameterized := construction.definition.members.find? (·.kind = .parameterizedConstructor)
  let default := construction.definition.members.find? (·.kind = .defaultConstructor)
  if construction.args.isEmpty then default.or parameterized else parameterized.or default

/-- The constructor is chosen by whether there are arguments. -/
theorem run?_eq :
    construction.run? = construction.definition.constructor? (!construction.args.isEmpty) := by
  unfold run? Class.constructor?
  cases construction.args.isEmpty <;> rfl

/-- The fields that the constructor assigns, in order, each with the value as it is written. -/
def assignments : List (String × Json) :=
  ((construction.run?.map (·.body)).getD []).filterMap assignedIn?

/-- The parameter of the constructor that a name means, with its position. Of several with one
name the last is meant. -/
def parameter? (name : String) : Option (Parameter × Nat) :=
  ((construction.run?.map (·.params)).getD []).zipIdx.reverse.find? (·.1.name = name)

/-- The argument for a parameter: the first one that is given by its name, and otherwise the one
at its position. -/
def argument? (parameter : Parameter) (position : Nat) : Option Json :=
  ((construction.args.find? (·.parameter = some parameter.name)).or
    construction.args[position]?).map (·.value)

/-- The value that the constructor assigns where the given one is written, after some events: what
the argument stands for if it is the name of a parameter, and otherwise the value itself. -/
def assignedValue (log : List Event) (value : Json) : Json :=
  match value.identifier?.bind construction.parameter? with
  | some (parameter, position) => knownValue log (construction.argument? parameter position)
  | none => value

/-- The value that a field ends up with, if the object has the field: what the constructor
assigns to it last, and otherwise the default of the last data member of its name. -/
def finalValue? (log : List Event) (field : String) : Option Json :=
  ((construction.assignments.reverse.find? (·.1 = field)).map fun assignment =>
      construction.assignedValue log assignment.2).or
    (((construction.definition.members.filter (·.kind = .variable)).reverse.find?
      (·.name = field)).map (·.defaultValue))

/-- The records of the defaults. -/
def defaults : List Record :=
  construction.definition.dataMembers.map (fieldRecord construction.site)

/-- The records of what the constructor assigns, with parameters as the recorder knows them. -/
def assigned (recorder : Recorder) : List Record :=
  match construction.run? with
  | some run =>
    assignedFields construction.definition run construction.site
      (recorder.constructorValues run.params construction.args)
  | none => []

end Construction

/-- What is known of an argument depends on the events so far alone. -/
theorem resolve_eq_of_history {first second : Recorder} (same : first.history = second.history) :
    first.resolve = second.resolve := by
  funext argument
  simp only [resolve, latest?, same]

theorem recordAll_append (first second : List Record) (recorder : Recorder) :
    recorder.recordAll (first ++ second) = (recorder.recordAll first).recordAll second :=
  List.foldl_append

namespace Construction

/-- What the constructor assigns depends on the events so far alone. -/
theorem assigned_eq_of_history (construction : Construction) {first second : Recorder}
    (same : first.history = second.history) :
    construction.assigned first = construction.assigned second := by
  unfold assigned constructorValues
  rw [resolve_eq_of_history same]

/-- A construction records the defaults, and then what the constructor assigns with its
parameters as they stand after the defaults. -/
theorem timeline_construct (construction : Construction) (recorder : Recorder) :
    (recorder.construct construction.definition construction.site
      construction.args).timeline.events =
      recorder.timeline.events ++ (construction.defaults ++
        construction.assigned (recorder.recordAll construction.defaults)).map Event.var := by
  unfold construct assigned
  rw [run?_eq]
  cases construction.definition.constructor? (!construction.args.isEmpty) with
  | none => simp [defaults]
  | some run => simp [defaults]

/-- The records of the object itself come first. How the recorder counts allocations does not
matter for the fields. -/
theorem timeline_construct_of_own (construction : Construction) {recorder started : Recorder}
    (same : started.history = (recorder.recordAll construction.own).history) :
    (started.construct construction.definition construction.site
      construction.args).timeline.events =
      recorder.timeline.events ++ (construction.own ++ construction.defaults ++
        construction.assigned
          (recorder.recordAll (construction.own ++ construction.defaults))).map Event.var := by
  have begun : started.timeline.events =
      recorder.timeline.events ++ construction.own.map Event.var := by
    rw [← timeline_recordAll, timeline, same]
    rfl
  have seeded : (started.recordAll construction.defaults).history =
      (recorder.recordAll (construction.own ++ construction.defaults)).history := by
    rw [recordAll_append, history_recordAll, history_recordAll, same]
  rw [timeline_construct, begun, construction.assigned_eq_of_history seeded]
  simp

end Construction

/-- What a statement that constructs an object records. -/
theorem timeline_visit_of_constructs {context : Context} {enter : BodyWalk} {node : Node}
    {parent : String} {recorder : Recorder} {construction : Construction}
    (constructs : Constructs context.program recorder parent node construction) :
    (visit context enter node parent recorder).timeline.events =
      recorder.timeline.events ++ (construction.own ++ construction.defaults ++
        construction.assigned
          (recorder.recordAll (construction.own ++ construction.defaults))).map Event.var := by
  cases constructs with
  | @object object definition declared =>
      rw [visit, declareObject, Program.class?_eq_some_iff.mpr declared]
      exact Construction.timeline_construct_of_own
        ⟨[objectRecord object parent], definition, _, object.args⟩ rfl
  | @onHeap pointer _ definition isNew named declared =>
      have allocates : pointer.isNew := by
        rw [Program.ClassPointer.isNew, Program.isHeapAllocation, isNew, beq_self_eq_true]
      have found : pointer.allocatedClass.bind context.program.class? = some definition := by
        rw [Program.ClassPointer.allocatedClass, named]
        exact Program.class?_eq_some_iff.mpr declared
      rw [visit, declareClassPointer_of_isNew allocates, found]
      exact Construction.timeline_construct_of_own
        ⟨[instancePointer pointer parent recorder.nextHeap,
          instanceEntity pointer recorder.nextHeap], definition, _, pointer.args⟩ rfl

/-- A statement that constructs an object opens no scope. -/
theorem Constructs.isPlain {program : Program} {node : Node} {parent : String}
    {recorder : Recorder} {construction : Construction}
    (constructs : Constructs program recorder parent node construction) :
    Recorder.isPlain node := by
  cases constructs with
  | object => rfl
  | onHeap => rfl

/-- Looking a key up among pairs is a search for what the pair was made from. -/
theorem lookup_map {Thing : Type} (things : List Thing) (key : Thing → String)
    (value : Thing → Json) (name : String) :
    (things.map fun thing => (key thing, value thing)).lookup name =
      (things.find? (key · = name)).map value := by
  induction things with
  | nil => rfl
  | cons thing rest inductionHypothesis =>
      by_cases named : key thing = name
      · simp [named]
      · simp [List.lookup_cons, named, beq_false_of_ne (Ne.symm named), inductionHypothesis]

namespace Construction

variable (construction : Construction) (recorder : Recorder)

/-- The constructor knows its parameters by name, the last one of a name. -/
theorem lookup_constructorValues {run : Member Node} (runs : construction.run? = some run)
    (name : String) :
    (recorder.constructorValues run.params construction.args).lookup name =
      (construction.parameter? name).map fun parameter =>
        knownValue recorder.timeline.events
          (construction.argument? parameter.1 parameter.2) := by
  simp only [constructorValues, resolve_fst_eq]
  rw [← List.map_reverse, parameter?, runs]
  exact lookup_map _ (fun parameter : Parameter × Nat => parameter.1.name) _ name

/-- The name of a parameter stands for its argument. -/
theorem assignedField_value {run : Member Node} (runs : construction.run? = some run)
    (field : String) (value : Json) (line : Option Nat) :
    (assignedField construction.definition run construction.site
      (recorder.constructorValues run.params construction.args) field value line).value =
        construction.assignedValue recorder.timeline.events value := by
  simp only [assignedField, assignedValue, construction.lookup_constructorValues recorder runs]
  cases value.identifier? with
  | none => rfl
  | some name =>
      simp only [Option.bind_some]
      cases construction.parameter? name <;> rfl

/-- The defaults, member by member. -/
theorem map_defaults :
    construction.defaults.map (fun record => (record.key, record.value)) =
      (construction.definition.members.filter (·.kind = .variable)).map (fun member =>
        ((construction.site.scope, qualified construction.site.object member.name),
          member.defaultValue)) := by
  rw [defaults, List.map_map]
  rfl

/-- What the constructor assigns, statement by statement. -/
theorem map_assigned :
    (construction.assigned recorder).map (fun record => (record.key, record.value)) =
      construction.assignments.map (fun assignment =>
        ((construction.site.scope, qualified construction.site.object assignment.1),
          construction.assignedValue recorder.timeline.events assignment.2)) := by
  unfold assigned assignments
  cases runs : construction.run? with
  | none => rfl
  | some run =>
      have values := construction.assignedField_value recorder runs
      simp only [assignedFields, Option.map_some, Option.getD_some, List.map_filterMap,
        Option.map_map]
      refine List.filterMap_congr fun statement _ => ?_
      rw [assignedIn?_eq]
      cases fieldAssignment? statement with
      | none => rfl
      | some assignment =>
          obtain ⟨field, value, line⟩ := assignment
          exact congrArg some (Prod.ext rfl (values field value line))

end Construction

section Fields

variable {Thing : Type} {entries : List Record} {things : List Thing} {scope object : String}
  {name : Thing → String} {value : Thing → Json}

/-- Records that are made in one scope belong to it. -/
theorem scope_of_map_eq
    (same : entries.map (fun record => (record.key, record.value)) =
      things.map (fun thing => ((scope, qualified object (name thing)), value thing)))
    {entry : Record} (member : entry ∈ entries) : entry.scope = scope := by
  have paired : (entry.key, entry.value) ∈
      entries.map (fun record => (record.key, record.value)) :=
    List.mem_map.mpr ⟨entry, member, rfl⟩
  rw [same] at paired
  obtain ⟨_, _, pair⟩ := List.mem_map.mp paired
  exact congrArg (·.1.1) pair.symm

/-- The last record of a field comes from the last thing that makes a record of it. -/
theorem find?_value_of_map_eq
    (same : entries.map (fun record => (record.key, record.value)) =
      things.map (fun thing => ((scope, qualified object (name thing)), value thing)))
    (field : String) :
    (entries.reverse.find? (·.name = qualified object field)).map (·.value) =
      (things.reverse.find? (name · = field)).map value := by
  let named (pair : (String × String) × Json) : Bool := pair.1.2 = qualified object field
  calc (entries.reverse.find? (·.name = qualified object field)).map (·.value)
      = ((entries.map (fun record => (record.key, record.value))).reverse.find? named).map
          Prod.snd := by
        rw [← List.map_reverse, List.find?_map, Option.map_map]
        rfl
    _ = (things.reverse.find? (name · = field)).map value := by
        rw [same, ← List.map_reverse, List.find?_map, Option.map_map]
        simp [Function.comp_def, named, qualified_inj]

end Fields

namespace Construction

variable (construction : Construction) (recorder : Recorder)

/-- The last record of a field has the value that the field ends up with. -/
theorem find?_fields (field : String) :
    ((construction.defaults ++ construction.assigned recorder).reverse.find?
      (·.name = qualified construction.site.object field)).map (·.value) =
        construction.finalValue? recorder.timeline.events field := by
  rw [List.reverse_append, List.find?_append, Option.map_or,
    find?_value_of_map_eq (construction.map_assigned recorder),
    find?_value_of_map_eq construction.map_defaults]
  rfl

/-- All fields are in the scope of the object. -/
theorem scope_of_mem_fields {entry : Record}
    (member : entry ∈ construction.defaults ++ construction.assigned recorder) :
    entry.scope = construction.site.scope := by
  rcases List.mem_append.mp member with isDefault | isAssigned
  · exact scope_of_map_eq construction.map_defaults isDefault
  · exact scope_of_map_eq (construction.map_assigned recorder) isAssigned

end Construction

end Recorder

namespace Snapshot

/-- Records of other keys do not replace a record. -/
theorem mem_foldl_of_forall_ne {record : Record} {records later : List Record}
    (member : record ∈ records) (otherKeys : ∀ entry ∈ later, record.key ≠ entry.key) :
    record ∈ (later.map Event.var).foldl applyRecord records := by
  induction later generalizing records with
  | nil => exact member
  | cons entry rest inductionHypothesis =>
      have kept := mem_putRecord_of_ne member (otherKeys entry List.mem_cons_self)
      exact inductionHypothesis kept fun other isLater =>
        otherKeys other (List.mem_cons_of_mem _ isLater)

/-- A replay that ends with records leaves the last one of each key as it was recorded. -/
theorem mem_recordsAfter_of_last {events : List Event} {earlier later : List Record}
    {record : Record} (otherKeys : ∀ entry ∈ later, record.key ≠ entry.key) :
    record ∈ recordsAfter (events ++ (earlier ++ record :: later).map Event.var) := by
  have put := mem_putRecord_self record (recordsAfter (events ++ earlier.map Event.var))
  have kept := mem_foldl_of_forall_ne put otherKeys
  simpa [recordsAfter, applyRecord] using kept

end Snapshot

/-- Where records of one scope end a part of a timeline, the snapshot shows the last one of each
name, if it shows the scope. -/
theorem Timeline.get?_of_last {timeline : Timeline} {before : List Event} {entries : List Record}
    {scope name : String} {record : Record}
    (begins : before ++ entries.map Event.var <+: timeline.events)
    (sameScope : ∀ entry ∈ entries, entry.scope = scope)
    (last : entries.reverse.find? (·.name = name) = some record) :
    let step := (before ++ entries.map Event.var).length
    (scope = heapScope ∨ scope ∈ (timeline.snapshot step).stack) →
      (timeline.snapshot step).get? scope name = some record := by
  intro step shown
  obtain ⟨isNamed, later, earlier, split, otherNames⟩ := List.find?_eq_some_iff_append.mp last
  have isNamed : record.name = name := by simpa using isNamed
  have entriesSplit : entries = earlier.reverse ++ record :: later.reverse := by
    rw [← List.reverse_reverse entries, split]
    simp
  have isScoped : record.scope = scope := sameScope record (by simp [entriesSplit])
  have otherKeys : ∀ entry ∈ later.reverse, record.key ≠ entry.key := by
    intro entry isLater sameKey
    have otherName : entry.name ≠ name := by simpa using otherNames entry (by simpa using isLater)
    exact otherName ((congrArg Prod.snd sameKey).symm.trans isNamed)
  have replayed : record ∈ Snapshot.recordsAfter (timeline.events.take step) := by
    rw [← List.prefix_iff_eq_take.mp begins, entriesSplit]
    exact Snapshot.mem_recordsAfter_of_last otherKeys
  rw [← isScoped, ← isNamed]
  refine get?_of_mem_live (mem_snapshot_live.mpr ⟨replayed, ?_⟩)
  rwa [isScoped]

namespace Program

open Recorder (Construction Constructs Context bodyWalk)

/-- The construction of every object that a program visits, in automatic storage or on the heap,
whose class is declared at the top level. After the records of the object come one record for
each data member of the class in order, with its default, and then one for each statement of the
constructor that assigns a field, all in the scope of the object and under its name. Names of
the constructor's parameters stand for their arguments, as these are known before the first of
the statements. The last record of a field has what the constructor assigns to it last, and
otherwise the last default; if the scope is the heap or on the stack, the snapshot right after
the statement shows this value. -/
theorem object_construction {program : Program} {naming : ScopeNaming} {node : Node}
    {scope : String} {recorder : Recorder} {construction : Construction}
    (visited : program.Visits naming node scope recorder)
    (constructs : Constructs program recorder scope node construction) :
    let timeline := program.timeline naming
    let context : Context := ⟨program, naming⟩
    let after := (Recorder.visit context (bodyWalk context 0) node scope recorder).timeline
    let site := construction.site
    let dataMembers := construction.definition.members.filter (·.kind = .variable)
    after.events <+: timeline.events ∧
      ∃ defaults assigned : List Record,
        let log := recorder.timeline.events ++ (construction.own ++ defaults).map Event.var
        after.events = log ++ assigned.map Event.var ∧
        defaults.map (fun record => ((record.scope, record.name), record.value)) =
          dataMembers.map (fun member =>
            ((site.scope, site.object ++ "." ++ member.name), member.defaultValue)) ∧
        assigned.map (fun record => ((record.scope, record.name), record.value)) =
          construction.assignments.map (fun assignment =>
            ((site.scope, site.object ++ "." ++ assignment.1),
              construction.assignedValue log assignment.2)) ∧
        ∀ field,
          ((defaults ++ assigned).reverse.find? (·.name = site.object ++ "." ++ field)).map
            (·.value) = construction.finalValue? log field ∧
          ∀ value, construction.finalValue? log field = some value →
            (site.scope = "heap" ∨ site.scope ∈ (timeline.snapshot after.length).stack) →
              ((timeline.snapshot after.length).get? site.scope
                (site.object ++ "." ++ field)).map (·.value) = some value := by
  intro timeline context after site dataMembers
  let seeded := recorder.recordAll (construction.own ++ construction.defaults)
  have logged : recorder.timeline.events ++
      (construction.own ++ construction.defaults).map Event.var = seeded.timeline.events :=
    (Recorder.timeline_recordAll _ _).symm
  have recorded : after.events = _ := Recorder.timeline_visit_of_constructs constructs
  have begins : after.events <+: timeline.events := visited.timeline_of_plain constructs.isPlain
  refine ⟨begins, construction.defaults, construction.assigned seeded, ?_⟩
  rw [logged]
  refine ⟨?_, construction.map_defaults, construction.map_assigned seeded, ?_⟩
  · rw [← logged, List.append_assoc, ← List.map_append]
    exact recorded
  intro field
  have final := construction.find?_fields seeded field
  refine ⟨final, ?_⟩
  intro value isFinal shown
  obtain ⟨record, isLast, isValue⟩ := Option.map_eq_some_iff.mp (final.trans isFinal)
  have split : after.events = recorder.timeline.events ++ construction.own.map Event.var ++
      (construction.defaults ++ construction.assigned seeded).map Event.var := by
    refine recorded.trans ?_
    simp [seeded]
  have found := Timeline.get?_of_last (split ▸ begins)
    (fun _ member => construction.scope_of_mem_fields seeded member) isLast
  rw [← split] at found
  exact (congrArg (Option.map Record.value) (found shown)).trans (congrArg some isValue)

/-- A class with members `x`, `y` and `z` and a constructor of parameters `a` and `b`, and a
pointer to a new instance. The arguments are given by name in the other order, the constructor
writes to `x` twice, and its write to another object is left out. It does not write to `z`, which
keeps its default. -/
theorem object_construction_named_arguments :
    let named (name : String) : Json := .obj [("name", .str name)]
    let member (kind : MemberKind) (name : String) (value : Json) : Member Node :=
      { kind, name, defaultValue := value, pointer := false, dataType := none, pointsTo := none
        scope := none, params := [], body := [], id := none, line := none }
    let assignment (name : String) (value : Json) : Node :=
      .assignment { name, value, scope := none, id := none, line := none }
    let memberAssignment (object field : String) (value : Json) : Node := .memberAssignment
      { object, member := field, value, scope := none, pointerAccess := true, line := none }
    let constructor : Member Node :=
      { member .parameterizedConstructor "C" .null with
        params := [⟨"a", none, none, none⟩, ⟨"b", none, none, none⟩]
        body := [assignment "x" (.int 5), memberAssignment "this" "y" (named "b"),
          memberAssignment "other" "y" (.int 9), assignment "x" (named "a")] }
    let definition : Class Node :=
      { name := "C"
        members := [member .variable "x" (.int 0), constructor, member .variable "y" (.int 0),
          member .variable "z" (.int 7)]
        line := none }
    let pointer : Node := .classPointer
      { name := "p", classType := some "C", allocatedType := none, allocation := some "new"
        scope := none, args := [⟨some "b", .int 2⟩, ⟨some "a", .int 1⟩], id := none, line := none }
    let program : Program := ⟨[.classDeclaration definition, pointer]⟩
    ∃ recorder construction, program.Visits .shared pointer globalScope recorder ∧
      Constructs program recorder globalScope pointer construction ∧
      (((program.timeline .shared).snapshot 12).get? heapScope "p_heap.x").map (·.value) =
        some (.int 1) ∧
      (((program.timeline .shared).snapshot 12).get? heapScope "p_heap.y").map (·.value) =
        some (.int 2) ∧
      (((program.timeline .shared).snapshot 12).get? heapScope "p_heap.z").map (·.value) =
        some (.int 7) := by
  intro named member assignment memberAssignment constructor definition pointer program
  have visited : program.Visits .shared pointer globalScope _ :=
    ⟨_, .head (.tail .program (.plain rfl)), rfl⟩
  have declared : program.Declares "C" definition := ⟨[], [pointer], rfl, rfl, by simp⟩
  have constructs (recorder : Recorder) : Constructs program recorder globalScope pointer _ :=
    .onHeap rfl rfl declared
  obtain ⟨_, _, _, _, _, _, fields⟩ := object_construction visited (constructs _)
  exact ⟨_, _, visited, constructs _, (fields "x").2 _ rfl (.inl rfl),
    (fields "y").2 _ rfl (.inl rfl), (fields "z").2 _ rfl (.inl rfl)⟩

end Program

end MemoryTimeline
