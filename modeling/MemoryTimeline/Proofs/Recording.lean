import MemoryTimeline.Recorder.Walk

/-!
# What a walk can record

`Recording before after` says everything that a walk can do to a recorder: record a
variable that allocates nothing, bind a parameter, record an allocation, write to a
member, count a block, and do all of this inside a scope that it closes again.
`Recording.run` derives it for whole programs, so an invariant of the recorder is
proved by one case for each of these actions and never by opening the walk.
-/

namespace MemoryTimeline

/-- A record that is not the entity of an allocation. -/
structure Record.Unallocated (record : Record) : Prop where
  kind : record.kind ≠ .heap
  allocation : record.allocation = none
  heap : record.heap = none

/-- A record that has no part in any allocation: it is the entity of none, and points to
none. -/
structure Record.Ordinary (record : Record) : Prop extends record.Unallocated where
  unlinked : ∀ pointee, record.pointee = some pointee → pointee.heap = none

/-- The two records of one allocation: a pointer, and the entity named for it. -/
structure AllocationPair (heap : HeapId) (pointer entity : Record) : Prop where
  pointerKind : pointer.kind = .pointer
  pointerUnallocated : pointer.Unallocated
  pointee : pointer.pointee = some { name := heapName pointer.name, heap := some heap }
  entityName : entity.name = heapName pointer.name
  entityScope : entity.scope = heapScope
  entityKind : entity.kind = .heap ∨ entity.kind = .object
  allocation : entity.allocation = some "new"
  entityHeap : entity.heap = some heap
  entityPointee : entity.pointee = none

namespace Recorder

/-- The actions of a walk, from the recorder before to the recorder after. -/
inductive Recording : Recorder → Recorder → Prop where
  | refl {recorder} : Recording recorder recorder
  | trans {before middle after} (first : Recording before middle)
      (second : Recording middle after) : Recording before after
  | ordinary {recorder entry} (ordinary : entry.Ordinary) :
      Recording recorder (recorder.record entry)
  /-- A parameter takes over the pointee of a record before it. -/
  | parameter {recorder entry} (unallocated : entry.Unallocated)
      (kind : entry.kind = .parameter)
      (copied : ∀ pointee, entry.pointee = some pointee →
        ∃ source, .var source ∈ recorder.history ∧ source.pointee = some pointee) :
      Recording recorder (recorder.record entry)
  | allocation {recorder pointer entity}
      (pair : AllocationPair recorder.nextHeap pointer entity) :
      Recording recorder (((recorder.allocate pointer.name).2.record pointer).record entity)
  | memberWrite {recorder write}
      (target : write.target = recorder.allocations.lookup write.object)
      (pointee : write.pointee = write.value.identifier?.bind recorder.allocation?) :
      Recording recorder (recorder.emit (.memberWrite write))
  | countBlock {recorder} (kind : BlockKind) :
      Recording recorder { recorder with blocks := recorder.blocks.bump kind }
  | scope {before after} (scope : String) (line : Option Nat)
      (body : Recording (before.emit (.push scope line)) after) :
      Recording before (after.emit (.pop scope none))

/-- A walk of bodies that does nothing but record. -/
def BodyWalk.Records (enter : BodyWalk) : Prop :=
  ∀ body scope recorder, Recording recorder (enter body scope recorder)

/-- A record without a pointee points to no allocation. -/
theorem unlinked_of_none {record : Record} (absent : record.pointee = none) :
    ∀ pointee, record.pointee = some pointee → pointee.heap = none := by
  intro pointee found
  rw [absent] at found
  contradiction

/-- A pointee that a document gives by name belongs to no allocation. -/
theorem unlinked_of_named {record : Record} {name : Option String}
    (named : record.pointee = name.map namedPointee) :
    ∀ pointee, record.pointee = some pointee → pointee.heap = none := by
  intro pointee found
  rw [named, Option.map_eq_some_iff] at found
  obtain ⟨_, _, rfl⟩ := found
  rfl

theorem fieldKind_ne_heap (isPointer : Bool) : fieldKind isPointer ≠ .heap := by
  cases isPointer <;> decide

/-- A declarator alone is no block of the heap. -/
theorem declaredKind_ne_heap (declarator : Program.Declarator) :
    declaredKind declarator ≠ .heap := by
  unfold declaredKind
  split
  · decide
  · split <;> decide

/-- The record of a declarator has no part in an allocation. -/
theorem declaredRecord_ordinary (declarator : Program.Declarator) (scope : String)
    (line : Option Nat) : (declaredRecord declarator scope line).Ordinary :=
  ⟨⟨declaredKind_ne_heap declarator, rfl, rfl⟩, unlinked_of_named rfl⟩

/-- Nor has that of a member of a class, which may point to a name but to no allocation. -/
theorem memberRecord_ordinary (definition : Program.Class Program.Node)
    (member : Program.Member Program.Node) : (memberRecord definition member).Ordinary :=
  ⟨⟨fieldKind_ne_heap _, rfl, rfl⟩, unlinked_of_named rfl⟩

/-- The same is true of a field that has the default of its class. -/
theorem fieldRecord_ordinary (site : Site) (member : Program.Member Program.Node) :
    (fieldRecord site member).Ordinary :=
  ⟨⟨fieldKind_ne_heap _, rfl, rfl⟩, unlinked_of_named rfl⟩

/-- A field that a constructor assigns points to nothing. -/
theorem assignedField_ordinary (definition : Program.Class Program.Node)
    (run : Program.Member Program.Node) (site : Site) (values : List (String × Json))
    (field : String) (value : Json) (line : Option Nat) :
    (assignedField definition run site values field value line).Ordinary :=
  ⟨⟨fieldKind_ne_heap _, rfl, rfl⟩, unlinked_of_none rfl⟩

/-- A parameter that no call binds points to nothing. -/
theorem unboundParameter_ordinary (scope : String) (line : Option Nat)
    (parameter : Program.Parameter) : (unboundParameter scope line parameter).Ordinary :=
  ⟨⟨nofun, rfl, rfl⟩, unlinked_of_none rfl⟩

/-- A declarator that allocates makes the records of one allocation. -/
theorem blockPair (declarator : Program.Declarator) (scope : String) (line : Option Nat)
    (heap : HeapId) :
    AllocationPair heap (pointerRecord declarator scope line heap)
      (blockRecord declarator line heap) where
  pointerKind := rfl
  pointerUnallocated := ⟨nofun, rfl, rfl⟩
  pointee := rfl
  entityName := rfl
  entityScope := rfl
  entityKind := .inl rfl
  allocation := rfl
  entityHeap := rfl
  entityPointee := rfl

/-- The record of a pointer that comes with a new instance. -/
def instancePointer (pointer : Program.ClassPointer) (parent : String) (heap : HeapId) :
    Record where
  name := pointer.name
  value := .null
  scope := scopeOf pointer.scope parent
  kind := .pointer
  pointee := some { name := pointer.name ++ "_heap", heap := some heap }
  classType := pointer.allocatedClass
  id := pointer.id
  line := pointer.line

/-- The record of the instance that comes with a pointer. -/
def instanceEntity (pointer : Program.ClassPointer) (heap : HeapId) : Record where
  name := pointer.name ++ "_heap"
  value := (pointer.allocatedClass.map Json.str).getD .null
  scope := heapScope
  kind := .object
  classType := pointer.allocatedClass
  allocation := some "new"
  heap := some heap
  id := pointer.id
  line := pointer.line

/-- A pointer that comes with a new instance makes the records of one allocation. -/
theorem instancePair (pointer : Program.ClassPointer) (parent : String) (heap : HeapId) :
    AllocationPair heap (instancePointer pointer parent heap) (instanceEntity pointer heap) where
  pointerKind := rfl
  pointerUnallocated := ⟨nofun, rfl, rfl⟩
  pointee := rfl
  entityName := rfl
  entityScope := rfl
  entityKind := .inr rfl
  allocation := rfl
  entityHeap := rfl
  entityPointee := rfl

/-- A pointer to a new instance records both, and the fields of the instance if its class
is declared. -/
theorem declareClassPointer_of_isNew {program : Program} {pointer : Program.ClassPointer}
    {parent : String} {recorder : Recorder} (isNew : pointer.isNew) :
    recorder.declareClassPointer program pointer parent =
      let allocated := ((recorder.allocate pointer.name).2.record
        (instancePointer pointer parent recorder.nextHeap)).record
          (instanceEntity pointer recorder.nextHeap)
      match pointer.allocatedClass.bind program.class? with
      | some definition =>
        allocated.construct definition ⟨heapName pointer.name, heapScope, pointer.line⟩
          pointer.args
      | none => allocated := by
  rw [declareClassPointer, if_pos isNew]
  rfl

/-- The latest record of a name is one of the history. -/
theorem var_mem_of_latest? {recorder : Recorder} {name : String} {source : Record}
    (found : recorder.latest? name = some source) : .var source ∈ recorder.history := by
  obtain ⟨event, member, selected⟩ := List.exists_of_findSome?_eq_some found
  obtain ⟨recorded, _⟩ := Option.filter_eq_some_iff.mp selected
  cases event with
  | var record =>
      obtain rfl := Option.some.inj recorded
      exact member
  | push => contradiction
  | pop => contradiction
  | memberWrite => contradiction

/-- The pointee of an argument is that of a record of the history. -/
theorem resolve_pointee {recorder : Recorder} {argument : Option Json} {pointee : Pointee}
    (resolved : (recorder.resolve argument).2 = some pointee) :
    ∃ source, .var source ∈ recorder.history ∧ source.pointee = some pointee := by
  unfold resolve at resolved
  split at resolved
  · contradiction
  · split at resolved
    · split at resolved
      next source found => exact ⟨source, var_mem_of_latest? found, resolved⟩
      · contradiction
    · split at resolved <;> contradiction

namespace Recording

/-- Ordinary records can be recorded in a row. -/
theorem recordAll {entries : List Record} (ordinary : ∀ entry ∈ entries, entry.Ordinary)
    (recorder : Recorder) : Recording recorder (recorder.recordAll entries) := by
  induction entries generalizing recorder with
  | nil => exact .refl
  | cons entry rest inductionHypothesis =>
      have restOrdinary := fun later (member : later ∈ rest) => ordinary later (by simp [member])
      exact .trans (.ordinary (ordinary entry (by simp))) (inductionHypothesis restOrdinary _)

/-- Things that each make an ordinary record can be recorded in a row. -/
theorem recordAll_map {Thing : Type} {toRecord : Thing → Record}
    (ordinary : ∀ thing, (toRecord thing).Ordinary) (things : List Thing) (recorder : Recorder) :
    Recording recorder (recorder.recordAll (things.map toRecord)) := by
  apply recordAll
  intro entry member
  obtain ⟨thing, _, rfl⟩ := List.mem_map.mp member
  exact ordinary thing

/-- One declared name is an allocation or an ordinary variable. -/
theorem declareName (statement : Program.Declaration) (parent : String)
    (declarator : Program.Declarator) (recorder : Recorder) :
    Recording recorder (recorder.declareName statement parent declarator) := by
  unfold Recorder.declareName
  split
  · exact .allocation (blockPair declarator _ _ _)
  · exact .ordinary (declaredRecord_ordinary declarator _ _)

/-- A declaration records its declarators one after the other. -/
theorem declare (statement : Program.Declaration) (parent : String) (recorder : Recorder) :
    Recording recorder (recorder.declare statement parent) := by
  unfold Recorder.declare
  induction statement.declarators generalizing recorder with
  | nil => exact .refl
  | cons declarator _ inductionHypothesis =>
      exact .trans (declareName statement parent declarator recorder) (inductionHypothesis _)

theorem assign (statement : Program.Assignment) (parent : String) (recorder : Recorder) :
    Recording recorder (recorder.assign statement parent) :=
  .ordinary ⟨⟨nofun, rfl, rfl⟩, unlinked_of_none rfl⟩

theorem assignMember (statement : Program.MemberAssignment) (parent : String)
    (recorder : Recorder) : Recording recorder (recorder.assignMember statement parent) :=
  .memberWrite rfl rfl

theorem declareClass (definition : Program.Class Program.Node) (recorder : Recorder) :
    Recording recorder (recorder.declareClass definition) :=
  recordAll_map (memberRecord_ordinary definition) definition.dataMembers recorder

/-- The fields of an object, from the defaults and from the constructor alike, are
ordinary variables. -/
theorem construct (definition : Program.Class Program.Node) (site : Site)
    (args : List Program.Argument) (recorder : Recorder) :
    Recording recorder (recorder.construct definition site args) := by
  have defaults := recordAll_map (fieldRecord_ordinary site) definition.dataMembers recorder
  unfold Recorder.construct
  split
  · refine .trans defaults (recordAll ?_ _)
    intro entry member
    obtain ⟨statement, _, assigned⟩ := List.mem_filterMap.mp member
    obtain ⟨⟨field, value, line⟩, _, rfl⟩ := Option.map_eq_some_iff.mp assigned
    exact assignedField_ordinary definition _ site _ field value line
  · exact defaults

/-- An object records itself, and its fields if its class is declared. -/
theorem declareObject (program : Program) (object : Program.ObjectDeclaration) (parent : String)
    (recorder : Recorder) :
    Recording recorder (recorder.declareObject program object parent) := by
  unfold Recorder.declareObject
  cases program.class? object.classType with
  | none => exact .ordinary ⟨⟨nofun, rfl, rfl⟩, unlinked_of_none rfl⟩
  | some definition =>
      refine .trans (.ordinary ?_) (construct definition _ _ _)
      exact ⟨⟨nofun, rfl, rfl⟩, unlinked_of_none rfl⟩

/-- A pointer to a class instance is an allocation, with the fields of the instance after
it, or an ordinary variable. -/
theorem declareClassPointer (program : Program) (pointer : Program.ClassPointer)
    (parent : String) (recorder : Recorder) :
    Recording recorder (recorder.declareClassPointer program pointer parent) := by
  by_cases isNew : pointer.isNew
  · rw [declareClassPointer_of_isNew isNew]
    have allocated := Recording.allocation (instancePair pointer parent recorder.nextHeap)
    split
    · exact .trans allocated (construct _ _ _ _)
    · exact allocated
  · rw [Recorder.declareClassPointer, if_neg isNew]
    exact .ordinary ⟨⟨nofun, rfl, rfl⟩, unlinked_of_none rfl⟩

/-- Each argument is looked up in the history as it stands, the parameters before it
included. -/
theorem bindParameters (scope : String) (line : Option Nat) (params : List Program.Parameter)
    (args : List Program.Argument) (recorder : Recorder) :
    Recording recorder (Recorder.bindParameters scope line params args recorder) := by
  induction params generalizing args recorder with
  | nil => exact .refl
  | cons parameter rest inductionHypothesis =>
      refine .trans (.parameter ?_ ?_ ?_) (inductionHypothesis args.tail _)
      · exact ⟨nofun, rfl, rfl⟩
      · rfl
      · intro pointee resolved
        exact resolve_pointee resolved

/-- Carrying out an action in a scope records what the action records. -/
theorem inScope {action : Recorder → Recorder} (scope : String) (line : Option Nat)
    (body : ∀ recorder, Recording recorder (action recorder)) (recorder : Recorder) :
    Recording recorder (recorder.inScope scope line action) :=
  .scope scope line (body _)

/-- A block records what its body does between a push and a pop of its scope. -/
theorem inBlock {action : String → Recorder → Recorder} (naming : ScopeNaming)
    (kind : BlockKind) (line : Option Nat)
    (body : ∀ scope recorder, Recording recorder (action scope recorder)) (recorder : Recorder) :
    Recording recorder (recorder.inBlock naming kind line action) :=
  .trans (.countBlock kind) (inScope _ line (body _) _)

/-- The main function records its parameters, which no call binds, and what its body does. -/
theorem enterMain {enter : BodyWalk} (entered : enter.Records)
    (function : Program.Function Program.Node) (recorder : Recorder) :
    Recording recorder (recorder.enterMain enter function) := by
  unfold Recorder.enterMain
  apply inScope
  intro recorder
  exact .trans (recordAll_map (unboundParameter_ordinary _ _) function.params recorder)
    (entered function.body _ _)

/-- A call records its parameters and what the body of its callee does, or its own body if there is
no callee. -/
theorem enterFunction {enter : BodyWalk} (entered : enter.Records) (program : Program)
    (call : Program.FunctionCall Program.Node) (recorder : Recorder) :
    Recording recorder (recorder.enterFunction program enter call) := by
  unfold Recorder.enterFunction
  apply inScope
  intro recorder
  cases program.function? call.name with
  | none => exact entered call.body _ _
  | some callee => exact .trans (bindParameters _ _ _ _ _) (entered callee.body _ _)

/-- The call of a method does so too, and opens an empty scope if the method is not found. -/
theorem enterMethod {enter : BodyWalk} (entered : enter.Records) (program : Program)
    (call : Program.MethodCall) (recorder : Recorder) :
    Recording recorder (recorder.enterMethod program enter call) := by
  unfold Recorder.enterMethod
  apply inScope
  intro recorder
  cases calledMethod? program call recorder with
  | none => exact .refl
  | some method => exact .trans (bindParameters _ _ _ _ _) (entered method.body _ _)

mutual

/-- Walking one statement records. The three statements that enter a body rely on what
the walk of bodies records; blocks and unknown statements recurse into their children. -/
theorem visit {enter : BodyWalk} (entered : enter.Records) (context : Context)
    (node : Program.Node) (parent : String) (recorder : Recorder) :
    Recording recorder (Recorder.visit context enter node parent recorder) := by
  cases node with
  | declaration statement => exact declare statement parent recorder
  | assignment statement => exact assign statement parent recorder
  | memberAssignment statement => exact assignMember statement parent recorder
  | classDeclaration definition => exact declareClass definition recorder
  | objectDeclaration object => exact declareObject context.program object parent recorder
  | functionDeclaration _ => exact .refl
  | mainFunction function => exact enterMain entered function recorder
  | functionCall call => exact enterFunction entered context.program call recorder
  | methodCall call => exact enterMethod entered context.program call recorder
  | classPointer pointer => exact declareClassPointer context.program pointer parent recorder
  | ifStatement thenBody elseBody line =>
      exact .trans (visitBlock entered context .thenBranch line thenBody recorder)
        (visitBlock entered context .elseBranch line elseBody _)
  | whileStatement body line => exact visitBlock entered context .loop line body recorder
  | unknown kind body members =>
      simp only [Recorder.visit]
      split
      · exact walk entered context members parent recorder
      · exact walk entered context body parent recorder

/-- Walking a block records, whether or not the block is there. -/
theorem visitBlock {enter : BodyWalk} (entered : enter.Records) (context : Context)
    (kind : BlockKind) (line : Option Nat) (body : Option (List Program.Node))
    (recorder : Recorder) :
    Recording recorder (Recorder.visitBlock context enter kind line body recorder) := by
  cases body with
  | none => exact .refl
  | some body =>
      refine inBlock context.naming kind line (fun scope recorder => ?_) recorder
      exact walk entered context body scope recorder

/-- Walking statements in order records. -/
theorem walk {enter : BodyWalk} (entered : enter.Records) (context : Context)
    (nodes : List Program.Node) (parent : String) (recorder : Recorder) :
    Recording recorder (Recorder.walk context enter nodes parent recorder) := by
  cases nodes with
  | nil => exact .refl
  | cons node rest =>
      exact .trans (visit entered context node parent recorder)
        (walk entered context rest parent _)

end

/-- Callee bodies are walked like any other statements, however many more of them may be
entered. -/
theorem bodyWalk (context : Context) (budget : Nat) :
    (Recorder.bodyWalk context budget).Records := by
  intro body scope recorder
  induction budget generalizing body scope recorder with
  | zero => exact .refl
  | succ budget inductionHypothesis => exact walk inductionHypothesis context body scope recorder

/-- A whole program records after the event that opens the global scope. -/
theorem run (context : Context) :
    Recording (empty.emit (.push globalScope none)) (Recorder.run context) :=
  walk (bodyWalk context maxCallDepth) context context.program.nodes globalScope _

end Recording

end Recorder

end MemoryTimeline
