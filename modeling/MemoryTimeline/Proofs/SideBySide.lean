import MemoryTimeline.Proofs.Recording
import MemoryTimeline.Proofs.WalkRules

/-!
# Recording side by side

No decision of a walk depends on a scope: values, classes and allocations are looked up by
name, in any scope. So two recorders that differ in scopes alone (`Alike`) go on to record
the same, apart from scopes. `SideBySide` says everything that a plain statement or the
binding of parameters does to two such recorders, and it opens and closes no scope. A plain
statement records in the scope around it or in one of its own (`Program.Node.OwnScope`),
parameters are recorded in the scope of their frame.
-/

namespace MemoryTimeline

/-- The same event in another scope. -/
def Event.withScope (scope : String) : Event → Event
  | .push _ line => .push scope line
  | .pop _ line => .pop scope line
  | .var record => .var { record with scope }
  | .memberWrite write => .memberWrite { write with scope }

@[simp] theorem Event.withScope_withScope (event : Event) (outer inner : String) :
    (event.withScope inner).withScope outer = event.withScope outer := by
  cases event <;> rfl

@[simp] theorem Event.scope_withScope (event : Event) (scope : String) :
    (event.withScope scope).scope = scope := by
  cases event <;> rfl

/-- The record of an event moves to the other scope with it. -/
theorem Event.record?_withScope (event : Event) (scope : String) :
    (event.withScope scope).record? = event.record?.map fun record => { record with scope } := by
  cases event <;> rfl

namespace Program

/-- The scopes that a node states, for itself, for its declarators or for its members. -/
def Node.statedScopes : Node → List String
  | .declaration statement => statement.scope.toList ++ statement.declarators.filterMap (·.scope)
  | .assignment statement => statement.scope.toList
  | .memberAssignment statement => statement.scope.toList
  | .classDeclaration definition => definition.members.filterMap (·.scope)
  | .objectDeclaration object => object.scope.toList
  | .functionCall call => call.scope.toList
  | .methodCall call => call.scope.toList
  | .classPointer pointer => pointer.scope.toList
  | _ => []

/-- The scopes that a node brings with it. An empty scope counts as none, and the mark of a
function is dropped. -/
inductive Node.OwnScope : Node → String → Prop where
  | heap {node} : OwnScope node heapScope
  | className {definition} : OwnScope (.classDeclaration definition) definition.name
  | stated {node scope} (states : scope ∈ node.statedScopes) (given : scope ≠ "") :
      OwnScope node (withoutFunctionMark scope)

end Program

namespace Recorder

/-- Recorders that differ at most in the scopes of their events and in the blocks that they
have counted. -/
structure Alike (first second : Recorder) : Prop where
  history : first.history.map (Event.withScope "") = second.history.map (Event.withScope "")
  nextHeap : first.nextHeap = second.nextHeap
  allocations : first.allocations = second.allocations

namespace Alike

variable {first second : Recorder}

theorem refl (recorder : Recorder) : Alike recorder recorder := ⟨rfl, rfl, rfl⟩

/-- Events that differ in their scopes alone keep recorders alike. -/
theorem emit (alike : Alike first second) (event : Event) (scope : String) :
    Alike (first.emit event) (second.emit (event.withScope scope)) where
  history := by simp [Recorder.emit, alike.history]
  nextHeap := alike.nextHeap
  allocations := alike.allocations

/-- Allocations are numbered alike, since scopes have no part in it. -/
theorem allocate (alike : Alike first second) (pointer : String) :
    Alike (first.allocate pointer).2 (second.allocate pointer).2 where
  history := alike.history
  nextHeap := congrArg (· + 1) alike.nextHeap
  allocations := by simp [Recorder.allocate, alike.allocations, alike.nextHeap]

/-- What is searched for without regard to scopes is found in both. -/
theorem findSome?_eq {Result : Type} (alike : Alike first second) {select : Event → Option Result}
    (unscoped : ∀ event, select (event.withScope "") = select event) :
    first.history.findSome? select = second.history.findSome? select := by
  have searched (history : List Event) :
      (history.map (Event.withScope "")).findSome? select = history.findSome? select := by
    rw [List.findSome?_map]
    exact congrArg (history.findSome? ·) (funext unscoped)
  rw [← searched, alike.history, searched]

/-- The latest records of a name have the same value and the same pointee. -/
theorem latest?_eq (alike : Alike first second) (name : String) :
    (first.latest? name).map (fun record => (record.value, record.pointee)) =
      (second.latest? name).map fun record => (record.value, record.pointee) := by
  unfold latest?
  rw [List.map_findSome?, List.map_findSome?]
  apply alike.findSome?_eq
  intro event
  simp only [Function.comp, Event.record?_withScope]
  cases event.record? with
  | none => rfl
  | some record =>
      simp only [Option.map_some, Option.filter_some]
      split <;> rfl

/-- A name has the same class for both. -/
theorem classOf?_eq (alike : Alike first second) (name : String) :
    first.classOf? name = second.classOf? name := by
  apply alike.findSome?_eq
  intro event
  rw [Event.record?_withScope, Option.bind_map]
  rfl

/-- An argument stands for the same value and pointee for both. -/
theorem resolve_eq (alike : Alike first second) (argument : Option Json) :
    first.resolve argument = second.resolve argument := by
  cases argument with
  | none => rfl
  | some value =>
      simp only [resolve]
      cases value.identifier? with
      | none => rfl
      | some name =>
          have latest := alike.latest?_eq name
          simp only
          cases firstLatest : first.latest? name <;> cases secondLatest : second.latest? name <;>
            simp_all

/-- The parameters of a constructor have the same values for both. -/
theorem constructorValues_eq (alike : Alike first second) (params : List Program.Parameter)
    (args : List Program.Argument) :
    first.constructorValues params args = second.constructorValues params args := by
  unfold constructorValues
  simp only [alike.resolve_eq]

/-- A pointer name is bound to the same allocation for both. -/
theorem allocation?_eq (alike : Alike first second) :
    first.allocation? = second.allocation? := by
  funext pointer
  rw [allocation?, allocation?, alike.allocations]

/-- A statement opens the same frame for both. -/
theorem frame?_eq (alike : Alike first second) (program : Program) (node : Program.Node) :
    frame? program first node = frame? program second node := by
  cases node with
  | methodCall call =>
      have sameMethod : calledMethod? program call first = calledMethod? program call second := by
        rw [calledMethod?, calledMethod?, alike.classOf?_eq]
      rw [frame?, frame?, sameMethod]
  | _ => rfl

end Alike

/-- The actions of two recorders at a time, from the recorders `first` and `second`. They
record variables and member writes that are the same but for related scopes. -/
inductive SideBySide (related : String → String → Prop) (first second : Recorder) :
    Recorder → Recorder → Prop where
  | refl : SideBySide related first second first second
  | record {firstNow secondNow} (earlier : SideBySide related first second firstNow secondNow)
      (entry : Record) {scope : String} (scopes : related entry.scope scope) :
      SideBySide related first second (firstNow.record entry)
        (secondNow.record { entry with scope })
  | memberWrite {firstNow secondNow}
      (earlier : SideBySide related first second firstNow secondNow)
      (write : MemberWrite) {scope : String} (scopes : related write.scope scope) :
      SideBySide related first second (firstNow.emit (.memberWrite write))
        (secondNow.emit (.memberWrite { write with scope }))
  | allocate {firstNow secondNow} (earlier : SideBySide related first second firstNow secondNow)
      (pointer : String) :
      SideBySide related first second (firstNow.allocate pointer).2 (secondNow.allocate pointer).2

namespace SideBySide

variable {related : String → String → Prop} {first second : Recorder}

/-- Actions side by side can be followed by further ones. -/
theorem trans {firstNow secondNow firstLater secondLater : Recorder}
    (earlier : SideBySide related first second firstNow secondNow)
    (later : SideBySide related firstNow secondNow firstLater secondLater) :
    SideBySide related first second firstLater secondLater := by
  induction later with
  | refl => exact earlier
  | record _ entry scopes inductionHypothesis => exact inductionHypothesis.record entry scopes
  | memberWrite _ write scopes inductionHypothesis =>
      exact inductionHypothesis.memberWrite write scopes
  | allocate _ pointer inductionHypothesis => exact inductionHypothesis.allocate pointer

/-- Recorders that are alike stay so. -/
theorem alike {firstNow secondNow : Recorder}
    (sideBySide : SideBySide related first second firstNow secondNow)
    (alike : Alike first second) : Alike firstNow secondNow := by
  induction sideBySide with
  | refl => exact alike
  | record _ entry _ inductionHypothesis => exact inductionHypothesis.emit (.var entry) _
  | memberWrite _ write _ inductionHypothesis =>
      exact inductionHypothesis.emit (.memberWrite write) _
  | allocate _ pointer inductionHypothesis => exact inductionHypothesis.allocate pointer

/-- Records can be recorded in a row, each in a related scope. -/
theorem recordAll {entries otherEntries : List Record} (scope : Record → String)
    (same : otherEntries = entries.map fun entry => { entry with scope := scope entry })
    (scopes : ∀ entry ∈ entries, related entry.scope (scope entry)) :
    SideBySide related first second (first.recordAll entries)
      (second.recordAll otherEntries) := by
  subst same
  induction entries generalizing first second with
  | nil => exact .refl
  | cons entry rest inductionHypothesis =>
      have restScopes := fun later (member : later ∈ rest) => scopes later (by simp [member])
      exact (SideBySide.refl.record entry (scopes entry (by simp))).trans
        (inductionHypothesis restScopes)

/-- A statement stands in related scopes if the scopes around it are related, and the one
that it states is related to itself. -/
theorem scopeOf_related {parent otherParent : String} (parents : related parent otherParent)
    {named : Option String}
    (stated : ∀ scope, named = some scope → scope ≠ "" →
      related (withoutFunctionMark scope) (withoutFunctionMark scope)) :
    related (scopeOf named parent) (scopeOf named otherParent) := by
  cases named with
  | none => exact parents
  | some scope =>
      simp only [scopeOf]
      split
      · exact parents
      next given => exact stated scope rfl (by simpa using given)

/-- The scope of an object under construction is passed on to its fields. -/
theorem assignedFields_eq_map (definition : Program.Class Program.Node)
    (run : Program.Member Program.Node) (object scope otherScope : String) (line : Option Nat)
    (values : List (String × Json)) :
    assignedFields definition run ⟨object, otherScope, line⟩ values =
      (assignedFields definition run ⟨object, scope, line⟩ values).map fun entry =>
        { entry with scope := otherScope } := by
  unfold assignedFields
  rw [List.map_filterMap]
  simp only [Option.map_map]
  rfl

/-- Both can record the same. -/
theorem recordAll_same {entries : List Record}
    (scopes : ∀ entry ∈ entries, related entry.scope entry.scope) :
    SideBySide related first second (first.recordAll entries) (second.recordAll entries) :=
  recordAll Record.scope (List.map_id' _).symm scopes

/-- The fields of an object are recorded in the scopes of the two sites. -/
theorem construct (alike : Alike first second) {scope otherScope : String}
    (scopes : related scope otherScope) (definition : Program.Class Program.Node)
    (object : String) (line : Option Nat) (args : List Program.Argument) :
    SideBySide related first second (first.construct definition ⟨object, scope, line⟩ args)
      (second.construct definition ⟨object, otherScope, line⟩ args) := by
  have defaults : SideBySide related first second
      (first.recordAll (definition.dataMembers.map (fieldRecord ⟨object, scope, line⟩)))
      (second.recordAll (definition.dataMembers.map (fieldRecord ⟨object, otherScope, line⟩))) := by
    refine recordAll (fun _ => otherScope) ?_ ?_
    · rw [List.map_map]
      rfl
    · intro entry member
      obtain ⟨_, _, rfl⟩ := List.mem_map.mp member
      exact scopes
  unfold Recorder.construct
  cases definition.constructor? (!args.isEmpty) with
  | none => exact defaults
  | some run =>
      refine defaults.trans (recordAll (fun _ => otherScope) ?_ ?_)
      · rw [(defaults.alike alike).constructorValues_eq]
        exact assignedFields_eq_map definition run object scope otherScope line _
      · intro entry member
        obtain ⟨_, _, assigned⟩ := List.mem_filterMap.mp member
        obtain ⟨_, _, rfl⟩ := Option.map_eq_some_iff.mp assigned
        exact scopes

section Statements

open Program (Node)

variable {parent otherParent : String}

/-- A declarator stands in its own scope, in that of its statement or in the one around it. -/
theorem declareName (alike : Alike first second) (parents : related parent otherParent)
    {statement : Program.Declaration} {declarator : Program.Declarator}
    (member : declarator ∈ statement.declarators)
    (own : ∀ scope, (Node.declaration statement).OwnScope scope → related scope scope) :
    SideBySide related first second (first.declareName statement parent declarator)
      (second.declareName statement otherParent declarator) := by
  have scopes : related (scopeOf (declarator.scope.or statement.scope) parent)
      (scopeOf (declarator.scope.or statement.scope) otherParent) := by
    refine scopeOf_related parents fun scope named given => own _ (.stated ?_ given)
    rcases Option.or_eq_some_iff.mp named with declared | ⟨_, stated⟩
    · exact List.mem_append_right _ (List.mem_filterMap.mpr ⟨declarator, member, declared⟩)
    · exact List.mem_append_left _ (Option.mem_toList.mpr stated)
  have sameHeap : (second.allocate declarator.name).1 = (first.allocate declarator.name).1 :=
    alike.nextHeap.symm
  unfold Recorder.declareName
  split
  · simp only [sameHeap]
    exact ((SideBySide.refl.allocate declarator.name).record
      (pointerRecord declarator _ _ _) scopes).record (blockRecord declarator _ _) (own _ .heap)
  · exact SideBySide.refl.record (declaredRecord declarator _ _) scopes

/-- A declaration is recorded declarator by declarator. -/
theorem declare (alike : Alike first second) (parents : related parent otherParent)
    {statement : Program.Declaration}
    (own : ∀ scope, (Node.declaration statement).OwnScope scope → related scope scope) :
    SideBySide related first second (first.declare statement parent)
      (second.declare statement otherParent) := by
  have declared (declarators : List Program.Declarator)
      (among : declarators ⊆ statement.declarators) :
      SideBySide related first second
        (declarators.foldl (fun recorder declarator =>
          recorder.declareName statement parent declarator) first)
        (declarators.foldl (fun recorder declarator =>
          recorder.declareName statement otherParent declarator) second) := by
    induction declarators generalizing first second with
    | nil => exact .refl
    | cons declarator rest inductionHypothesis =>
        obtain ⟨member, restAmong⟩ := List.cons_subset.mp among
        have now := declareName alike parents member own
        exact now.trans (inductionHypothesis (now.alike alike) restAmong)
  exact declared statement.declarators (List.Subset.refl _)

/-- A statement that states at most one scope stands in related scopes. -/
theorem related_of_statedScopes {node : Node} {named : Option String}
    (stated : node.statedScopes = named.toList)
    (own : ∀ scope, node.OwnScope scope → related scope scope)
    (parents : related parent otherParent) :
    related (scopeOf named parent) (scopeOf named otherParent) := by
  refine scopeOf_related parents fun scope isNamed given => own _ (.stated ?_ given)
  rw [stated]
  exact Option.mem_toList.mpr isNamed

/-- A member write refers to the same allocations for both, and only its scope may differ. -/
theorem assignMember (alike : Alike first second) (parents : related parent otherParent)
    {statement : Program.MemberAssignment}
    (own : ∀ scope, (Node.memberAssignment statement).OwnScope scope → related scope scope) :
    SideBySide related first second (first.assignMember statement parent)
      (second.assignMember statement otherParent) := by
  have scopes := related_of_statedScopes rfl own parents
  unfold Recorder.assignMember
  rw [alike.allocations, alike.allocation?_eq]
  exact SideBySide.refl.memberWrite _ scopes

/-- A class records its members in its own scope or in those that they state. -/
theorem declareClass {definition : Program.Class Node}
    (own : ∀ scope, (Node.classDeclaration definition).OwnScope scope → related scope scope) :
    SideBySide related first second (first.declareClass definition)
      (second.declareClass definition) := by
  refine recordAll_same fun entry isEntry => ?_
  obtain ⟨member, isData, rfl⟩ := List.mem_map.mp isEntry
  refine scopeOf_related (own _ .className) fun scope named given => own _ (.stated ?_ given)
  exact List.mem_filterMap.mpr ⟨member, (List.mem_filter.mp isData).1, named⟩

/-- An object and its fields are recorded in related scopes. -/
theorem declareObject (alike : Alike first second) (parents : related parent otherParent)
    (program : Program) {object : Program.ObjectDeclaration}
    (own : ∀ scope, (Node.objectDeclaration object).OwnScope scope → related scope scope) :
    SideBySide related first second (first.declareObject program object parent)
      (second.declareObject program object otherParent) := by
  have scopes := related_of_statedScopes rfl own parents
  have declared (entry : Record) (inScope : entry.scope = scopeOf object.scope parent) :
      SideBySide related first second (first.record entry)
        (second.record { entry with scope := scopeOf object.scope otherParent }) :=
    SideBySide.refl.record entry (inScope ▸ scopes)
  unfold Recorder.declareObject
  cases program.class? object.classType with
  | none => exact declared _ rfl
  | some definition =>
      exact (declared _ rfl).trans (construct ((declared _ rfl).alike alike) scopes _ _ _ _)

/-- A pointer stands in related scopes, and an instance that comes with it on the heap for both. -/
theorem declareClassPointer (alike : Alike first second) (parents : related parent otherParent)
    (program : Program) {pointer : Program.ClassPointer}
    (own : ∀ scope, (Node.classPointer pointer).OwnScope scope → related scope scope) :
    SideBySide related first second (first.declareClassPointer program pointer parent)
      (second.declareClassPointer program pointer otherParent) := by
  have scopes := related_of_statedScopes rfl own parents
  by_cases isNew : pointer.isNew
  · rw [declareClassPointer_of_isNew isNew, declareClassPointer_of_isNew isNew, ← alike.nextHeap]
    have allocated : SideBySide related first second
        (((first.allocate pointer.name).2.record
          (instancePointer pointer parent first.nextHeap)).record
            (instanceEntity pointer first.nextHeap))
        (((second.allocate pointer.name).2.record
          (instancePointer pointer otherParent first.nextHeap)).record
            (instanceEntity pointer first.nextHeap)) :=
      ((SideBySide.refl.allocate pointer.name).record
        (instancePointer pointer parent first.nextHeap) scopes).record
          (instanceEntity pointer first.nextHeap) (own _ .heap)
    cases pointer.allocatedClass.bind program.class? with
    | none => exact allocated
    | some definition =>
        exact allocated.trans (construct (allocated.alike alike) (own _ .heap) _ _ _ _)
  · rw [Recorder.declareClassPointer, Recorder.declareClassPointer, if_neg isNew, if_neg isNew]
    exact SideBySide.refl.record _ scopes

/-- Parameters are bound to the same arguments, one after the other. -/
theorem bindParameters (alike : Alike first second) {scope : String}
    (scopes : related scope scope) (line : Option Nat) (params : List Program.Parameter)
    (args : List Program.Argument) :
    SideBySide related first second (Recorder.bindParameters scope line params args first)
      (Recorder.bindParameters scope line params args second) := by
  induction params generalizing args first second with
  | nil => exact .refl
  | cons parameter rest inductionHypothesis =>
      simp only [Recorder.bindParameters]
      rw [← alike.resolve_eq]
      have bound (entry : Record) (inScope : entry.scope = scope) :
          SideBySide related first second (first.record entry) (second.record entry) :=
        SideBySide.refl.record entry (inScope ▸ scopes)
      exact (bound _ rfl).trans (inductionHypothesis ((bound _ rfl).alike alike) args.tail)

/-- A frame binds its parameters in its scope for both. -/
theorem bind {program : Program} {node : Node} {recorder : Recorder} {frame : Frame}
    (scopes : related frame.scope frame.scope)
    (opens : frame? program recorder node = some frame) (alike : Alike first second) :
    SideBySide related first second (frame.bind first) (frame.bind second) := by
  cases node with
  | mainFunction function =>
      cases opens
      refine recordAll_same fun entry isEntry => ?_
      obtain ⟨_, _, rfl⟩ := List.mem_map.mp isEntry
      exact scopes
  | functionCall call =>
      simp only [frame?] at opens
      split at opens
      · cases opens
        exact bindParameters alike scopes _ _ _
      · cases opens
        exact .refl
  | methodCall call =>
      simp only [frame?] at opens
      split at opens
      · cases opens
        exact bindParameters alike scopes _ _ _
      · cases opens
        exact .refl
  | _ => contradiction

/-- A plain statement opens and closes no scope, and records the same for both. -/
theorem visit {node : Node} (own : ∀ scope, node.OwnScope scope → related scope scope)
    (plain : isPlain node) (alike : Alike first second) (parents : related parent otherParent)
    (program : Program) (naming otherNaming : ScopeNaming) (enter otherEnter : BodyWalk) :
    SideBySide related first second (Recorder.visit ⟨program, naming⟩ enter node parent first)
      (Recorder.visit ⟨program, otherNaming⟩ otherEnter node otherParent second) := by
  cases node with
  | declaration statement => exact declare alike parents own
  | assignment statement =>
      exact SideBySide.refl.record _ (related_of_statedScopes rfl own parents)
  | memberAssignment statement => exact assignMember alike parents own
  | classDeclaration definition => exact declareClass own
  | objectDeclaration object => exact declareObject alike parents program own
  | functionDeclaration => exact .refl
  | classPointer pointer => exact declareClassPointer alike parents program own
  | mainFunction => contradiction
  | functionCall => contradiction
  | methodCall => contradiction
  | ifStatement => contradiction
  | whileStatement => contradiction
  | unknown => contradiction

end Statements

end SideBySide

end Recorder

end MemoryTimeline
