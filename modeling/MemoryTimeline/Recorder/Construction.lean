import MemoryTimeline.Recorder.Storage

/-!
# Classes and objects

A class records its data members under its own name. An object records itself,
then one field per data member with the class's default, then the fields that the
constructor assigns.
-/

namespace MemoryTimeline.Recorder

open Program (Argument Class Member Node Parameter)

/-- The kind of record of a data member. -/
def fieldKind (isPointer : Bool) : RecordKind := if isPointer then .pointer else .variable

/-- The record of a data member in a class. -/
def memberRecord (definition : Class Node) (member : Member Node) : Record where
  name := member.name
  value := member.defaultValue
  scope := scopeOf member.scope definition.name
  kind := fieldKind member.isPointer
  pointee := member.pointsTo.map namedPointee
  id := member.id
  line := member.line

/-- Record the data members of a class. -/
def declareClass (definition : Class Node) (recorder : Recorder) : Recorder :=
  recorder.recordAll (definition.dataMembers.map (memberRecord definition))

/-- An object under construction: its name, the scope of its fields, and the line of
the statement that constructs it. -/
structure Site where
  object : String
  scope : String
  line : Option Nat

/-- The record of a field with the default of its class. -/
def fieldRecord (site : Site) (member : Member Node) : Record where
  name := qualified site.object member.name
  value := member.defaultValue
  scope := site.scope
  kind := fieldKind member.isPointer
  pointee := member.pointsTo.map namedPointee
  id := member.id
  line := member.line.or site.line

/-- The argument for a parameter: the first one with its name, and otherwise the one at
its position. -/
def argumentFor (args : List Argument) (position : Nat) (parameter : Parameter) : Option Json :=
  let named := args.find? (·.parameter = some parameter.name)
  (named.or args[position]?).map (·.value)

/-- The values of a constructor's parameters. Of parameters with one name the last
counts, so the list runs backwards. -/
def constructorValues (recorder : Recorder) (params : List Parameter) (args : List Argument) :
    List (String × Json) :=
  (params.zipIdx.map fun (parameter, position) =>
    (parameter.name, (recorder.resolve (argumentFor args position parameter)).1)).reverse

/-- The field, value and line of a statement that assigns a field of the object under
construction. -/
def fieldAssignment? : Node → Option (String × Json × Option Nat)
  | .assignment statement => some (statement.name, statement.value, statement.line)
  | .memberAssignment statement =>
    if statement.object = "this" then some (statement.member, statement.value, statement.line)
    else none
  | _ => none

/-- The record of a field that a constructor assigns. A parameter's name stands for its
value. -/
def assignedField (definition : Class Node) (run : Member Node) (site : Site)
    (values : List (String × Json)) (field : String) (value : Json) (line : Option Nat) :
    Record where
  name := qualified site.object field
  value := (value.identifier?.bind fun name => values.lookup name).getD value
  scope := site.scope
  kind := fieldKind (definition.isPointerMember field)
  line := (line.or run.line).or site.line

/-- The records of the fields that a constructor assigns. -/
def assignedFields (definition : Class Node) (run : Member Node) (site : Site)
    (values : List (String × Json)) : List Record :=
  run.body.filterMap fun statement =>
    (fieldAssignment? statement).map fun (field, value, line) =>
      assignedField definition run site values field value line

/-- Record the fields of a new object: defaults first, then what the constructor
assigns. -/
def construct (definition : Class Node) (site : Site) (args : List Argument)
    (recorder : Recorder) : Recorder :=
  let recorder := recorder.recordAll (definition.dataMembers.map (fieldRecord site))
  match definition.constructor? (!args.isEmpty) with
  | some run =>
    recorder.recordAll
      (assignedFields definition run site (recorder.constructorValues run.params args))
  | none => recorder

/-- Record an object in automatic storage. -/
def declareObject (program : Program) (object : Program.ObjectDeclaration) (parent : String)
    (recorder : Recorder) : Recorder :=
  let name := object.resolvedName
  let scope := scopeOf object.scope parent
  let recorder := recorder.record
    { name
      value := .str object.classType
      scope
      kind := .object
      classType := some object.classType
      id := object.id
      line := object.line }
  match program.class? object.classType with
  | some definition => recorder.construct definition ⟨name, scope, object.line⟩ object.args
  | none => recorder

/-- Record a pointer to a class instance, and the instance if it is allocated here. -/
def declareClassPointer (program : Program) (pointer : Program.ClassPointer) (parent : String)
    (recorder : Recorder) : Recorder :=
  let classType := pointer.allocatedClass
  let pointerRecord : Record :=
    { name := pointer.name
      value := .null
      scope := scopeOf pointer.scope parent
      kind := .pointer
      classType
      id := pointer.id
      line := pointer.line }
  if pointer.isNew then
    let (heap, recorder) := recorder.allocate pointer.name
    let name := heapName pointer.name
    let entity : Record :=
      { name
        value := (classType.map Json.str).getD .null
        scope := heapScope
        kind := .object
        classType
        id := pointer.id
        line := pointer.line }
    let recorder :=
      (recorder.record { pointerRecord with pointee := some { name, heap := some heap } }).record
        (entity.allocated heap)
    match classType.bind program.class? with
    | some definition => recorder.construct definition ⟨name, heapScope, pointer.line⟩ pointer.args
    | none => recorder
  else recorder.record pointerRecord

end MemoryTimeline.Recorder
