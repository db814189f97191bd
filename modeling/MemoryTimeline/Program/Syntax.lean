import MemoryTimeline.Json.Basic

/-!
# Program trees

A document describes a program as a list of nodes: declarations, assignments,
classes, functions, calls and blocks. Each kind of node carries only the fields
that this kind uses; a node of any other kind is kept as `Node.unknown` with its
children, so that the statements below it are still reached.

Structures that hold statements take the type of a statement as a parameter and
are instantiated at `Node`.
-/

namespace MemoryTimeline.Program

/-- One declared name of a declaration. -/
structure Declarator where
  name : String
  value : Json
  scope : Option String
  pointer : Bool
  allocation : Option String
  arraySize : Option Nat
  dimensions : Option (List Nat)
  values : Option (List Json)
  pointsTo : Option String
  id : Option Json
  line : Option Nat

/-- Whether an allocation mark asks for heap storage. -/
def isHeapAllocation (allocation : Option String) : Bool := allocation == some "new"

/-- Whether the declared name points to storage that it allocates on the heap. -/
def Declarator.isNew (declarator : Declarator) : Bool := isHeapAllocation declarator.allocation

/-- One or more names declared by one statement. -/
structure Declaration where
  declarators : List Declarator
  scope : Option String
  line : Option Nat

/-- A statement of the form `name = value`. -/
structure Assignment where
  name : String
  value : Json
  scope : Option String
  id : Option Json
  line : Option Nat

/-- A statement of the form `object.member = value`, or the same through a pointer. -/
structure MemberAssignment where
  object : String
  member : String
  value : Json
  scope : Option String
  pointerAccess : Bool
  line : Option Nat

/-- A formal parameter. -/
structure Parameter where
  name : String
  dataType : Option String
  id : Option Json
  line : Option Nat

/-- An argument of a call, possibly with the name of the parameter it is meant for. -/
structure Argument where
  parameter : Option String
  value : Json

/-- What a member of a class is. -/
inductive MemberKind where
  | variable
  | function
  | defaultConstructor
  | parameterizedConstructor
  | destructor
  | other
  deriving DecidableEq

/-- A member of a class: a data member, a method, a constructor or anything else. -/
structure Member (Statement : Type) where
  kind : MemberKind
  name : String
  defaultValue : Json
  pointer : Bool
  dataType : Option String
  pointsTo : Option String
  scope : Option String
  params : List Parameter
  body : List Statement
  id : Option Json
  line : Option Nat

/-- Whether a data member holds a pointer, by its mark or by its type. -/
def Member.isPointer {Statement : Type} (member : Member Statement) : Bool :=
  member.pointer || member.dataType.any (·.toList.contains '*')

/-- A class. -/
structure Class (Statement : Type) where
  name : String
  members : List (Member Statement)
  line : Option Nat

/-- A class instance in automatic storage. -/
structure ObjectDeclaration where
  name : Option String
  objectName : Option String
  classType : String
  scope : Option String
  args : List Argument
  id : Option Json
  line : Option Nat

/-- The name of the object, which a document gives under one of two keys. -/
def ObjectDeclaration.resolvedName (object : ObjectDeclaration) : String :=
  (object.name.or object.objectName).getD ""

/-- A function, the main function included. -/
structure Function (Statement : Type) where
  name : String
  params : List Parameter
  body : List Statement
  returnType : Option String
  line : Option Nat

/-- A call of a function. The embedded body stands in for a callee that the document
does not declare. -/
structure FunctionCall (Statement : Type) where
  name : String
  args : List Argument
  body : List Statement
  scope : Option String
  line : Option Nat

/-- The object that a method is called on. -/
structure Receiver where
  name : String
  classType : Option String

/-- A call of a method. -/
structure MethodCall where
  receiver : Receiver
  method : String
  args : List Argument
  scope : Option String
  line : Option Nat

/-- A pointer to a class instance, possibly with the instance allocated for it. -/
structure ClassPointer where
  name : String
  classType : Option String
  allocatedType : Option String
  allocation : Option String
  scope : Option String
  args : List Argument
  id : Option Json
  line : Option Nat

/-- Whether the pointer comes with an instance on the heap. -/
def ClassPointer.isNew (pointer : ClassPointer) : Bool := isHeapAllocation pointer.allocation

/-- The class of the allocated instance. -/
def ClassPointer.allocatedClass (pointer : ClassPointer) : Option String :=
  pointer.allocatedType.or pointer.classType

/-- A statement or definition of a program. A missing branch differs from an empty
one: an empty branch still opens its scope. -/
inductive Node where
  | declaration (declaration : Declaration)
  | assignment (assignment : Assignment)
  | memberAssignment (assignment : MemberAssignment)
  | classDeclaration (definition : Class Node)
  | objectDeclaration (object : ObjectDeclaration)
  | functionDeclaration (function : Function Node)
  | mainFunction (function : Function Node)
  | functionCall (call : FunctionCall Node)
  | methodCall (call : MethodCall)
  | classPointer (pointer : ClassPointer)
  | ifStatement (thenBody elseBody : Option (List Node)) (line : Option Nat)
  | whileStatement (body : Option (List Node)) (line : Option Nat)
  | unknown (kind : String) (body members : List Node)

/-- The source line of a node, where the document gives one. -/
def Node.line : Node → Option Nat
  | .declaration fields => fields.line
  | .assignment fields => fields.line
  | .memberAssignment fields => fields.line
  | .classDeclaration definition => definition.line
  | .objectDeclaration object => object.line
  | .functionDeclaration function => function.line
  | .mainFunction function => function.line
  | .functionCall call => call.line
  | .methodCall call => call.line
  | .classPointer pointer => pointer.line
  | .ifStatement _ _ line => line
  | .whileStatement _ line => line
  | .unknown .. => none

end MemoryTimeline.Program

namespace MemoryTimeline

/-- A program: its top-level nodes. -/
structure Program where
  nodes : List Program.Node

end MemoryTimeline
