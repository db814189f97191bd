import MemoryTimeline.Program.Syntax

/-!
# Finding declarations

Calls and constructions refer to functions, classes and members by name. Of
several declarations with one name the first is meant, and only top-level nodes
are searched.
-/

namespace MemoryTimeline

namespace Program

namespace Class

variable {Statement : Type}

/-- The data members in order of declaration. -/
def dataMembers (definition : Class Statement) : List (Member Statement) :=
  definition.members.filter (·.kind = .variable)

/-- The first member of a kind. -/
def memberOfKind? (definition : Class Statement) (kind : MemberKind) : Option (Member Statement) :=
  definition.members.find? (·.kind = kind)

/-- The method of a name. -/
def method? (definition : Class Statement) (name : String) : Option (Member Statement) :=
  definition.members.find? fun member => member.kind = .function && member.name = name

/-- The constructor that runs: with arguments a parameterized one is preferred,
without arguments a default one. -/
def constructor? (definition : Class Statement) (hasArguments : Bool) :
    Option (Member Statement) :=
  let parameterized := definition.memberOfKind? .parameterizedConstructor
  let default := definition.memberOfKind? .defaultConstructor
  if hasArguments then parameterized.or default else default.or parameterized

/-- Whether a data member of this name holds a pointer. -/
def isPointerMember (definition : Class Statement) (name : String) : Bool :=
  definition.dataMembers.any fun member => member.name = name && member.isPointer

end Class

/-- The function that a node declares under a name. -/
def Node.functionNamed? (name : String) : Node → Option (Function Node)
  | .functionDeclaration function => if function.name = name then some function else none
  | .mainFunction function => if function.name = name then some function else none
  | _ => none

/-- The class that a node declares under a name. -/
def Node.classNamed? (name : String) : Node → Option (Class Node)
  | .classDeclaration definition => if definition.name = name then some definition else none
  | _ => none

/-- A node declares a class under its own name, and under no other. -/
theorem Node.classNamed?_eq_some_iff {node : Node} {name : String} {definition : Class Node} :
    node.classNamed? name = some definition ↔
      node = .classDeclaration definition ∧ definition.name = name := by
  cases node with
  | classDeclaration declared =>
      simp only [classNamed?, Option.ite_none_right_eq_some, Option.some.injEq,
        classDeclaration.injEq]
      constructor
      · rintro ⟨named, rfl⟩
        exact ⟨rfl, named⟩
      · rintro ⟨rfl, named⟩
        exact ⟨named, rfl⟩
  | _ => simp [classNamed?]

/-- A node is passed over in the search for a class if it declares none or one of another
name. -/
theorem Node.classNamed?_eq_none_iff {node : Node} {name : String} :
    node.classNamed? name = none ↔
      ∀ definition, node = .classDeclaration definition → definition.name ≠ name := by
  simp [Option.eq_none_iff_forall_ne_some, classNamed?_eq_some_iff]

/-- The function of a name, the main function included. -/
def function? (program : Program) (name : String) : Option (Function Node) :=
  program.nodes.findSome? (Node.functionNamed? name)

/-- The class of a name. -/
def class? (program : Program) (name : String) : Option (Class Node) :=
  program.nodes.findSome? (Node.classNamed? name)

end Program

end MemoryTimeline
