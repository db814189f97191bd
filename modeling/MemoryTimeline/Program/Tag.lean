import MemoryTimeline.Program.Syntax
import MemoryTimeline.Text.Blank

/-!
# Tags

A node or member says what it is in its `type` field. Blanks around a tag do not
count, and some tags have a second spelling with blanks inside.
-/

namespace MemoryTimeline.Program

/-- The kinds of node that a tag can name. -/
inductive Tag where
  | declaration
  | assignment
  | memberAssignment
  | classDeclaration
  | objectDeclaration
  | functionDeclaration
  | mainFunction
  | functionCall
  | methodCall
  | classPointer
  | ifStatement
  | whileStatement
  deriving DecidableEq

/-- The kind of node that a tag names. -/
def Tag.ofText? (text : String) : Option Tag :=
  match Text.trim text with
  | "declaration" => some .declaration
  | "assignment" => some .assignment
  | "member_assignment" => some .memberAssignment
  | "class_declaration" => some .classDeclaration
  | "object_declaration" => some .objectDeclaration
  | "function_declaration" => some .functionDeclaration
  | "function declaration" => some .functionDeclaration
  | "main_function" => some .mainFunction
  | "the standard Main_Function" => some .mainFunction
  | "function_call" => some .functionCall
  | "method_call" => some .methodCall
  | "class_pointer_declaration" => some .classPointer
  | "if_statement" => some .ifStatement
  | "while_statement" => some .whileStatement
  | _ => none

/-- The kind of member that a tag names. -/
def MemberKind.ofText (text : String) : MemberKind :=
  match Text.trim text with
  | "member_variable" => .variable
  | "member_function" => .function
  | "constructor" => .defaultConstructor
  | "parameterized constructor" => .parameterizedConstructor
  | "parameterized_constructor" => .parameterizedConstructor
  | "destructor" => .destructor
  | _ => .other

/-- The kind of member that a `type` field names. -/
def MemberKind.ofField (value : Json) : MemberKind :=
  (value.str?.map MemberKind.ofText).getD .other

end MemoryTimeline.Program
