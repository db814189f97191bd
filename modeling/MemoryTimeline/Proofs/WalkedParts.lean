import MemoryTimeline.Proofs.NodeReading
import MemoryTimeline.Proofs.WalkRules

/-!
# The parts of a program that a walk comes to

A walk jumps from calls to bodies anywhere in a program, but it never leaves the program:
every node that it comes to stands inside one of the top-level nodes (`frame_within`). So a
walk depends on the rest of the program only through the functions that the calls inside it
find, and through the classes. Programs that agree on these have the same walks
(`Walks.of_sameCallees`).
-/

namespace MemoryTimeline

namespace Program

/-- A node stands somewhere in a program, at any depth. -/
def Contains (program : Program) (node : Node) : Prop :=
  ∃ top ∈ program.nodes, top.Contains node

variable {program : Program}

/-- A program contains its top-level nodes. -/
theorem contains_of_mem {node : Node} (member : node ∈ program.nodes) : program.Contains node :=
  ⟨node, member, .refl⟩

/-- A program contains the nodes inside those that it contains. -/
theorem Contains.child {outer inner : Node} (contains : program.Contains outer)
    (isChild : inner ∈ outer.children) : program.Contains inner := by
  obtain ⟨top, member, inside⟩ := contains
  exact ⟨top, member, inside.tail isChild⟩

/-- The body of a function that a name finds is part of the program. -/
theorem contains_of_function? {name : String} {function : Function Node} {node : Node}
    (found : program.function? name = some function) (member : node ∈ function.body) :
    program.Contains node := by
  rcases mem_nodes_of_function? found with declared | isMain
  · exact (contains_of_mem declared).child member
  · exact (contains_of_mem isMain).child member

/-- The body of a method that a call finds is part of the program. -/
theorem contains_of_calledMethod? {call : MethodCall} {recorder : Recorder}
    {method : Member Node} {node : Node}
    (found : Recorder.calledMethod? program call recorder = some method)
    (member : node ∈ method.body) : program.Contains node := by
  obtain ⟨definition, declared, isMember⟩ := Recorder.exists_class_of_calledMethod? found
  exact (contains_of_mem declared).child (List.mem_flatMap.mpr ⟨method, isMember, member⟩)

/-- Programs in which the calls inside the first find the same functions, and all names the
same classes. -/
structure SameCallees (first second : Program) : Prop where
  function? : ∀ call, first.Contains (.functionCall call) →
    first.function? call.name = second.function? call.name
  class? : first.class? = second.class?

end Program

namespace Recorder

open Program (Node SameCallees)

/-- The nodes that a part begins with. -/
def Part.nodes : Part → List Node
  | .statement node => [node]
  | .statements nodes => nodes
  | .block _ _ nodes => nodes.getD []
  | .body nodes => nodes.getD []

/-- A part that stands in a program. -/
def Part.Within (program : Program) (part : Part) : Prop :=
  ∀ node ∈ part.nodes, program.Contains node

namespace Part.Within

variable {program : Program} {node : Node} {nodes : List Node}

/-- The top-level nodes stand in their program. -/
theorem topLevel (program : Program) : (Part.statements program.nodes).Within program :=
  fun _ member => Program.contains_of_mem member

/-- A statement that is walked as a part of the program stands in it. -/
theorem statement (within : (Part.statement node).Within program) : program.Contains node :=
  within node (List.mem_singleton_self node)

/-- What stands in a node stands where the node does. -/
theorem of_children {part : Part} (contains : program.Contains node)
    (children : part.nodes ⊆ node.children) : part.Within program :=
  fun _ member => contains.child (children member)

/-- The first branch of a conditional is part of what the conditional is part of. -/
theorem thenBranch {thenBody elseBody : Option (List Node)} {line : Option Nat}
    (within : (Part.statement (.ifStatement thenBody elseBody line)).Within program) :
    (Part.block .thenBranch line thenBody).Within program :=
  of_children within.statement (List.subset_append_left _ _)

theorem elseBranch {thenBody elseBody : Option (List Node)} {line : Option Nat}
    (within : (Part.statement (.ifStatement thenBody elseBody line)).Within program) :
    (Part.block .elseBranch line elseBody).Within program :=
  of_children within.statement (List.subset_append_right _ _)

/-- The body of a loop is part of what the loop is part of. -/
theorem loop {body : Option (List Node)} {line : Option Nat}
    (within : (Part.statement (.whileStatement body line)).Within program) :
    (Part.block .loop line body).Within program :=
  of_children within.statement (List.Subset.refl _)

/-- An unknown node has its body walked, and its members if there is no body. -/
theorem children {kind : String} {body members : List Node}
    (within : (Part.statement (.unknown kind body members)).Within program) :
    (Part.statements (if body.isEmpty then members else body)).Within program := by
  refine of_children within.statement ?_
  simp only [Part.nodes, Node.children]
  split
  · exact List.subset_append_right _ _
  · exact List.subset_append_left _ _

/-- The first of some statements is part of what they are part of. -/
theorem head (within : (Part.statements (node :: nodes)).Within program) :
    (Part.statement node).Within program := by
  intro only member
  obtain rfl := List.mem_singleton.mp member
  exact within only List.mem_cons_self

theorem tail (within : (Part.statements (node :: nodes)).Within program) :
    (Part.statements nodes).Within program :=
  fun later member => within later (List.mem_cons_of_mem _ member)

end Part.Within

/-- The body of a frame is part of the program that the statement stands in. -/
theorem frame_within {program : Program} {recorder : Recorder} {node : Node} {frame : Frame}
    (opens : frame? program recorder node = some frame) (contains : program.Contains node) :
    (Part.body frame.body).Within program := by
  cases node with
  | mainFunction function =>
      cases opens
      exact Part.Within.of_children contains (List.Subset.refl _)
  | functionCall call =>
      simp only [frame?] at opens
      split at opens
      next callee found =>
        cases opens
        exact fun _ member => Program.contains_of_function? found member
      · cases opens
        exact Part.Within.of_children contains (List.Subset.refl _)
  | methodCall call =>
      simp only [frame?] at opens
      split at opens
      next method found =>
        cases opens
        exact fun _ member => Program.contains_of_calledMethod? found member
      · cases opens
        exact fun _ member => absurd member List.not_mem_nil
  | _ => contradiction

section SameCallees

variable {first second : Program} (same : SameCallees first second)

include same

/-- A statement of the first program opens the same frame in both. -/
theorem frame?_eq_of_sameCallees {node : Node} (contains : first.Contains node)
    (recorder : Recorder) : frame? first recorder node = frame? second recorder node := by
  cases node with
  | functionCall call => rw [frame?, frame?, same.function? call contains]
  | methodCall call => rw [frame?, frame?, calledMethod?, calledMethod?, same.class?]
  | _ => rfl

/-- A plain statement records the same in both programs. -/
theorem visit_eq_of_sameCallees {node : Node} (plain : isPlain node) (naming : ScopeNaming)
    (enter : BodyWalk) (scope : String) (recorder : Recorder) :
    visit ⟨first, naming⟩ enter node scope recorder =
      visit ⟨second, naming⟩ enter node scope recorder := by
  cases node with
  | objectDeclaration object =>
      rw [visit, visit, declareObject, declareObject, same.class?]
  | classPointer pointer =>
      rw [visit, visit, declareClassPointer, declareClassPointer, same.class?]
  | declaration => rfl
  | assignment => rfl
  | memberAssignment => rfl
  | classDeclaration => rfl
  | functionDeclaration => rfl
  | mainFunction => contradiction
  | functionCall => contradiction
  | methodCall => contradiction
  | ifStatement => contradiction
  | whileStatement => contradiction
  | unknown => contradiction

/-- A walk in the first program is one in the other. -/
theorem Walks.of_sameCallees {naming : ScopeNaming} {part : Part} {scope : String}
    {before after : Walker} (walks : Walks ⟨first, naming⟩ part scope before after)
    (within : part.Within first) : Walks ⟨second, naming⟩ part scope before after := by
  induction walks with
  | @plain node scope walker isPlain =>
      have recorded := visit_eq_of_sameCallees same isPlain naming
        (bodyWalk ⟨first, naming⟩ 0) scope walker.recorder
      rw [Walker.note, recorded]
      exact .plain isPlain
  | call opens _ bodyHypothesis =>
      have bodyWithin := frame_within opens within.statement
      rw [frame?_eq_of_sameCallees same within.statement] at opens
      exact .call opens (bodyHypothesis bodyWithin)
  | ifStatement _ _ thenHypothesis elseHypothesis =>
      exact .ifStatement (thenHypothesis within.thenBranch) (elseHypothesis within.elseBranch)
  | whileStatement _ loopHypothesis => exact .whileStatement (loopHypothesis within.loop)
  | unknown _ childrenHypothesis => exact .unknown (childrenHypothesis within.children)
  | noBlock => exact .noBlock
  | block _ statementsHypothesis => exact .block (statementsHypothesis within)
  | noBody => exact .noBody
  | tooDeep deep => exact .tooDeep deep
  | body shallow _ statementsHypothesis => exact .body shallow (statementsHypothesis within)
  | nil => exact .nil
  | cons _ _ firstHypothesis restHypothesis =>
      exact .cons (firstHypothesis within.head) (restHypothesis within.tail)

/-- A program records what its statements record in any program that agrees with it on
callees. -/
theorem run_eq_of_sameCallees (naming : ScopeNaming) :
    run ⟨first, naming⟩ =
      walk ⟨second, naming⟩ (bodyWalk ⟨second, naming⟩ maxCallDepth) first.nodes globalScope
        (empty.emit (.push globalScope none)) := by
  obtain ⟨after, walks, recorded⟩ := exists_walks_program ⟨first, naming⟩
  rw [← recorded, (walks.of_sameCallees same (.topLevel first)).recorder_eq]
  rfl

end SameCallees

end Recorder

end MemoryTimeline
