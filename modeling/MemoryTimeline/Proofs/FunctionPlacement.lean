import Mathlib.Data.List.Find
import Mathlib.Data.List.Nodup
import MemoryTimeline.Proofs.WalkedParts

/-!
# Where functions are declared

The declaration of a function records nothing where it stands: only calls that find it come
to its body. So the statements of a program are its nodes without these declarations, and
two programs with the same statements record the same if their calls find the same functions
(`Recorder.run_eq_of_sameStatements`). A function that no call names can stand anywhere or
be left out, and functions with names of their own can be declared in any order.
-/

namespace MemoryTimeline

namespace Program

/-- Whether a node declares a function other than the main function. -/
def Node.declaresFunction : Node → Bool
  | .functionDeclaration _ => true
  | _ => false

/-- The function that a node declares, the main function included. -/
def Node.function? : Node → Option (Function Node)
  | .functionDeclaration function => some function
  | .mainFunction function => some function
  | _ => none

/-- The nodes that are walked where they stand. -/
def statementsOf (nodes : List Node) : List Node := nodes.filter (!·.declaresFunction)

/-- The names under which top-level nodes declare functions. -/
def functionNames (nodes : List Node) : List String := (nodes.filterMap Node.function?).map (·.name)

/-- A node defines a function of a name if the function it defines has this name. -/
theorem Node.functionNamed?_eq (node : Node) (name : String) :
    node.functionNamed? name = node.function?.filter (·.name = name) := by
  cases node with
  | functionDeclaration function => simp [functionNamed?, function?, Option.filter_some]
  | mainFunction function => simp [functionNamed?, function?, Option.filter_some]
  | _ => rfl

/-- A name finds the first declared function that has it. -/
theorem function?_eq_find? (nodes : List Node) (name : String) :
    function? ⟨nodes⟩ name = (nodes.filterMap Node.function?).find? (·.name = name) := by
  rw [← List.head?_filter, List.filter_filterMap, List.head?_filterMap, function?]
  exact congrArg (nodes.findSome? ·) (funext fun node => node.functionNamed?_eq name)

/-- A name finds a class among the nodes that are walked. -/
theorem class?_eq_statementsOf (nodes : List Node) :
    class? ⟨nodes⟩ = class? ⟨statementsOf nodes⟩ := by
  funext name
  rw [class?, class?, ← List.head?_filterMap, ← List.head?_filterMap, statementsOf,
    List.filterMap_filter]
  congr 2
  funext node
  cases node <;> rfl

/-- A function definition is no statement, wherever it is put. -/
theorem statementsOf_insert (earlier later : List Node) (function : Function Node) :
    statementsOf (earlier ++ .functionDeclaration function :: later) =
      statementsOf (earlier ++ later) := by
  simp [statementsOf, Node.declaresFunction]

/-- A function is not found by calls that do not name it. -/
theorem sameCallees_insert {earlier later : List Node} {function : Function Node}
    (uncalled : ∀ call, Contains ⟨earlier ++ later⟩ (.functionCall call) →
      call.name ≠ function.name) :
    SameCallees ⟨earlier ++ later⟩ ⟨earlier ++ .functionDeclaration function :: later⟩ where
  function? := by
    intro call contains
    have skipped : (Node.functionDeclaration function).functionNamed? call.name = none :=
      if_neg (uncalled call contains).symm
    rw [function?, function?, List.findSome?_append, List.findSome?_append, List.findSome?_cons,
      skipped]
  class? := by
    rw [class?_eq_statementsOf, ← statementsOf_insert, ← class?_eq_statementsOf]

/-- Functions with names of their own are found in any order. -/
theorem sameCallees_of_perm {nodes moved : List Node} (perm : nodes.Perm moved)
    (statements : statementsOf nodes = statementsOf moved) (distinct : (functionNames nodes).Nodup) :
    SameCallees ⟨nodes⟩ ⟨moved⟩ where
  function? := by
    intro call _
    rw [function?_eq_find?, function?_eq_find?]
    apply List.find?_eq_find?_of_perm (perm.filterMap Node.function?)
    rintro first ⟨firstMember, firstNamed⟩ second ⟨secondMember, secondNamed⟩
    apply List.inj_on_of_nodup_map distinct firstMember secondMember
    exact (of_decide_eq_true firstNamed).trans (of_decide_eq_true secondNamed).symm
  class? := by rw [class?_eq_statementsOf, statements, ← class?_eq_statementsOf]

end Program

namespace Recorder

open Program (Node SameCallees statementsOf)

/-- Declarations of functions are passed over. -/
theorem walk_statementsOf (context : Context) (enter : BodyWalk) (nodes : List Node)
    (scope : String) (recorder : Recorder) :
    walk context enter (statementsOf nodes) scope recorder =
      walk context enter nodes scope recorder := by
  induction nodes generalizing recorder with
  | nil => rfl
  | cons node rest inductionHypothesis =>
      cases node with
      | functionDeclaration => exact inductionHypothesis recorder
      | _ => exact inductionHypothesis _

/-- Programs with the same statements record the same if their calls find the same. -/
theorem run_eq_of_sameStatements {first second : Program} (same : SameCallees first second)
    (statements : statementsOf first.nodes = statementsOf second.nodes) (naming : ScopeNaming) :
    run ⟨first, naming⟩ = run ⟨second, naming⟩ := by
  rw [run_eq_of_sameCallees same, ← walk_statementsOf, statements, walk_statementsOf, run]

end Recorder

namespace Program

/-- It does not matter where functions are declared, nor whether a function is declared that
no call names. A function whose name stands in no call of a program, in any body, can be
added at any top-level position, with any parameters and any body; and functions can be
moved to any other top-level positions, past each other and past all other nodes, if no two
functions, the main function included, share a name. The timeline stays the same. -/
theorem timeline_ignores_function_placement (naming : ScopeNaming) :
    (∀ (earlier later : List Node) (function : Function Node),
      (∀ call, Contains ⟨earlier ++ later⟩ (.functionCall call) → call.name ≠ function.name) →
      Program.timeline ⟨earlier ++ .functionDeclaration function :: later⟩ naming =
        Program.timeline ⟨earlier ++ later⟩ naming) ∧
      ∀ nodes moved : List Node, nodes.Perm moved → statementsOf nodes = statementsOf moved →
        (functionNames nodes).Nodup →
        Program.timeline ⟨moved⟩ naming = Program.timeline ⟨nodes⟩ naming := by
  refine ⟨?_, ?_⟩
  · intro earlier later function uncalled
    have recorded := Recorder.run_eq_of_sameStatements (sameCallees_insert uncalled)
      (statementsOf_insert earlier later function).symm naming
    exact congrArg Recorder.timeline recorded.symm
  · intro nodes moved perm statements distinct
    have recorded := Recorder.run_eq_of_sameStatements
      (sameCallees_of_perm perm statements distinct) statements naming
    exact congrArg Recorder.timeline recorded.symm

/-- A function that calls itself and another one stands between the main function and that
other function, which can stand on either side of the main function. -/
theorem timeline_ignores_self_calling_function :
    let call (name : String) : Node := .functionCall
      { name, args := [⟨none, .int 1⟩], body := [], scope := none, line := none }
    let loop : Node := .whileStatement (some [call "used"]) none
    let branch : Node := .ifStatement (some []) none none
    let main : Node := .mainFunction
      { name := "main", params := [], body := [loop], returnType := none, line := none }
    let used : Node := .functionDeclaration
      { name := "used", params := [⟨"n", none, none, none⟩], body := [branch]
        returnType := none, line := none }
    let unused : Function Node :=
      { name := "unused", params := [⟨"n", none, none, none⟩], body := [call "unused", call "used"]
        returnType := none, line := none }
    (∀ inner, Contains ⟨[main, used]⟩ (.functionCall inner) → inner.name ≠ "unused") ∧
      Program.timeline ⟨[main, .functionDeclaration unused, used]⟩ .unique =
        Program.timeline ⟨[main, used]⟩ .unique ∧
      statementsOf [main, used] = statementsOf [used, main] ∧
      (functionNames [main, used]).Nodup ∧
      Program.timeline ⟨[used, main]⟩ .unique = Program.timeline ⟨[main, used]⟩ .unique ∧
      (Program.timeline ⟨[main, used]⟩ .unique).length = 10 := by
  intro call loop branch main used unused
  -- These are the nodes of the program, since the children of each are among them.
  have inside : ∀ node, Contains ⟨[main, used]⟩ node →
      node ∈ [main, used, loop, branch, call "used"] := by
    rintro node ⟨top, isTop, contains⟩
    induction contains with
    | refl => rcases List.mem_pair.mp isTop with rfl | rfl <;> simp
    | @tail outer inner _ isChild inductionHypothesis =>
        simp only [List.mem_cons, List.not_mem_nil, or_false] at inductionHypothesis
        rcases inductionHypothesis with rfl | rfl | rfl | rfl | rfl <;>
          simp_all [Node.children, main, used, loop, branch, call]
  have uncalled : ∀ inner, Contains ⟨[main, used]⟩ (.functionCall inner) →
      inner.name ≠ "unused" := by
    intro inner contains
    have member := inside _ contains
    simp only [List.mem_cons, main, used, loop, branch, call, reduceCtorEq, false_or, or_false,
      List.not_mem_nil, Node.functionCall.injEq] at member
    rw [member]
    decide
  have distinct : (functionNames [main, used]).Nodup := by decide
  obtain ⟨inserted, moved⟩ := timeline_ignores_function_placement .unique
  exact ⟨uncalled, inserted [main] [used] unused uncalled, rfl, distinct,
    moved [main, used] [used, main] (.swap _ _ _) rfl distinct, by decide⟩

end Program

end MemoryTimeline
