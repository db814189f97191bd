import MemoryTimeline.Proofs.Balance
import MemoryTimeline.Proofs.WalkedParts
import MemoryTimeline.Snapshot.Basic

/-!
# Statements that follow

Statements that define nothing change no function and no class that a name finds, so they
can be added at the end of a program: they are walked after the others, from the recorder
that these leave (`Recorder.run_append`), and what was recorded before stays as it was.
-/

namespace MemoryTimeline

namespace Program

/-- Whether a statement defines a function or a class that names can find. -/
def Node.isDefinition : Node → Bool
  | .functionDeclaration _ => true
  | .mainFunction _ => true
  | .classDeclaration _ => true
  | _ => false

/-- A search that finds nothing among the later statements is decided by the earlier ones. -/
theorem findSome?_append_of_isDefinition {Definition : Type} {earlier later : List Node}
    {select : Node → Option Definition} (undefining : ∀ node ∈ later, node.isDefinition = false)
    (selects : ∀ node, node.isDefinition = false → select node = none) :
    (earlier ++ later).findSome? select = earlier.findSome? select := by
  have notFound : later.findSome? select = none := by
    rw [List.findSome?_eq_none_iff]
    intro node member
    exact selects node (undefining node member)
  rw [List.findSome?_append, notFound, Option.or_none]

/-- Statements that define nothing can be added at the end. -/
theorem sameCallees_append {earlier later : List Node}
    (undefining : ∀ node ∈ later, node.isDefinition = false) :
    SameCallees ⟨earlier⟩ ⟨earlier ++ later⟩ where
  function? := by
    intro call _
    refine (findSome?_append_of_isDefinition undefining ?_).symm
    intro node notDefinition
    cases node with
    | functionDeclaration => contradiction
    | mainFunction => contradiction
    | _ => rfl
  class? := by
    funext name
    refine (findSome?_append_of_isDefinition undefining ?_).symm
    intro node notDefinition
    cases node with
    | classDeclaration => contradiction
    | _ => rfl

end Program

namespace Recorder

open Program (Node SameCallees)

/-- Statements are walked one list after the other. -/
theorem walk_append (context : Context) (enter : BodyWalk) (earlier later : List Node)
    (scope : String) (recorder : Recorder) :
    walk context enter (earlier ++ later) scope recorder =
      walk context enter later scope (walk context enter earlier scope recorder) := by
  induction earlier generalizing recorder with
  | nil => rfl
  | cons node rest inductionHypothesis => exact inductionHypothesis _

/-- Statements that define nothing start from the recorder that the statements before them
leave: its events, its next number, its allocations and its counts of blocks. -/
theorem run_append {earlier later : List Node} (naming : ScopeNaming)
    (undefining : ∀ node ∈ later, node.isDefinition = false) :
    let context : Context := ⟨⟨earlier ++ later⟩, naming⟩
    run context = walk context (bodyWalk context maxCallDepth) later globalScope
      (run ⟨⟨earlier⟩, naming⟩) := by
  intro context
  have same : SameCallees ⟨earlier⟩ ⟨earlier ++ later⟩ := Program.sameCallees_append undefining
  rw [run, walk_append]
  exact congrArg (walk context _ later globalScope) (run_eq_of_sameCallees same naming).symm

end Recorder

namespace Program

/-- Statements that define nothing never change what the statements before them have done:
the timeline of these begins that of the whole, and every snapshot along it is the same. -/
theorem timeline_begins_whole (earlier later : List Node) (naming : ScopeNaming)
    (undefining : ∀ node ∈ later, node.isDefinition = false) :
    let before := Program.timeline ⟨earlier⟩ naming
    let whole := Program.timeline ⟨earlier ++ later⟩ naming
    before.events <+: whole.events ∧
      ∀ step, step ≤ before.length → whole.snapshot step = before.snapshot step := by
  intro before whole
  have begins : before.events <+: whole.events := by
    have continued := Recorder.Recording.walk
      (Recorder.Recording.bodyWalk ⟨⟨earlier ++ later⟩, naming⟩ Recorder.maxCallDepth)
      ⟨⟨earlier ++ later⟩, naming⟩ later globalScope (Recorder.run ⟨⟨earlier⟩, naming⟩)
    rw [← Recorder.run_append naming undefining] at continued
    exact continued.timeline_extends
  refine ⟨begins, ?_⟩
  intro step within
  obtain ⟨more, split⟩ := begins
  have sameEvents : whole.events.take step = before.events.take step := by
    rw [← split, List.take_append_of_le_length within]
  have sameStep : min step whole.length = min step before.length := by
    have grown : whole.length = before.length + more.length := by
      rw [Timeline.length, ← split, List.length_append]
      rfl
    omega
  rw [Timeline.snapshot, Timeline.snapshot, sameEvents, sameStep]

/-- A function that allocates in a block is called, and later the same again: the numbers
of the later block and of its allocation go on from those before. -/
theorem timeline_begins_whole_second_call :
    let pointer : Declarator :=
      { name := "p", value := .null, scope := none, pointer := true, allocation := some "new"
        arraySize := none, dimensions := none, values := none, pointsTo := none, id := none
        line := none }
    let allocation : Node := .declaration { declarators := [pointer], scope := none, line := none }
    let function : Node := .functionDeclaration
      { name := "f", params := [⟨"n", none, none, none⟩]
        body := [.ifStatement (some [allocation]) none none], returnType := none, line := none }
    let call (value : Json) : Node := .functionCall
      { name := "f", args := [⟨none, value⟩], body := [], scope := none, line := none }
    let earlier := [call (.int 1), function]
    let later := [call (.int 2), .whileStatement (some []) none]
    (∀ node ∈ later, node.isDefinition = false) ∧
      (Program.timeline ⟨earlier⟩ .unique).length = 8 ∧
      (Program.timeline ⟨earlier ++ later⟩ .unique).length = 17 ∧
      (Program.timeline ⟨earlier⟩ .unique).events <+:
        (Program.timeline ⟨earlier ++ later⟩ .unique).events ∧
      ∀ step, step ≤ (Program.timeline ⟨earlier⟩ .unique).length →
        (Program.timeline ⟨earlier ++ later⟩ .unique).snapshot step =
          (Program.timeline ⟨earlier⟩ .unique).snapshot step := by
  intro pointer allocation function call earlier later
  have undefining : ∀ node ∈ later, node.isDefinition = false := by decide
  exact ⟨undefining, by decide, by decide,
    timeline_begins_whole earlier later .unique undefining⟩

/-- A function that is declared later does change what a call before it has done. -/
example :
    let call : Node := .functionCall
      { name := "f", args := [], body := [], scope := none, line := none }
    let function : Node := .functionDeclaration
      { name := "f", params := [⟨"n", none, none, none⟩], body := [], returnType := none
        line := none }
    (Program.timeline ⟨[call]⟩ .shared).events.map Event.label = ["push", "push", "pop"] ∧
      (Program.timeline ⟨[call, function]⟩ .shared).events.map Event.label =
        ["push", "push", "var", "pop"] := by decide

end Program

end MemoryTimeline
