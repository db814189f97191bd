import Mathlib.Logic.ExistsUnique
import MemoryTimeline.Proofs.Balance
import MemoryTimeline.Proofs.SideBySide

/-!
# How deep scopes nest

Scopes are opened by calls and by blocks. Between the entry of one callee body and the
next, the blocks that are open stand inside one another in the text of the program, so
there are at most as many as `Program.blockNesting` counts. Since only so many bodies are
entered, this bounds the open scopes at every step of a timeline, also where functions
and methods call each other in circles.
-/

namespace MemoryTimeline

namespace Program

mutual

/-- The greatest number of conditionals and loops that stand inside one another in a node,
itself included. All that the node holds counts: the bodies of functions, of members and
of calls as well. -/
def Node.blockNesting : Node → Nat
  | .classDeclaration ⟨_, members, _⟩ => membersNesting members
  | .functionDeclaration ⟨_, _, body, _, _⟩ => nodesNesting body
  | .mainFunction ⟨_, _, body, _, _⟩ => nodesNesting body
  | .functionCall ⟨_, _, body, _, _⟩ => nodesNesting body
  | .ifStatement thenBody elseBody _ => 1 + max (branchNesting thenBody) (branchNesting elseBody)
  | .whileStatement body _ => 1 + branchNesting body
  | .unknown _ body members => max (nodesNesting body) (nodesNesting members)
  | _ => 0

def nodesNesting : List Node → Nat
  | [] => 0
  | node :: rest => max node.blockNesting (nodesNesting rest)

def branchNesting : Option (List Node) → Nat
  | none => 0
  | some body => nodesNesting body

def membersNesting : List (Member Node) → Nat
  | [] => 0
  | ⟨_, _, _, _, _, _, _, _, body, _, _⟩ :: rest => max (nodesNesting body) (membersNesting rest)

end

/-- The greatest number of conditionals and loops that stand inside one another anywhere in
a program. -/
def blockNesting (program : Program) : Nat := nodesNesting program.nodes

/-- A list of nodes nests as deep as the deepest of them. -/
theorem nesting_le_of_mem {node : Node} {nodes : List Node} (member : node ∈ nodes) :
    node.blockNesting ≤ nodesNesting nodes := by
  induction member with
  | head rest => exact Nat.le_max_left _ _
  | tail first _ inductionHypothesis => exact Nat.le_trans inductionHypothesis (Nat.le_max_right _ _)

/-- The members of a class nest as deep as the deepest body. -/
theorem member_nesting_le {member : Member Node} {members : List (Member Node)}
    (isMember : member ∈ members) : nodesNesting member.body ≤ membersNesting members := by
  induction isMember with
  | head rest => exact Nat.le_max_left _ _
  | tail first _ inductionHypothesis => exact Nat.le_trans inductionHypothesis (Nat.le_max_right _ _)

/-- The body of a declared function is part of the program. -/
theorem function_nesting_le {program : Program} {name : String} {function : Function Node}
    (found : program.function? name = some function) :
    nodesNesting function.body ≤ program.blockNesting := by
  rcases mem_nodes_of_function? found with declared | isMain
  · exact nesting_le_of_mem declared
  · exact nesting_le_of_mem isMain

/-- The body of a method that a call finds is part of the program. -/
theorem method_nesting_le {program : Program} {call : MethodCall} {recorder : Recorder}
    {method : Member Node} (found : Recorder.calledMethod? program call recorder = some method) :
    nodesNesting method.body ≤ program.blockNesting := by
  obtain ⟨definition, declared, isMember⟩ := Recorder.exists_class_of_calledMethod? found
  exact Nat.le_trans (member_nesting_le isMember) (nesting_le_of_mem declared)

end Program

theorem Timeline.upTo_length (timeline : Timeline) : timeline.upTo timeline.length = timeline := by
  rw [upTo, length, List.take_length]

namespace Recorder

open Program (Node nodesNesting branchNesting)

/-- The body of a frame is part of the program or of the statement that opens it. -/
theorem frame_nesting_le {program : Program} {recorder : Recorder} {node : Node} {frame : Frame}
    (opens : frame? program recorder node = some frame)
    (nesting : node.blockNesting ≤ program.blockNesting) :
    branchNesting frame.body ≤ program.blockNesting := by
  cases node with
  | mainFunction function =>
      cases opens
      exact nesting
  | functionCall call =>
      simp only [frame?] at opens
      split at opens
      next callee found =>
        cases opens
        exact Program.function_nesting_le found
      · cases opens
        exact nesting
  | methodCall call =>
      simp only [frame?] at opens
      split at opens
      next method found =>
        cases opens
        exact Program.method_nesting_le found
      · cases opens
        exact Nat.zero_le _
  | _ => contradiction

/-- The conditionals and loops that stand inside one another in a part. A block is inside
the one that it belongs to. -/
def Part.blockNesting : Part → Nat
  | .statement node => node.blockNesting
  | .statements nodes => nodesNesting nodes
  | .block _ _ nodes => 1 + branchNesting nodes
  | .body nodes => branchNesting nodes

/-- The scopes that callee bodies may open when so many bodies are open and blocks nest at
most so deep: in each body that is still entered its blocks and one call. -/
def bodyRoom (nesting depth : Nat) : Nat := (maxCallDepth - depth) * (1 + nesting)

/-- The scopes that a part may open when so many bodies are open: its own blocks, one call,
and what the called body opens. -/
def Part.room (nesting depth : Nat) (part : Part) : Nat :=
  match part with
  | .body _ => bodyRoom nesting depth
  | _ => part.blockNesting + 1 + bodyRoom nesting depth

/-- A body that is entered has room for the scopes of its statements. -/
theorem bodyRoom_succ {nesting depth : Nat} (shallow : depth < maxCallDepth) :
    bodyRoom nesting depth = nesting + 1 + bodyRoom nesting (depth + 1) := by
  obtain ⟨budget, split⟩ := Nat.exists_eq_add_of_lt shallow
  have rooms : maxCallDepth - depth = budget + 1 := by omega
  have fewerRooms : maxCallDepth - (depth + 1) = budget := by omega
  rw [bodyRoom, bodyRoom, rooms, fewerRooms, Nat.succ_mul]
  omega

/-- The scopes open now, and a limit that the open scopes have kept at every step so far. -/
structure OpenWithin (limit : Nat) (openScopes : List String) (recorder : Recorder) : Prop where
  replayed : recorder.timeline.openScopes? = some openScopes
  bounded : ∀ step scopes, (recorder.timeline.upTo step).openScopes? = some scopes →
    scopes.length ≤ limit

namespace OpenWithin

variable {limit : Nat} {openScopes : List String} {recorder : Recorder}

/-- No more scopes are open than the limit allows. -/
theorem length_le (within : OpenWithin limit openScopes recorder) : openScopes.length ≤ limit := by
  apply within.bounded recorder.timeline.length
  rw [Timeline.upTo_length]
  exact within.replayed

/-- An event keeps the limit if the scopes open after it do. -/
theorem emit {event : Event} {next : List String} (within : OpenWithin limit openScopes recorder)
    (applied : event.applyStrict openScopes = some next) (fits : next.length ≤ limit) :
    OpenWithin limit next (recorder.emit event) := by
  have replayed := openScopes?_emit within.replayed applied
  refine ⟨replayed, ?_⟩
  intro step scopes replayedUpTo
  by_cases before : step ≤ recorder.timeline.events.length
  · apply within.bounded step
    rwa [Timeline.upTo, timeline_emit, List.take_append_of_le_length before] at replayedUpTo
  · have whole : (recorder.emit event).timeline.upTo step = (recorder.emit event).timeline := by
      rw [Timeline.upTo, List.take_of_length_le]
      rw [timeline_emit, List.length_append, List.length_singleton]
      omega
    rw [whole, replayed] at replayedUpTo
    obtain rfl := Option.some.inj replayedUpTo
    exact fits

/-- Recording without opening or closing a scope keeps the limit. -/
theorem sideBySide {related : String → String → Prop} {other recorderNow otherNow : Recorder}
    (within : OpenWithin limit openScopes recorder)
    (sideBySide : SideBySide related recorder other recorderNow otherNow) :
    OpenWithin limit openScopes recorderNow := by
  induction sideBySide with
  | refl => exact within
  | record _ _ _ inductionHypothesis => exact inductionHypothesis.emit rfl within.length_le
  | memberWrite _ _ _ inductionHypothesis => exact inductionHypothesis.emit rfl within.length_le
  | allocate _ _ inductionHypothesis =>
      exact ⟨inductionHypothesis.replayed, inductionHypothesis.bounded⟩

/-- The global scope alone is within every limit that allows one scope. -/
theorem start (positive : 1 ≤ limit) :
    OpenWithin limit [globalScope] (empty.emit (.push globalScope none)) := by
  have nothing : OpenWithin limit [] empty := by
    refine ⟨rfl, ?_⟩
    intro step scopes replayed
    cases step <;> cases replayed <;> exact Nat.zero_le _
  exact nothing.emit rfl positive

end OpenWithin

/-- A walk keeps every limit that leaves room for its part. -/
theorem Walks.openWithin {context : Context} {part : Part} {scope : String}
    {before after : Walker} {limit : Nat} {openScopes : List String}
    (walks : Walks context part scope before after)
    (nesting : part.blockNesting ≤ context.program.blockNesting)
    (within : OpenWithin limit openScopes before.recorder)
    (room : openScopes.length + part.room context.program.blockNesting before.depth ≤ limit) :
    OpenWithin limit openScopes after.recorder := by
  induction walks generalizing openScopes with
  | plain isPlain =>
      exact within.sideBySide (SideBySide.visit (fun _ _ => rfl) isPlain (.refl _) rfl _
        context.naming context.naming (bodyWalk context 0) (bodyWalk context 0))
  | @call node scope before after frame opens _ bodyHypothesis =>
      simp only [Part.room] at room
      -- The frame is the one call that the statement has room for besides its blocks.
      have opened : OpenWithin limit (frame.scope :: openScopes)
          (before.recorder.emit (.push frame.scope frame.line)) :=
        within.emit rfl (by rw [List.length_cons]; omega)
      have bound := opened.sideBySide (SideBySide.bind rfl opens (.refl _))
      have walked := bodyHypothesis (frame_nesting_le opens nesting) bound
        (by rw [List.length_cons]; simp only [Part.room, Walker.note]; omega)
      exact walked.emit (Event.applyStrict_pop _ _ _) within.length_le
  | ifStatement thenBranch _ thenHypothesis elseHypothesis =>
      simp only [Part.room, Part.blockNesting, Node.blockNesting] at *
      refine elseHypothesis (by omega) (thenHypothesis (by omega) within (by omega)) ?_
      rw [thenBranch.depth_eq]
      omega
  | whileStatement _ loopHypothesis => exact loopHypothesis nesting within room
  | unknown _ childrenHypothesis =>
      simp only [Part.room, Part.blockNesting, Node.blockNesting] at *
      apply childrenHypothesis _ within
      · split <;> omega
      · split <;> omega
  | noBlock => exact within
  | @block kind line body scope before after _ statementsHypothesis =>
      simp only [Part.room, Part.blockNesting, branchNesting] at *
      have counted : OpenWithin limit openScopes
          { before.recorder with blocks := before.recorder.blocks.bump kind } :=
        ⟨within.replayed, within.bounded⟩
      have opened : OpenWithin limit (before.blockScope context.naming kind :: openScopes)
          (before.openBlock context.naming kind line).recorder :=
        counted.emit rfl (by rw [List.length_cons]; omega)
      have walked := statementsHypothesis (by omega) opened
        (by rw [List.length_cons]; simp only [Walker.openBlock]; omega)
      exact walked.emit (Event.applyStrict_pop _ _ _) within.length_le
  | noBody => exact within
  | tooDeep => exact within
  | body shallow _ statementsHypothesis =>
      simp only [Part.room, Part.blockNesting, branchNesting] at *
      rw [bodyRoom_succ shallow] at room
      exact statementsHypothesis nesting within (by simp only [Walker.enter]; omega)
  | nil => exact within
  | cons first _ firstHypothesis restHypothesis =>
      simp only [Part.room, Part.blockNesting, nodesNesting] at *
      refine restHypothesis (by omega) (firstHypothesis (by omega) within (by omega)) ?_
      rw [first.depth_eq]
      omega

end Recorder

namespace Program

open Recorder (Context OpenWithin Part Walks)

/-- The open scopes of a timeline keep the limit that the text of the program sets. -/
theorem timeline_openWithin (program : Program) (naming : ScopeNaming) :
    OpenWithin (1 + 33 * (1 + program.blockNesting)) [globalScope]
      (Recorder.run { program, naming }) := by
  obtain ⟨after, walks, sameRecorder⟩ := Recorder.exists_walks_program { program, naming }
  rw [← sameRecorder]
  apply walks.openWithin (Nat.le_refl _) (OpenWithin.start (by omega))
  simp only [List.length_singleton, Part.room, Part.blockNesting, Recorder.bodyRoom,
    Recorder.maxCallDepth, Recorder.Walker.start, blockNesting]
  omega

/-- Every program has a timeline, however its functions call each other. Each part of it has
exactly one walk, which records what the functions compute, leaves the counter of open
bodies as it was and never raises it above the limit. The walk of the whole program gives
the timeline, and at every step of it the open scopes are bounded by the blocks that stand
inside one another in the text. -/
theorem walk_bounded (program : Program) (naming : ScopeNaming) :
    let context : Context := { program, naming }
    (∀ part scope before, ∃! after, Walks context part scope before after) ∧
      (∀ part scope before after, Walks context part scope before after →
        after.recorder = part.walk context (32 - before.depth) scope before.recorder ∧
          after.depth = before.depth ∧ after.peak ≤ max before.peak 32) ∧
      (∃ after, Walks context (.statements program.nodes) globalScope .start after ∧
        after.recorder.timeline = program.timeline naming ∧ after.depth = 0 ∧ after.peak ≤ 32) ∧
      ∀ step, ∃ openScopes,
        ((program.timeline naming).upTo step).openScopes? = some openScopes ∧
          openScopes.length ≤ 1 + 33 * (1 + program.blockNesting) := by
  intro context
  refine ⟨?_, ?_, ?_, ?_⟩
  · intro part scope before
    obtain ⟨after, walks⟩ := Walks.total context part scope before
    exact ⟨after, walks, fun other otherWalks => otherWalks.unique walks⟩
  · intro part scope before after walks
    exact ⟨walks.recorder_eq, walks.depth_eq, walks.peak_le⟩
  · obtain ⟨after, walks, sameRecorder⟩ := Recorder.exists_walks_program context
    exact ⟨after, walks, congrArg Recorder.timeline sameRecorder, walks.depth_eq, walks.peak_le⟩
  · intro step
    obtain ⟨openScopes, replayed⟩ :=
      Timeline.openScopes?_upTo (program.timeline_openScopes? naming) step
    exact ⟨openScopes, replayed,
      (program.timeline_openWithin naming).bounded step openScopes replayed⟩

end Program

end MemoryTimeline
