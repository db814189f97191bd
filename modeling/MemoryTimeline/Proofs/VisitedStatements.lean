import MemoryTimeline.Proofs.Balance
import MemoryTimeline.Proofs.WalkRules

/-!
# The statements that a walk comes to

`ComesTo context part scope walker` says that the walk of a program comes to a part, in
which scope, and with what recorded by then. What a part records from there begins the rest
of the timeline (`ComesTo.timeline_extends`), so a property of one statement, proved from
the recorder that it finds, is a property of the timeline of every program that visits the
statement.
-/

namespace MemoryTimeline

namespace Recorder

open Program (Node)

/-- The parts that the walk of a program comes to, each with the scope around it and the
walk as it stands then. -/
inductive ComesTo (context : Context) : Part → String → Walker → Prop where
  | program : ComesTo context (.statements context.program.nodes) globalScope .start
  | frame {node scope walker frame} (outer : ComesTo context (.statement node) scope walker)
      (opens : frame? context.program walker.recorder node = some frame) :
      ComesTo context (.body frame.body) frame.scope
        (walker.note fun recorder => frame.bind (recorder.emit (.push frame.scope frame.line)))
  | thenBranch {thenBody elseBody line scope walker}
      (outer : ComesTo context (.statement (.ifStatement thenBody elseBody line)) scope walker) :
      ComesTo context (.block .thenBranch line thenBody) scope walker
  | elseBranch {thenBody elseBody line scope before middle}
      (outer : ComesTo context (.statement (.ifStatement thenBody elseBody line)) scope before)
      (thenBranch : Walks context (.block .thenBranch line thenBody) scope before middle) :
      ComesTo context (.block .elseBranch line elseBody) scope middle
  | loop {body line scope walker}
      (outer : ComesTo context (.statement (.whileStatement body line)) scope walker) :
      ComesTo context (.block .loop line body) scope walker
  | children {kind body members scope walker}
      (outer : ComesTo context (.statement (.unknown kind body members)) scope walker) :
      ComesTo context (.statements (if body.isEmpty then members else body)) scope walker
  | block {kind line body scope walker}
      (outer : ComesTo context (.block kind line (some body)) scope walker) :
      ComesTo context (.statements body) (walker.blockScope context.naming kind)
        (walker.openBlock context.naming kind line)
  | body {nodes scope walker} (outer : ComesTo context (.body (some nodes)) scope walker)
      (shallow : walker.depth < maxCallDepth) :
      ComesTo context (.statements nodes) scope walker.enter
  | head {node nodes scope walker}
      (outer : ComesTo context (.statements (node :: nodes)) scope walker) :
      ComesTo context (.statement node) scope walker
  | tail {node nodes scope before middle}
      (outer : ComesTo context (.statements (node :: nodes)) scope before)
      (first : Walks context (.statement node) scope before middle) :
      ComesTo context (.statements nodes) scope middle

variable {context : Context} {part : Part} {scope : String} {before after : Walker}

/-- A walk by rules records. -/
theorem Walks.recording (walks : Walks context part scope before after) :
    Recording before.recorder after.recorder := by
  have entered := Recording.bodyWalk context (maxCallDepth - before.depth)
  rw [walks.recorder_eq]
  cases part with
  | statement node => exact Recording.visit entered context node scope before.recorder
  | statements nodes => exact Recording.walk entered context nodes scope before.recorder
  | block kind line nodes =>
      exact Recording.visitBlock entered context kind line nodes before.recorder
  | body nodes =>
      cases nodes with
      | none => exact .refl
      | some nodes => exact entered nodes scope before.recorder

/-- A walk adds events and takes none back. -/
theorem Walks.timeline_extends (walks : Walks context part scope before after) :
    before.recorder.timeline.events <+: after.recorder.timeline.events :=
  walks.recording.timeline_extends

/-- What a part has recorded when its walk is done begins the timeline of the program. The
parts around it are walked on from there, so each case hands the walk of a part to the part
that it stands in. -/
theorem ComesTo.timeline_extends (comes : ComesTo context part scope before)
    (walks : Walks context part scope before after) :
    after.recorder.timeline.events <+: (Recorder.run context).timeline.events := by
  have closed (walker : Walker) (event : Event) : walker.recorder.timeline.events <+:
      (walker.note (emit event)).recorder.timeline.events := by
    rw [Walker.note, timeline_emit]
    exact List.prefix_append _ _
  induction comes generalizing after with
  | program =>
      rw [walks.recorder_eq]
      exact List.prefix_rfl
  | frame _ opens outerHypothesis =>
      exact (closed after _).trans (outerHypothesis (.call opens walks))
  | @thenBranch _ elseBody line scope _ _ outerHypothesis =>
      obtain ⟨final, elseBranch⟩ := Walks.total context (.block .elseBranch line elseBody) scope
        after
      exact elseBranch.timeline_extends.trans (outerHypothesis (.ifStatement walks elseBranch))
  | elseBranch _ thenBranch outerHypothesis => exact outerHypothesis (.ifStatement thenBranch walks)
  | loop _ outerHypothesis => exact outerHypothesis (.whileStatement walks)
  | children _ outerHypothesis => exact outerHypothesis (.unknown walks)
  | block _ outerHypothesis => exact (closed after _).trans (outerHypothesis (.block walks))
  | body _ shallow outerHypothesis =>
      -- Leaving the body changes the depth of the walk and not what it has recorded.
      have left := outerHypothesis (.body shallow walks)
      exact left
  | @head _ nodes scope _ _ outerHypothesis =>
      obtain ⟨final, rest⟩ := Walks.total context (.statements nodes) scope after
      exact rest.timeline_extends.trans (outerHypothesis (.cons walks rest))
  | tail _ first outerHypothesis => exact outerHypothesis (.cons first walks)

end Recorder

namespace Program

open Recorder (Context Frame bodyWalk frame? isPlain)

/-- The walk of a program comes to a statement, in the given scope and with the given recorder. -/
def Visits (program : Program) (naming : ScopeNaming) (node : Node) (scope : String)
    (recorder : Recorder) : Prop :=
  ∃ walker, Recorder.ComesTo ⟨program, naming⟩ (.statement node) scope walker ∧
    walker.recorder = recorder

namespace Visits

variable {program : Program} {naming : ScopeNaming} {node : Node} {scope : String}
  {recorder : Recorder}

/-- The timeline goes on with what a visited plain statement records. -/
theorem timeline_of_plain (visited : program.Visits naming node scope recorder)
    (plain : isPlain node) :
    let context : Context := ⟨program, naming⟩
    (Recorder.visit context (bodyWalk context 0) node scope recorder).timeline.events <+:
      (program.timeline naming).events := by
  obtain ⟨walker, comes, rfl⟩ := visited
  exact comes.timeline_extends (.plain plain)

/-- The timeline goes on with the scope that a visited call opens, and the parameters that it
binds there. -/
theorem timeline_of_frame (visited : program.Visits naming node scope recorder) {frame : Frame}
    (opens : frame? program recorder node = some frame) :
    (frame.bind (recorder.emit (.push frame.scope frame.line))).timeline.events <+:
      (program.timeline naming).events := by
  obtain ⟨walker, comes, rfl⟩ := visited
  have entered := comes.frame opens
  obtain ⟨after, walks⟩ := Recorder.Walks.total ⟨program, naming⟩ (.body frame.body) frame.scope
    (walker.note fun recorder => frame.bind (recorder.emit (.push frame.scope frame.line)))
  exact walks.timeline_extends.trans (entered.timeline_extends walks)

end Visits

end Program

end MemoryTimeline
