import Mathlib.Data.List.Nodup
import MemoryTimeline.Proofs.HeapReplay
import MemoryTimeline.Proofs.SideBySide
import MemoryTimeline.Proofs.StackAgreement
import MemoryTimeline.Proofs.WalkedParts

/-!
# The scopes that events are recorded in

A walk passes the scope around a statement down to it, and that scope is the innermost one
that is open in the timeline so far: both change together, when a frame or a block is opened
and when it is closed (`Walks.attributed`). A statement records in this scope unless it has
one of its own, which is the heap, the name of a class, or a scope that the program states.
What is recorded in the innermost scope or on the heap is shown at once.
-/

namespace MemoryTimeline

/-- The innermost open scope after all events, if every scope was closed as the innermost
one. -/
def Timeline.innermost? (timeline : Timeline) : Option String :=
  timeline.openScopes?.bind List.head?

/-- Where a program may record after some events: in the innermost open scope, on the heap,
under the name of a class, or in a scope that one of its nodes states, without the mark of a
function if it begins with one. -/
def Program.RecordsIn (program : Program) (before : Timeline) (scope : String) : Prop :=
  before.innermost? = some scope ∨ scope = "heap" ∨
    (∃ definition, program.Contains (.classDeclaration definition) ∧ scope = definition.name) ∨
    ∃ node stated, program.Contains node ∧ stated ∈ node.statedScopes ∧ stated ≠ "" ∧
      (stated = "function:" ++ scope ∨
        stated = scope ∧ ∀ rest, stated ≠ "function:" ++ rest)

/-- An event that records a variable or writes to a member does so where its program may. -/
def Event.AttributedAfter (program : Program) (before : Timeline) : Event → Prop
  | .var record => program.RecordsIn before record.scope
  | .memberWrite write => program.RecordsIn before write.scope
  | _ => True

namespace Recorder

/-- A scope that is the one around the statement or one that a node of the program brings
with it. -/
def AroundOrOwn (program : Program) (around scope : String) : Prop :=
  scope = around ∨ ∃ node, program.Contains node ∧ node.OwnScope scope

/-- The scopes open now, with all events so far recorded where the program may. -/
structure Attributed (program : Program) (openScopes : List String) (recorder : Recorder) :
    Prop where
  replayed : recorder.timeline.openScopes? = some openScopes
  placed : Everywhere (fun before event _ => event.AttributedAfter program ⟨before⟩)
    recorder.timeline.events

namespace Attributed

variable {program : Program} {openScopes outer : List String} {scope : String}
  {recorder : Recorder}

/-- An event that is attributed to the events before it keeps all of them attributed. -/
theorem emit (attributed : Attributed program openScopes recorder) {event : Event}
    {next : List String} (applied : event.applyStrict openScopes = some next)
    (placed : event.AttributedAfter program recorder.timeline) :
    Attributed program next (recorder.emit event) where
  replayed := openScopes?_emit attributed.replayed applied
  placed := by
    rw [timeline_emit]
    refine attributed.placed.append (fun _ _ _ earlier => earlier) ?_
    exact everywhere_cons_iff.mpr ⟨by simpa using placed, everywhere_nil⟩

/-- The scope around a statement is the innermost open one, and the other scopes are stated
by the program. -/
theorem recordsIn (attributed : Attributed program (scope :: outer) recorder) {recorded : String}
    (allowed : AroundOrOwn program scope recorded) :
    program.RecordsIn recorder.timeline recorded := by
  rcases allowed with rfl | ⟨node, contains, own⟩
  · have innermost : recorder.timeline.innermost? = some recorded := by
      rw [Timeline.innermost?, attributed.replayed]
      rfl
    exact .inl innermost
  · cases own with
    | heap => exact .inr (.inl rfl)
    | @className definition => exact .inr (.inr (.inl ⟨definition, contains, rfl⟩))
    | @stated _ stated states given =>
        have unmarked := eq_withoutFunctionMark_iff.mp (Eq.refl (withoutFunctionMark stated))
        exact .inr (.inr (.inr ⟨node, stated, contains, states, given, unmarked⟩))

/-- Recording without opening or closing a scope keeps events where they may be. -/
theorem sideBySide {other recorderNow otherNow : Recorder}
    (attributed : Attributed program (scope :: outer) recorder)
    (sideBySide : SideBySide (fun recorded _ => AroundOrOwn program scope recorded) recorder other
      recorderNow otherNow) :
    Attributed program (scope :: outer) recorderNow := by
  induction sideBySide with
  | refl => exact attributed
  | record _ entry allowed inductionHypothesis =>
      exact inductionHypothesis.emit rfl (inductionHypothesis.recordsIn allowed)
  | memberWrite _ write allowed inductionHypothesis =>
      exact inductionHypothesis.emit rfl (inductionHypothesis.recordsIn allowed)
  | allocate _ _ inductionHypothesis =>
      exact ⟨inductionHypothesis.replayed, inductionHypothesis.placed⟩

/-- The push of the global scope needs no scope around it. -/
theorem start : Attributed program [globalScope] (empty.emit (.push globalScope none)) := by
  have nothing : Attributed program [] empty := ⟨rfl, everywhere_nil⟩
  exact nothing.emit rfl trivial

end Attributed

/-- A walk records where the program may, if the scope that it is in is the innermost open
one. A frame or a block becomes the innermost scope for its statements. -/
theorem Walks.attributed {context : Context} {part : Part} {scope : String}
    {before after : Walker} {outer : List String} (walks : Walks context part scope before after)
    (within : part.Within context.program)
    (attributed : Attributed context.program (scope :: outer) before.recorder) :
    Attributed context.program (scope :: outer) after.recorder := by
  induction walks generalizing outer with
  | @plain node scope walker isPlain =>
      -- The other side of the pair is the same recorder; only the scopes recorded in matter.
      let recorded := visit context (bodyWalk context 0) node scope walker.recorder
      have paired : SideBySide (fun recorded _ => AroundOrOwn context.program scope recorded)
          walker.recorder walker.recorder recorded recorded :=
        SideBySide.visit (fun _ own => .inr ⟨node, within.statement, own⟩) isPlain (.refl _)
          (.inl rfl) _ _ _ _ _
      exact attributed.sideBySide paired
  | @call node scope before after frame opens _ bodyHypothesis =>
      have opened : Attributed context.program (frame.scope :: scope :: outer)
          (before.recorder.emit (.push frame.scope frame.line)) := attributed.emit rfl trivial
      have bound := opened.sideBySide (SideBySide.bind (.inl rfl) opens (.refl _))
      have walked := bodyHypothesis (frame_within opens within.statement) bound
      exact walked.emit (Event.applyStrict_pop _ _ _) trivial
  | ifStatement _ _ thenHypothesis elseHypothesis =>
      exact elseHypothesis within.elseBranch (thenHypothesis within.thenBranch attributed)
  | whileStatement _ loopHypothesis => exact loopHypothesis within.loop attributed
  | unknown _ childrenHypothesis => exact childrenHypothesis within.children attributed
  | noBlock => exact attributed
  | @block kind line body scope before after _ statementsHypothesis =>
      have counted : Attributed context.program (scope :: outer)
          { before.recorder with blocks := before.recorder.blocks.bump kind } :=
        ⟨attributed.replayed, attributed.placed⟩
      have opened : Attributed context.program
          (before.blockScope context.naming kind :: scope :: outer)
          (before.openBlock context.naming kind line).recorder := counted.emit rfl trivial
      have walked := statementsHypothesis within opened
      exact walked.emit (Event.applyStrict_pop _ _ _) trivial
  | noBody => exact attributed
  | tooDeep => exact attributed
  | body _ _ statementsHypothesis => exact statementsHypothesis within attributed
  | nil => exact attributed
  | cons _ _ firstHypothesis restHypothesis =>
      exact restHypothesis within.tail (firstHypothesis within.head attributed)

end Recorder

namespace Snapshot

/-- The global scope is always on the stack that is shown. -/
theorem global_mem_rootedAtGlobal (stack : List String) : globalScope ∈ rootedAtGlobal stack := by
  unfold rootedAtGlobal
  split
  next outermost => exact List.mem_of_mem_head? outermost
  · exact List.mem_cons_self

/-- Rooting a stack at the global scope takes nothing from it. -/
theorem mem_rootedAtGlobal {scope : String} {stack : List String} (member : scope ∈ stack) :
    scope ∈ rootedAtGlobal stack := by
  by_cases isGlobal : scope = globalScope
  · rw [isGlobal]
    exact global_mem_rootedAtGlobal stack
  · unfold rootedAtGlobal
    split
    · exact member
    · simp [member, isGlobal]

end Snapshot

namespace Timeline

variable {timeline : Timeline} {step : Nat}

/-- Every open scope is on the stack, whatever has been closed before. -/
theorem mem_stack_of_open {openScopes : List String} {scope : String}
    (replayed : (timeline.upTo step).openScopes? = some openScopes) (isOpen : scope ∈ openScopes) :
    scope ∈ (timeline.snapshot step).stack := by
  by_cases isGlobal : scope = globalScope
  · rw [isGlobal]
    exact Snapshot.global_mem_rootedAtGlobal _
  · have strictLocal : scope ∈ Snapshot.localScopes openScopes := by
      simp [Snapshot.localScopes, isOpen, isGlobal]
    rw [← (agrees_upTo replayed).locals] at strictLocal
    have tolerant := (List.mem_filter.mp strictLocal).1
    exact Snapshot.mem_rootedAtGlobal (List.mem_reverse.mpr tolerant)

/-- A live record is the one that its scope and name find. -/
theorem get?_of_mem_live {record : Record} (live : record ∈ (timeline.snapshot step).live) :
    (timeline.snapshot step).get? record.scope record.name = some record := by
  cases found : (timeline.snapshot step).get? record.scope record.name with
  | none => simpa using List.find?_eq_none.mp found record live
  | some other =>
      have sameKey : other.key = record.key := by
        simpa [Record.key] using List.find?_some found
      have otherLive := List.mem_of_find?_eq_some found
      rw [List.inj_on_of_nodup_map (timeline.nodup_snapshot_live step) otherLive live sameKey]

/-- What is recorded on the heap or in an open scope is shown at once. -/
theorem live_of_recorded {record : Record} (recorded : timeline.events[step]? = some (.var record))
    (shown : record.scope = heapScope ∨ record.scope ∈ (timeline.snapshot (step + 1)).stack) :
    record ∈ (timeline.snapshot (step + 1)).live := by
  refine mem_snapshot_live.mpr ⟨?_, shown⟩
  rw [List.take_add_one, recorded, Option.toList_some, Snapshot.recordsAfter_concat]
  exact Snapshot.mem_putRecord_self record _

/-- A record neither opens nor closes a scope. -/
theorem openScopes?_upTo_var {record : Record}
    (recorded : timeline.events[step]? = some (.var record)) :
    (timeline.upTo (step + 1)).openScopes? = (timeline.upTo step).openScopes? := by
  rw [openScopes?, upTo, List.take_add_one, recorded, Option.toList_some, List.foldlM_append]
  exact Option.bind_fun_some _

/-- What is recorded in the innermost open scope or on the heap is found in the snapshot
right after it. -/
theorem get?_of_recorded {record : Record} (recorded : timeline.events[step]? = some (.var record))
    (inFrame : (timeline.upTo step).innermost? = some record.scope ∨ record.scope = heapScope) :
    (timeline.snapshot (step + 1)).get? record.scope record.name = some record := by
  refine get?_of_mem_live (live_of_recorded recorded ?_)
  rcases inFrame with innermost | onHeap
  · obtain ⟨openScopes, replayed, isHead⟩ := Option.bind_eq_some_iff.mp innermost
    rw [← openScopes?_upTo_var recorded] at replayed
    exact .inr (mem_stack_of_open replayed (List.mem_of_mem_head? isHead))
  · exact .inl onHeap

end Timeline

namespace Program

/-- A whole program records where it may. -/
theorem run_attributed (program : Program) (naming : ScopeNaming) :
    Recorder.Attributed program [globalScope] (Recorder.run { program, naming }) := by
  obtain ⟨after, walks, recorded⟩ := Recorder.exists_walks_program { program, naming }
  rw [← recorded]
  exact walks.attributed (.topLevel program) .start

/-- The events of a timeline are attributed to the right frames. Every record and every
member write stands in the innermost scope that is open before it, on the heap, under the
name of a class of the program, or in a scope that some node, declarator or member states,
without the mark of a function. A record in the innermost scope or on the heap is live right
after it, exactly as it was recorded. -/
theorem timeline_attributed (program : Program) (naming : ScopeNaming) :
    let timeline := program.timeline naming
    (∀ position record, timeline.events[position]? = some (.var record) →
      program.RecordsIn (timeline.upTo position) record.scope ∧
        ((timeline.upTo position).innermost? = some record.scope ∨ record.scope = "heap" →
          (timeline.snapshot (position + 1)).get? record.scope record.name = some record)) ∧
      ∀ position write, timeline.events[position]? = some (.memberWrite write) →
        program.RecordsIn (timeline.upTo position) write.scope := by
  intro timeline
  have placed (position : Nat) (event : Event) (found : timeline.events[position]? = some event) :
      event.AttributedAfter program (timeline.upTo position) := by
    obtain ⟨inside, isEvent⟩ := List.getElem?_eq_some_iff.mp found
    refine (program.run_attributed naming).placed _ event (timeline.events.drop (position + 1)) ?_
    rw [← isEvent, ← List.drop_eq_getElem_cons inside]
    exact (List.take_append_drop position timeline.events).symm
  refine ⟨?_, ?_⟩
  · intro position record recorded
    exact ⟨placed position _ recorded, Timeline.get?_of_recorded recorded⟩
  · intro position write written
    exact placed position _ written

end Program

end MemoryTimeline
