import MemoryTimeline.Proofs.Balance

/-!
# Heap identities

Allocations are numbered in the order in which they are recorded. The number of one
occurs in the pointer record right before its entity, and otherwise only after it: in
parameters, which take over pointees, and in member writes, which read the table of
allocations. `HeapCoherent` relates the counter and the table of a recorder to the events
recorded so far, and every action of a walk keeps it.
-/

namespace MemoryTimeline

/-- The allocation whose entity an event records. -/
def Event.allocated? : Event → Option HeapId
  | .var record => record.heap
  | _ => none

/-- Some events record the entity of an allocation, under a name. -/
def Allocated (events : List Event) (heap : HeapId) (name : String) : Prop :=
  ∃ entity, .var entity ∈ events ∧ entity.heap = some heap ∧ entity.name = name

/-- What is allocated stays so as further events follow. -/
theorem Allocated.append {events : List Event} {heap : HeapId} {name : String}
    (allocated : Allocated events heap name) (more : List Event) :
    Allocated (events ++ more) heap name := by
  obtain ⟨entity, member, number, named⟩ := allocated
  exact ⟨entity, List.mem_append_left more member, number, named⟩

/-- A pointer record says the number and the name of its entity. -/
theorem AllocationPair.eq_of_pointee {heap number : HeapId} {pointer entity : Record}
    {name : String} (pair : AllocationPair heap pointer entity)
    (linked : pointer.pointee = some { name, heap := some number }) :
    heap = number ∧ entity.name = name := by
  have same := pair.pointee.symm.trans linked
  simp only [Option.some.injEq, Pointee.mk.injEq] at same
  exact ⟨same.2, pair.entityName.trans same.1⟩

/-- A property of every event of a list, given the events before and after it. -/
def Everywhere (holds : List Event → Event → List Event → Prop) (events : List Event) : Prop :=
  ∀ before event after, events = before ++ event :: after → holds before event after

theorem everywhere_nil {holds : List Event → Event → List Event → Prop} : Everywhere holds [] := by
  intro before event after split
  simp at split

/-- What holds everywhere holds of the first event, and of the rest with this event before it. -/
theorem everywhere_cons_iff {holds : List Event → Event → List Event → Prop} {event : Event}
    {rest : List Event} :
    Everywhere holds (event :: rest) ↔
      holds [] event rest ∧ Everywhere (fun before => holds (event :: before)) rest := by
  constructor
  · intro everywhere
    refine ⟨everywhere [] event rest rfl, ?_⟩
    intro before later after split
    exact everywhere (event :: before) later after (by rw [split, List.cons_append])
  · rintro ⟨atHead, inRest⟩ before later after split
    cases before with
    | nil =>
        obtain ⟨rfl, rfl⟩ := List.cons.inj split
        exact atHead
    | cons first before =>
        obtain ⟨rfl, splitRest⟩ := List.cons.inj split
        exact inRest before later after splitRest

/-- A property that later events keep holds throughout two parts if it holds throughout
each, the second after the first. -/
theorem Everywhere.append {holds : List Event → Event → List Event → Prop}
    {events more : List Event} (first : Everywhere holds events)
    (kept : ∀ before event after, holds before event after → holds before event (after ++ more))
    (second : Everywhere (fun before => holds (events ++ before)) more) :
    Everywhere holds (events ++ more) := by
  induction events generalizing holds with
  | nil => exact second
  | cons event rest inductionHypothesis =>
      obtain ⟨atHead, inRest⟩ := everywhere_cons_iff.mp first
      rw [List.cons_append, everywhere_cons_iff]
      exact ⟨kept _ _ _ atHead, inductionHypothesis inRest (fun _ => kept _) second⟩

/-- What a record owes to the events around it: an entity follows its pointer, and a
number that it points to is that of the entity that follows or of an earlier one. -/
structure Record.CoherentAt (record : Record) (before after : List Event) : Prop where
  entity : ∀ heap, record.heap = some heap →
    ∃ earlier pointer, before = earlier ++ [.var pointer] ∧ AllocationPair heap pointer record
  unallocated : record.heap = none → record.Unallocated
  pointee : ∀ name heap, record.pointee = some { name, heap := some heap } →
    (∃ entity later, after = .var entity :: later ∧ AllocationPair heap record entity) ∨
      record.kind = .parameter ∧ Allocated before heap name

/-- What a member write owes to the events before it. -/
structure MemberWrite.CoherentAt (write : MemberWrite) (before : List Event) : Prop where
  target : ∀ heap, write.target = some heap → Allocated before heap (heapName write.object)
  pointee : ∀ name heap, write.pointee = some { name, heap := some heap } →
    Allocated before heap name

/-- What an event owes to the events around it. -/
def Event.CoherentAt (before : List Event) (event : Event) (after : List Event) : Prop :=
  match event with
  | .var record => record.CoherentAt before after
  | .memberWrite write => write.CoherentAt before
  | _ => True

/-- Later events keep what an event owes. -/
theorem Event.CoherentAt.append {before after : List Event} {event : Event}
    (coherent : event.CoherentAt before after) (more : List Event) :
    event.CoherentAt before (after ++ more) := by
  cases event with
  | var record =>
      refine ⟨coherent.entity, coherent.unallocated, ?_⟩
      intro name heap linked
      rcases coherent.pointee name heap linked with ⟨entity, later, rfl, pair⟩ | earlier
      · exact .inl ⟨entity, later ++ more, rfl, pair⟩
      · exact .inr earlier
  | memberWrite write => exact coherent
  | push => trivial
  | pop => trivial

/-- The pointer of an allocation stands right before its entity. -/
theorem AllocationPair.pointer_coherentAt {heap : HeapId} {pointer entity : Record}
    (pair : AllocationPair heap pointer entity) (before : List Event) :
    pointer.CoherentAt before [.var entity] where
  entity := by
    intro number allocated
    rw [pair.pointerUnallocated.heap] at allocated
    contradiction
  unallocated _ := pair.pointerUnallocated
  pointee := by
    intro name number linked
    obtain ⟨rfl, _⟩ := pair.eq_of_pointee linked
    exact .inl ⟨entity, [], rfl, pair⟩

/-- The entity of an allocation stands right after its pointer. -/
theorem AllocationPair.entity_coherentAt {heap : HeapId} {pointer entity : Record}
    (pair : AllocationPair heap pointer entity) (before : List Event) :
    entity.CoherentAt (before ++ [.var pointer]) [] where
  entity := by
    intro number allocated
    rw [pair.entityHeap] at allocated
    obtain rfl := Option.some.inj allocated
    exact ⟨before, pointer, rfl, pair⟩
  unallocated := by
    intro unallocated
    rw [pair.entityHeap] at unallocated
    contradiction
  pointee := by
    intro name number linked
    rw [pair.entityPointee] at linked
    contradiction

/-- An allocation adds its two records to the timeline. -/
theorem Recorder.timeline_allocation (recorder : Recorder) (pointer entity : Record) :
    (((recorder.allocate pointer.name).2.record pointer).record entity).timeline.events =
      recorder.timeline.events ++ [.var pointer, .var entity] := by
  simp [record, allocate, timeline, emit]

/-- An allocation binds its pointer, and leaves other names as they were. -/
theorem Recorder.lookup_allocation (recorder : Recorder) (pointer entity : Record)
    (name : String) :
    (((recorder.allocate pointer.name).2.record pointer).record entity).allocations.lookup name =
      if name = pointer.name then some recorder.nextHeap
      else recorder.allocations.lookup name := by
  simp only [record, emit, allocate, List.lookup_cons]
  by_cases same : name = pointer.name
  · rw [if_pos same, same, beq_self_eq_true]
  · rw [if_neg same, beq_false_of_ne same]

/-- The events of a recorder, its counter and its table speak of the same allocations. -/
structure Recorder.HeapCoherent (recorder : Recorder) : Prop where
  numbered : recorder.timeline.events.filterMap Event.allocated? = List.range recorder.nextHeap
  placed : Everywhere Event.CoherentAt recorder.timeline.events
  table : ∀ pointer heap, recorder.allocations.lookup pointer = some heap →
    Allocated recorder.timeline.events heap (heapName pointer)

namespace Recorder.HeapCoherent

variable {recorder : Recorder}

/-- The events so far record the entity of every number that one of them points to. -/
theorem allocated_of_pointee (coherent : recorder.HeapCoherent) {source : Record} {name : String}
    {heap : HeapId} (member : .var source ∈ recorder.timeline.events)
    (linked : source.pointee = some { name, heap := some heap }) :
    Allocated recorder.timeline.events heap name := by
  obtain ⟨before, after, split⟩ := List.append_of_mem member
  have placed : source.CoherentAt before after := coherent.placed before (.var source) after split
  rcases placed.pointee name heap linked with ⟨entity, later, rfl, pair⟩ | ⟨_, earlier⟩
  · refine ⟨entity, ?_, pair.entityHeap, (pair.eq_of_pointee linked).2⟩
    rw [split]
    simp
  · rw [split]
    exact earlier.append _

/-- An event that records no entity keeps coherence if it owes nothing to what follows. -/
theorem emit (coherent : recorder.HeapCoherent) {event : Event}
    (unallocated : event.allocated? = none)
    (placed : event.CoherentAt recorder.timeline.events []) :
    (recorder.emit event).HeapCoherent where
  numbered := by
    rw [timeline_emit, List.filterMap_append, coherent.numbered]
    simp [unallocated, Recorder.emit]
  placed := by
    rw [timeline_emit]
    refine coherent.placed.append (fun _ _ _ placed => placed.append _) ?_
    exact everywhere_cons_iff.mpr ⟨by simpa using placed, everywhere_nil⟩
  table := by
    intro pointer heap found
    rw [timeline_emit]
    exact (coherent.table pointer heap found).append _

/-- An allocation takes the next number, for its pointer and its entity alike. -/
theorem allocate (coherent : recorder.HeapCoherent) {pointer entity : Record}
    (pair : AllocationPair recorder.nextHeap pointer entity) :
    (((recorder.allocate pointer.name).2.record pointer).record entity).HeapCoherent := by
  have events := recorder.timeline_allocation pointer entity
  refine ⟨?_, ?_, ?_⟩
  · have numbers : [Event.var pointer, .var entity].filterMap Event.allocated? =
        [recorder.nextHeap] := by
      simp [Event.allocated?, pair.pointerUnallocated.heap, pair.entityHeap]
    rw [events, List.filterMap_append, coherent.numbered, numbers]
    exact List.range_succ.symm
  · -- The pointer owes its number to the entity, so the two are added at once.
    rw [events]
    refine coherent.placed.append (fun _ _ _ placed => placed.append _) ?_
    exact everywhere_cons_iff.mpr ⟨pair.pointer_coherentAt _,
      everywhere_cons_iff.mpr ⟨pair.entity_coherentAt _, everywhere_nil⟩⟩
  · intro name heap found
    rw [events]
    rw [lookup_allocation] at found
    by_cases same : name = pointer.name
    · rw [if_pos same] at found
      obtain rfl := Option.some.inj found
      exact ⟨entity, by simp, pair.entityHeap, same ▸ pair.entityName⟩
    · rw [if_neg same] at found
      exact (coherent.table name heap found).append _

/-- An ordinary record points to no allocation, and a parameter to one of those so far. -/
theorem record (coherent : recorder.HeapCoherent) {entry : Record}
    (unallocated : entry.Unallocated)
    (pointee : ∀ name heap, entry.pointee = some { name, heap := some heap } →
      entry.kind = .parameter ∧ Allocated recorder.timeline.events heap name) :
    (recorder.record entry).HeapCoherent := by
  refine coherent.emit unallocated.heap ⟨?_, fun _ => unallocated, ?_⟩
  · intro heap allocated
    rw [unallocated.heap] at allocated
    contradiction
  · intro name heap linked
    exact .inr (pointee name heap linked)

end Recorder.HeapCoherent

/-- Every action of a walk keeps coherence. -/
theorem Recorder.Recording.heapCoherent {before after : Recorder}
    (recording : Recording before after) (coherent : before.HeapCoherent) :
    after.HeapCoherent := by
  induction recording with
  | refl => exact coherent
  | trans _ _ firstHypothesis secondHypothesis => exact secondHypothesis (firstHypothesis coherent)
  | ordinary ordinary =>
      refine coherent.record ordinary.toUnallocated ?_
      intro name heap linked
      have noNumber := ordinary.unlinked _ linked
      contradiction
  | parameter unallocated kind copied =>
      refine coherent.record unallocated ?_
      intro name heap linked
      obtain ⟨source, member, sourceLinked⟩ := copied _ linked
      refine ⟨kind, coherent.allocated_of_pointee ?_ sourceLinked⟩
      exact List.mem_reverse.mpr member
  | allocation pair => exact coherent.allocate pair
  | memberWrite target pointee =>
      refine coherent.emit rfl ⟨?_, ?_⟩
      · intro heap found
        exact coherent.table _ heap (target.symm.trans found)
      · intro name heap found
        rw [pointee, Option.bind_eq_some_iff] at found
        obtain ⟨pointer, _, bound⟩ := found
        obtain ⟨number, inTable, isPointee⟩ := Option.map_eq_some_iff.mp bound
        injection isPointee with sameName sameHeap
        obtain rfl := Option.some.inj sameHeap
        exact sameName ▸ coherent.table pointer number inTable
  | countBlock => exact ⟨coherent.numbered, coherent.placed, coherent.table⟩
  | @scope before _ scope line _ bodyHypothesis =>
      have opened : (before.emit (.push scope line)).HeapCoherent := coherent.emit rfl trivial
      exact (bodyHypothesis opened).emit rfl trivial

namespace Program

/-- A whole program leaves a coherent recorder. -/
theorem run_heapCoherent (program : Program) (naming : ScopeNaming) :
    (Recorder.run { program, naming }).HeapCoherent := by
  have start : Recorder.empty.HeapCoherent := ⟨rfl, everywhere_nil, by simp [Recorder.empty]⟩
  exact (Recorder.Recording.run _).heapCoherent (start.emit rfl trivial)

/-- Heap identities are coherent in the timeline of every program, under either naming of
blocks. The entities are numbered in order. Each is a block or an object of the heap and
follows the record of its pointer, and no other record is marked as allocated. A number
anywhere else, in a parameter or a member write, is that of an earlier entity, and a
pointee with this number has the name of that entity. -/
theorem timeline_heap_coherent (program : Program) (naming : ScopeNaming) :
    let events := (program.timeline naming).events
    (∃ count, events.filterMap Event.allocated? = List.range count) ∧
      (∀ before entity after heap, events = before ++ .var entity :: after →
        entity.heap = some heap →
        entity.scope = "heap" ∧ entity.allocation = some "new" ∧
          (entity.kind = .heap ∨ entity.kind = .object) ∧
          ∃ earlier pointer, before = earlier ++ [.var pointer] ∧ pointer.kind = .pointer ∧
            pointer.pointee = some { name := pointer.name ++ "_heap", heap := some heap } ∧
            entity.name = pointer.name ++ "_heap") ∧
      (∀ record, .var record ∈ events → record.heap = none →
        record.allocation = none ∧ record.kind ≠ .heap) ∧
      (∀ before record after name heap, events = before ++ .var record :: after →
        record.pointee = some { name, heap := some heap } →
        (∃ entity later, after = .var entity :: later ∧ entity.heap = some heap ∧
          entity.name = name) ∨
          record.kind = .parameter ∧ Allocated before heap name) ∧
      ∀ before write after, events = before ++ .memberWrite write :: after →
        (∀ heap, write.target = some heap → Allocated before heap (write.object ++ "_heap")) ∧
          ∀ name heap, write.pointee = some { name, heap := some heap } →
            Allocated before heap name := by
  intro events
  have coherent := program.run_heapCoherent naming
  have recordAt : ∀ before record after, events = before ++ .var record :: after →
      record.CoherentAt before after := fun before record after split =>
    coherent.placed before (.var record) after split
  have writeAt : ∀ before write after, events = before ++ .memberWrite write :: after →
      write.CoherentAt before := fun before write after split =>
    coherent.placed before (.memberWrite write) after split
  refine ⟨⟨_, coherent.numbered⟩, ?_, ?_, ?_, ?_⟩
  · intro before entity after heap split allocated
    obtain ⟨earlier, pointer, isBefore, pair⟩ :=
      (recordAt before entity after split).entity heap allocated
    exact ⟨pair.entityScope, pair.allocation, pair.entityKind, earlier, pointer, isBefore,
      pair.pointerKind, pair.pointee, pair.entityName⟩
  · intro record member unallocated
    obtain ⟨before, after, split⟩ := List.append_of_mem member
    have plain := (recordAt before record after split).unallocated unallocated
    exact ⟨plain.allocation, plain.kind⟩
  · intro before record after name heap split linked
    rcases (recordAt before record after split).pointee name heap linked with
      ⟨entity, later, follows, pair⟩ | earlier
    · exact .inl ⟨entity, later, follows, pair.entityHeap, (pair.eq_of_pointee linked).2⟩
    · exact .inr earlier
  · intro before write after split
    exact ⟨(writeAt before write after split).target, (writeAt before write after split).pointee⟩

end Program

end MemoryTimeline
