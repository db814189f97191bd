import Mathlib.Data.List.Induction
import Mathlib.Data.List.Pairwise
import MemoryTimeline.Proofs.HeapIdentity
import MemoryTimeline.Proofs.LiveRecords

/-!
# Allocations in a replay

A replay keeps the number of an entity with its key, and a pointee as it was recorded or
written. Along the timeline of a program this makes every replayed record with a number
the entity that was recorded under that number (`key_eq_of_heap`), and the name beside a
number in a pointee the name of that entity (`allocated_of_replayed_pointee`). A write to
a member therefore finds by number what it would find by name, and the two ways of
replaying member writes agree.
-/

namespace MemoryTimeline

namespace Snapshot

theorem recordsAfter_concat (events : List Event) (event : Event) :
    recordsAfter (events ++ [event]) = applyRecord (recordsAfter events) event := by
  simp [recordsAfter]

/-- A replayed record carries the number of the latest record of its key. -/
theorem exists_latest_of_replayed {events : List Event} {record : Record}
    (member : record ∈ recordsAfter events) :
    ∃ before latest after, events = before ++ .var latest :: after ∧
      latest.key = record.key ∧ latest.heap = record.heap ∧
      ∀ later, .var later ∈ after → later.key ≠ latest.key := by
  obtain ⟨before, latest, after, split, sameKey, lastOne, same, _⟩ :=
    (replayed_recordsAfter events).latest record member
  refine ⟨before, latest, after, split, sameKey, ?_, sameKey ▸ lastOne⟩
  rw [same]

/-- A record that no later one of its key follows is the last one of the key. -/
theorem eq_of_last {between after after' : List Event} {first second : Record}
    (split : .var first :: after = between ++ .var second :: after')
    (sameKey : first.key = second.key)
    (lastOne : ∀ later, .var later ∈ after → later.key ≠ first.key) : first = second := by
  cases between with
  | nil =>
      simp only [List.nil_append, List.cons.injEq, Event.var.injEq] at split
      exact split.1
  | cons _ between =>
      have isLater : .var second ∈ after := by
        rw [List.cons_append] at split
        rw [(List.cons.inj split).2]
        simp
      exact absurd sameKey.symm (lastOne second isLater)

/-- Two records of one key that no later one follows are the same. -/
theorem latest_unique {events before before' after after' : List Event} {first second : Record}
    (split : events = before ++ .var first :: after)
    (split' : events = before' ++ .var second :: after') (sameKey : first.key = second.key)
    (lastOne : ∀ later, .var later ∈ after → later.key ≠ first.key)
    (lastOne' : ∀ later, .var later ∈ after' → later.key ≠ second.key) : first = second := by
  rw [split, List.append_eq_append_iff] at split'
  rcases split' with ⟨_, _, tail⟩ | ⟨_, _, tail⟩
  · exact eq_of_last tail sameKey lastOne
  · exact (eq_of_last tail sameKey.symm lastOne').symm

/-- What a change of one record leaves comes from the records before it. -/
theorem mem_changeRecord {key : String × String} {change : Record → Record}
    {records : List Record} {record : Record}
    (member : record ∈ changeRecord key change records) :
    ∃ original ∈ records, record = original ∨ record = change original := by
  obtain ⟨original, kept, changed⟩ := List.mem_map.mp member
  refine ⟨original, kept, ?_⟩
  split at changed
  · exact .inr changed.symm
  · exact .inl changed.symm

/-- A write to a field gives it the pointee of the write or leaves it its own. -/
theorem writeField_pointee (write : MemberWrite) (record : Record) :
    (writeField write record).pointee = record.pointee ∨
      (writeField write record).pointee = write.pointee := by
  unfold writeField
  split
  · exact .inr rfl
  · exact .inl rfl

/-- A write to a member brings no pointee but its own. -/
theorem pointee_of_mem_applyWrite {write : MemberWrite} {records : List Record} {record : Record}
    (member : record ∈ applyWrite write records) :
    record.pointee = write.pointee ∨ ∃ original ∈ records, record.pointee = original.pointee := by
  have field {key : String × String} {records : List Record}
      (member : record ∈ changeRecord key (writeField write) records) :
      record.pointee = write.pointee ∨
        ∃ original ∈ records, record.pointee = original.pointee := by
    obtain ⟨original, kept, rfl | rfl⟩ := mem_changeRecord member
    · exact .inr ⟨_, kept, rfl⟩
    · rcases writeField_pointee write original with own | written
      · exact .inr ⟨original, kept, own⟩
      · exact .inl written
  unfold applyWrite at member
  split at member
  · rcases field member with written | ⟨middle, middleMember, same⟩
    · exact .inl written
    · obtain ⟨original, kept, rfl | rfl⟩ := mem_changeRecord middleMember
      · exact .inr ⟨_, kept, same⟩
      · exact .inr ⟨original, kept, same⟩
  · exact field member

/-- A pointee that some events give to a record or write to a member. -/
def PointeeGiven (events : List Event) (pointee : Pointee) : Prop :=
  (∃ source, .var source ∈ events ∧ source.pointee = some pointee) ∨
    ∃ write, .memberWrite write ∈ events ∧ write.pointee = some pointee

/-- A pointee that some event gives is given however many events follow. -/
theorem PointeeGiven.append {events : List Event} {pointee : Pointee}
    (given : PointeeGiven events pointee) (more : List Event) :
    PointeeGiven (events ++ more) pointee := by
  rcases given with ⟨source, member, linked⟩ | ⟨write, member, linked⟩
  · exact .inl ⟨source, List.mem_append_left more member, linked⟩
  · exact .inr ⟨write, List.mem_append_left more member, linked⟩

/-- A replay makes up no pointee. -/
theorem pointeeGiven_of_replayed {events : List Event} {record : Record} {pointee : Pointee}
    (member : record ∈ recordsAfter events) (linked : record.pointee = some pointee) :
    PointeeGiven events pointee := by
  induction events using List.reverseRecOn generalizing record with
  | nil => contradiction
  | append_singleton events event inductionHypothesis =>
      rw [recordsAfter_concat] at member
      cases event with
      | push => exact (inductionHypothesis member linked).append _
      | pop => exact (inductionHypothesis member linked).append _
      | var entry =>
          rcases mem_putRecord (replayed_recordsAfter events).distinct member with
            rfl | ⟨kept, _⟩
          · exact .inl ⟨record, by simp, linked⟩
          · exact (inductionHypothesis kept linked).append _
      | memberWrite write =>
          rcases pointee_of_mem_applyWrite member with written | ⟨original, kept, same⟩
          · exact .inr ⟨write, by simp, written.symm.trans linked⟩
          · exact (inductionHypothesis kept (same.symm.trans linked)).append _

/-- The key of the heap entity named for the object of a write, if it has a record. -/
def namedEntityKey? (write : MemberWrite) (records : List Record) : Option (String × String) :=
  let named := (heapScope, heapName write.object)
  if hasRecord named records then some named else none

/-- Carry out a write on the entity of a key, or else on the field in the write's own scope. -/
def applyWriteAt (entity : Option (String × String)) (write : MemberWrite)
    (records : List Record) : List Record :=
  match entity with
  | some key =>
    changeRecord (heapScope, qualified key.2 write.member) (writeField write)
      (changeRecord key (writeMember write) records)
  | none =>
    changeRecord (write.scope, qualified write.object write.member) (writeField write) records

/-- A write is carried out on the entity that its number or its name finds. -/
theorem applyWrite_eq_applyWriteAt (write : MemberWrite) (records : List Record) :
    applyWrite write records = applyWriteAt (entityKey? write records) write records := rfl

/-- The records after an event, with member writes finding their entity by name alone. -/
def applyRecordByName (records : List Record) : Event → List Record
  | .var record => putRecord record records
  | .memberWrite write => applyWriteAt (namedEntityKey? write records) write records
  | _ => records

/-- The records after some events, with member writes finding their entity by name alone. -/
def recordsByName (events : List Event) : List Record := events.foldl applyRecordByName []

theorem recordsByName_concat (events : List Event) (event : Event) :
    recordsByName (events ++ [event]) = applyRecordByName (recordsByName events) event := by
  simp [recordsByName]

end Snapshot

/-- The snapshot of a timeline at a step, with member writes finding their entity by name
alone. -/
def Timeline.snapshotByName (timeline : Timeline) (step : Nat) : Snapshot :=
  let snapshot := timeline.snapshot step
  { snapshot with
    live := (Snapshot.recordsByName (timeline.events.take step)).filter fun record =>
      record.isHeapScoped || snapshot.stack.contains record.scope }

namespace Program

variable {program : Program} {naming : ScopeNaming}

/-- What a record of a timeline owes to the events around it. -/
theorem record_coherentAt {before after : List Event} {record : Record}
    (split : (program.timeline naming).events = before ++ .var record :: after) :
    record.CoherentAt before after :=
  (program.run_heapCoherent naming).placed before (.var record) after split

/-- What a member write of a timeline owes to the events before it. -/
theorem write_coherentAt {before after : List Event} {write : MemberWrite}
    (split : (program.timeline naming).events = before ++ .memberWrite write :: after) :
    write.CoherentAt before :=
  (program.run_heapCoherent naming).placed before (.memberWrite write) after split

/-- Each number is that of one entity. -/
theorem entity_unique {first second : Record} {heap : HeapId}
    (firstMember : .var first ∈ (program.timeline naming).events)
    (secondMember : .var second ∈ (program.timeline naming).events)
    (firstNumber : first.heap = some heap) (secondNumber : second.heap = some heap) :
    first = second := by
  have numbered : (program.timeline naming).events.filterMap Event.allocated? = List.range _ :=
    (program.run_heapCoherent naming).numbered
  have distinct : ((program.timeline naming).events.filterMap Event.allocated?).Nodup :=
    numbered ▸ List.nodup_range
  rw [List.Nodup, List.pairwise_filterMap] at distinct
  have symmetric : Std.Symm fun left right : Event => ∀ number, left.allocated? = some number →
      ∀ number', right.allocated? = some number' → number ≠ number' :=
    ⟨fun _ _ differ number found number' found' => (differ number' found' number found).symm⟩
  have same : Event.var first = .var second := by
    by_contra different
    exact distinct.forall firstMember secondMember different heap firstNumber heap secondNumber
      rfl
  exact Event.var.inj same

/-- The name of an entity is the one that its number was allocated under. -/
theorem entity_name_eq {entity : Record} {heap : HeapId} {name : String}
    (member : .var entity ∈ (program.timeline naming).events) (number : entity.heap = some heap)
    (allocated : Allocated (program.timeline naming).events heap name) : entity.name = name := by
  obtain ⟨other, otherMember, otherNumber, named⟩ := allocated
  rw [entity_unique member otherMember number otherNumber, named]

/-- Entities stand on the heap. -/
theorem entity_scope_eq {entity : Record} {heap : HeapId}
    (member : .var entity ∈ (program.timeline naming).events)
    (number : entity.heap = some heap) : entity.scope = heapScope := by
  obtain ⟨before, after, split⟩ := List.append_of_mem member
  obtain ⟨_, _, _, pair⟩ := (record_coherentAt split).entity heap number
  exact pair.entityScope

section Replay

variable {applied : List Event} (initial : applied <+: (program.timeline naming).events)

include initial

/-- A replayed record with a number is kept under the name of its entity. -/
theorem key_eq_of_heap {record : Record} {heap : HeapId} {name : String}
    (member : record ∈ Snapshot.recordsAfter applied) (number : record.heap = some heap)
    (allocated : Allocated (program.timeline naming).events heap name) :
    record.key = (heapScope, name) := by
  obtain ⟨before, latest, after, split, sameKey, sameNumber, _⟩ :=
    Snapshot.exists_latest_of_replayed member
  have recorded : .var latest ∈ (program.timeline naming).events :=
    initial.subset (by simp [split])
  rw [number] at sameNumber
  have named := entity_name_eq recorded sameNumber allocated
  have onHeap := entity_scope_eq recorded sameNumber
  rw [← sameKey, Record.key, named, onHeap]

/-- The entity of a replayed pointee with a number is recorded, or else follows right after
its pointer. -/
theorem allocated_of_replayed_pointee {record : Record} {heap : HeapId} {name : String}
    (member : record ∈ Snapshot.recordsAfter applied)
    (linked : record.pointee = some { name, heap := some heap }) :
    Allocated applied heap name ∨
      ∃ before pointer entity, applied = before ++ [.var pointer] ∧
        AllocationPair heap pointer entity ∧ entity.name = name ∧
        applied ++ [.var entity] <+: (program.timeline naming).events := by
  obtain ⟨rest, complete⟩ := initial
  rcases Snapshot.pointeeGiven_of_replayed member linked with
    ⟨source, sourceMember, sourceLinked⟩ | ⟨write, writeMember, writeLinked⟩
  · obtain ⟨before, after, rfl⟩ := List.append_of_mem sourceMember
    have split : (program.timeline naming).events = before ++ .var source :: (after ++ rest) := by
      rw [← complete, List.append_assoc, List.cons_append]
    rcases (record_coherentAt split).pointee name heap sourceLinked with
      ⟨entity, later, follows, pair⟩ | ⟨_, earlier⟩
    · have named := (pair.eq_of_pointee sourceLinked).2
      cases after with
      | nil =>
          refine .inr ⟨before, source, entity, rfl, pair, named, later, ?_⟩
          rw [← complete, List.append_assoc]
          exact congrArg _ follows.symm
      | cons event after =>
          obtain ⟨rfl, _⟩ := List.cons.inj follows
          exact .inl ⟨entity, by simp, pair.entityHeap, named⟩
    · exact .inl (earlier.append _)
  · obtain ⟨before, after, rfl⟩ := List.append_of_mem writeMember
    have split : (program.timeline naming).events =
        before ++ .memberWrite write :: (after ++ rest) := by
      rw [← complete, List.append_assoc, List.cons_append]
    exact .inl (((write_coherentAt split).pointee name heap writeLinked).append _)

/-- The entity that a write reaches by number is the one that it reaches by name. -/
theorem entityKey?_eq_namedEntityKey? {write : MemberWrite}
    (next : applied ++ [.memberWrite write] <+: (program.timeline naming).events) :
    Snapshot.entityKey? write (Snapshot.recordsAfter applied) =
      Snapshot.namedEntityKey? write (Snapshot.recordsAfter applied) := by
  obtain ⟨rest, complete⟩ := next
  have split : (program.timeline naming).events = applied ++ .memberWrite write :: rest := by
    rw [← complete, List.append_assoc, List.singleton_append]
  unfold Snapshot.entityKey? Snapshot.namedEntityKey?
  cases found : write.target.bind fun heap =>
      (Snapshot.recordsAfter applied).find? (·.heap = some heap) with
  | none => rfl
  | some record =>
      obtain ⟨heap, target, isFirst⟩ := Option.bind_eq_some_iff.mp found
      have member := List.mem_of_find?_eq_some isFirst
      have number : record.heap = some heap := by simpa using List.find?_some isFirst
      have allocated : Allocated (program.timeline naming).events heap (heapName write.object) := by
        rw [← complete, List.append_assoc]
        exact ((write_coherentAt split).target heap target).append _
      have named := key_eq_of_heap initial member number allocated
      have present : Snapshot.hasRecord (heapScope, heapName write.object)
          (Snapshot.recordsAfter applied) = true :=
        List.any_eq_true.mpr ⟨record, member, by simpa using named⟩
      simp only [Option.map_some, Option.some_or, present, if_true, named]

/-- Along the timeline of a program, the two replays leave the same records. -/
theorem recordsByName_eq_recordsAfter :
    Snapshot.recordsByName applied = Snapshot.recordsAfter applied := by
  induction applied using List.reverseRecOn with
  | nil => rfl
  | append_singleton applied event inductionHypothesis =>
      have earlier := (List.prefix_append applied [event]).trans initial
      rw [Snapshot.recordsByName_concat, Snapshot.recordsAfter_concat, inductionHypothesis earlier]
      cases event with
      | push => rfl
      | pop => rfl
      | var => rfl
      | memberWrite write =>
          simp only [Snapshot.applyRecordByName, Snapshot.applyRecord,
            Snapshot.applyWrite_eq_applyWriteAt, entityKey?_eq_namedEntityKey? earlier initial]

end Replay

/-- Along the timeline of a program, numbers make no difference to a snapshot. -/
theorem snapshotByName_eq_snapshot (program : Program) (naming : ScopeNaming) (step : Nat) :
    (program.timeline naming).snapshotByName step = (program.timeline naming).snapshot step := by
  have initial : (program.timeline naming).events.take step <+: (program.timeline naming).events :=
    List.take_prefix step _
  rw [Timeline.snapshotByName, recordsByName_eq_recordsAfter initial]
  rfl

end Program

end MemoryTimeline
