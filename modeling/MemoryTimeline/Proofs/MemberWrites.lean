import Mathlib.Data.List.Forall2
import Mathlib.Data.List.Nodup
import MemoryTimeline.Proofs.HeapReplay

/-!
# What a write to a member changes

A write to a member reaches at most two records: the entity behind its object, whose members
it writes to, and the field that has a record of its own. It changes them where they stand
(`applyWrite_eq_map_of_reach`), so the keys of a replay and their order stay as they were, and
so do all other records. This holds after any events, whatever records they have left.
-/

namespace MemoryTimeline

namespace MemberWrite

/-- A record after a write to its members. The member that is written to has the new value,
and the other members keep their values and their order. -/
structure WritesMember (write : MemberWrite) (before after : Record) : Prop where
  same : after = { before with members := after.members }
  written : after.members.lookup write.member = some write.value
  others : after.members.filter (·.1 != write.member) =
    before.members.filter (·.1 != write.member)
  order : after.members.map Prod.fst =
    if before.members.any (·.1 == write.member) then before.members.map Prod.fst
    else before.members.map Prod.fst ++ [write.member]

/-- The record of a field after a write to it. It has the new value, and the new pointee if it
is a pointer. -/
structure WritesField (write : MemberWrite) (before after : Record) : Prop where
  same : after = { before with value := write.value, pointee := after.pointee }
  pointer : before.kind = .pointer → after.pointee = write.pointee
  other : before.kind ≠ .pointer → after.pointee = before.pointee

end MemberWrite

namespace Snapshot

variable {write : MemberWrite} {records : List Record}

/-- What a write does to the record of its entity. -/
theorem writesMember (write : MemberWrite) (record : Record) :
    write.WritesMember record (writeMember write record) where
  same := rfl
  written := by simp [writeMember, Table.lookup_put]
  others := Table.filter_put _ _ _
  order := Table.keys_put _ _ _

/-- What a write does to the record of its field. -/
theorem writesField (write : MemberWrite) (record : Record) :
    write.WritesField record (writeField write record) where
  same := rfl
  pointer := fun isPointer => if_pos isPointer
  other := fun notPointer => if_neg notPointer

/-- The heap entity that a write reaches: the first record of its allocation, and otherwise
the record named for its object. -/
def writtenEntity? (write : MemberWrite) (records : List Record) : Option Record :=
  (write.target.bind fun heap => records.find? (·.heap = some heap)).or
    (records.find? (·.key = ("heap", write.object ++ "_heap")))

/-- The key of the field that a write reaches: a field of the entity, and without an entity a
field of its object in its own scope. -/
def writtenField (write : MemberWrite) (records : List Record) : String × String :=
  match writtenEntity? write records with
  | some entity => ("heap", entity.name ++ "." ++ write.member)
  | none => (write.scope, write.object ++ "." ++ write.member)

/-- A write finds the key of the entity that it reaches. -/
theorem entityKey?_eq_map (write : MemberWrite) (records : List Record) :
    entityKey? write records = (writtenEntity? write records).map Record.key := by
  let named := (heapScope, heapName write.object)
  have byName : (if hasRecord named records then some named else none) =
      (records.find? (·.key = named)).map Record.key := by
    cases found : records.find? (·.key = named) with
    | none =>
        have absent : hasRecord named records = false := by
          simpa [hasRecord] using List.find?_eq_none.mp found
        simp [absent]
    | some record =>
        have isNamed : record.key = named := by simpa using List.find?_some found
        have present : hasRecord named records := by
          simpa [hasRecord] using ⟨record, List.mem_of_find?_eq_some found, isNamed⟩
        simp [present, isNamed]
  rw [entityKey?, writtenEntity?, Option.map_or, byName]
  rfl

/-- A change of records that does what a write does: to the entity, to the field, and nothing
to other records. -/
structure Reaches (write : MemberWrite) (entityKey? : Option (String × String))
    (fieldKey : String × String) (change : Record → Record) : Prop where
  entity : ∀ record, entityKey? = some record.key → write.WritesMember record (change record)
  field : ∀ record, record.key = fieldKey → write.WritesField record (change record)
  others : ∀ record, entityKey? ≠ some record.key → record.key ≠ fieldKey → change record = record

/-- A write without an entity reaches the field alone. -/
theorem reaches_field (write : MemberWrite) (fieldKey : String × String) :
    Reaches write none fieldKey fun record =>
      if record.key = fieldKey then writeField write record else record where
  entity := by
    intro record isEntity
    contradiction
  field := by
    intro record isField
    rw [if_pos isField]
    exact writesField write record
  others := by
    intro record _ otherField
    exact if_neg otherField

/-- The entity and its field have different keys, so no record is changed twice. -/
theorem reaches_entity (write : MemberWrite) {entityKey fieldKey : String × String}
    (apart : entityKey ≠ fieldKey) :
    Reaches write (some entityKey) fieldKey
      ((fun record => if record.key = fieldKey then writeField write record else record) ∘
        fun record => if record.key = entityKey then writeMember write record else record) where
  entity := by
    rintro record ⟨⟩
    have notField : (writeMember write record).key ≠ fieldKey := apart
    rw [Function.comp_apply, if_pos rfl, if_neg notField]
    exact writesMember write record
  field := by
    rintro record rfl
    rw [Function.comp_apply, if_neg (Ne.symm apart), if_pos rfl]
    exact writesField write record
  others := by
    intro record otherEntity otherField
    have notEntity : record.key ≠ entityKey := by
      rintro rfl
      contradiction
    rw [Function.comp_apply, if_neg notEntity, if_neg otherField]

/-- A write changes records where they stand. -/
theorem applyWrite_eq_map_of_reach (write : MemberWrite) (records : List Record) :
    ∃ change, applyWrite write records = records.map change ∧
      Reaches write ((writtenEntity? write records).map Record.key) (writtenField write records)
        change := by
  unfold applyWrite writtenField
  rw [entityKey?_eq_map]
  cases writtenEntity? write records with
  | none => exact ⟨_, rfl, reaches_field write _⟩
  | some entity =>
      have apart : entity.key ≠ (heapScope, qualified entity.name write.member) := by
        intro same
        exact qualified_ne_self _ _ (congrArg Prod.snd same).symm
      exact ⟨_, List.map_map, reaches_entity write apart⟩

/-- A write leaves scope and name alone. -/
theorem Reaches.key_eq {entityKey? : Option (String × String)} {fieldKey : String × String}
    {change : Record → Record} (reaches : Reaches write entityKey? fieldKey change)
    (record : Record) : (change record).key = record.key := by
  by_cases isEntity : entityKey? = some record.key
  · rw [(reaches.entity record isEntity).same]
    rfl
  · by_cases isField : record.key = fieldKey
    · rw [(reaches.field record isField).same]
      rfl
    · rw [reaches.others record isEntity isField]

/-- A write changes the records of two keys at most. -/
theorem Reaches.exists_two_keys {entityKey? : Option (String × String)}
    {fieldKey : String × String} {change : Record → Record}
    (reaches : Reaches write entityKey? fieldKey change) :
    ∃ firstKey secondKey, ∀ record, record.key ≠ firstKey → record.key ≠ secondKey →
      change record = record := by
  refine ⟨entityKey?.getD fieldKey, fieldKey, ?_⟩
  intro record otherEntity otherField
  refine reaches.others record ?_ otherField
  rintro rfl
  exact otherEntity rfl

/-- A key stands at one position at most. -/
theorem position_eq_idxOf {position : Nat} {record : Record}
    (distinct : (records.map Record.key).Nodup) (found : records[position]? = some record) :
    (records.map Record.key).idxOf record.key = position := by
  obtain ⟨inside, rfl⟩ := List.getElem?_eq_some_iff.mp found
  have atPosition := distinct.idxOf_getElem position (by simpa using inside)
  rwa [List.getElem_map] at atPosition

/-- A change to two keys changes at most two records. -/
theorem exists_two_positions (distinct : (records.map Record.key).Nodup)
    {change : Record → Record} {firstKey secondKey : String × String}
    (others : ∀ record, record.key ≠ firstKey → record.key ≠ secondKey → change record = record) :
    ∃ first second : Nat, ∀ position, position ≠ first → position ≠ second →
      (records.map change)[position]? = records[position]? := by
  refine ⟨(records.map Record.key).idxOf firstKey, (records.map Record.key).idxOf secondKey, ?_⟩
  intro position notFirst notSecond
  rw [List.getElem?_map]
  cases found : records[position]? with
  | none => rfl
  | some record =>
      have atPosition := position_eq_idxOf distinct found
      rw [Option.map_some, others record]
      · rintro rfl
        exact notFirst atPosition.symm
      · rintro rfl
        exact notSecond atPosition.symm

end Snapshot

namespace Timeline

open Snapshot

/-- What the write to a member that comes after some steps does. -/
structure WritesOnlyNamed (timeline : Timeline) (step : Nat) (write : MemberWrite) : Prop where
  stack : (timeline.snapshot (step + 1)).stack = (timeline.snapshot step).stack
  keys : (timeline.snapshot (step + 1)).live.map Record.key =
    (timeline.snapshot step).live.map Record.key
  /-- At most two live records differ. -/
  live : ∃ first second : Nat, ∀ position, position ≠ first → position ≠ second →
    (timeline.snapshot (step + 1)).live[position]? = (timeline.snapshot step).live[position]?
  /-- The replay before and after it, record by record: the entity that is reached, the field
  that is reached, and all others. -/
  replay :
    let records := recordsAfter (timeline.events.take step)
    List.Forall₂
      (fun record changed =>
        (∀ entity, writtenEntity? write records = some entity → record.key = entity.key →
          write.WritesMember record changed) ∧
        (record.key = writtenField write records → write.WritesField record changed) ∧
        ((∀ entity, writtenEntity? write records = some entity → record.key ≠ entity.key) →
          record.key ≠ writtenField write records → changed = record))
      records (recordsAfter (timeline.events.take (step + 1)))

variable {timeline : Timeline} {step : Nat} {write : MemberWrite}

/-- A write to a member opens and closes nothing. -/
theorem snapshot_stack_of_write (written : timeline.events[step]? = some (.memberWrite write)) :
    (timeline.snapshot (step + 1)).stack = (timeline.snapshot step).stack := by
  simp [snapshot, stackAfter, openScopes, List.take_add_one, written, applyScope]

/-- The step of a write carries the write out on the records before it. -/
theorem recordsAfter_of_write (written : timeline.events[step]? = some (.memberWrite write)) :
    recordsAfter (timeline.events.take (step + 1)) =
      applyWrite write (recordsAfter (timeline.events.take step)) := by
  rw [List.take_add_one, written, Option.toList_some, recordsAfter_concat]
  rfl

/-- The live records are changed as the replay is. -/
theorem snapshot_live_of_write (written : timeline.events[step]? = some (.memberWrite write))
    {change : Record → Record} (sameKey : ∀ record, (change record).key = record.key)
    (applied : applyWrite write (recordsAfter (timeline.events.take step)) =
      (recordsAfter (timeline.events.take step)).map change) :
    (timeline.snapshot (step + 1)).live = (timeline.snapshot step).live.map change := by
  have sameScope (record : Record) : (change record).scope = record.scope :=
    congrArg Prod.fst (sameKey record)
  have sameStack := snapshot_stack_of_write written
  simp only [snapshot] at sameStack ⊢
  rw [recordsAfter_of_write written, applied, List.filter_map, sameStack]
  simp only [Function.comp_def, Record.isHeapScoped, sameScope]

/-- A write to a member changes only what it names, after any events. The stack and the live
keys stay as they are, and at most two live records differ. In the replay the entity that is
reached has the value among its members, the field that is reached has the value and, as a
pointer, the pointee; everything else is kept. -/
theorem member_write_confined (written : timeline.events[step]? = some (.memberWrite write)) :
    timeline.WritesOnlyNamed step write := by
  obtain ⟨change, applied, reaches⟩ := applyWrite_eq_map_of_reach write
    (recordsAfter (timeline.events.take step))
  have live := snapshot_live_of_write written reaches.key_eq applied
  refine ⟨snapshot_stack_of_write written, ?_, ?_, ?_⟩
  · rw [live, List.map_map]
    exact List.map_congr_left fun record _ => reaches.key_eq record
  · rw [live]
    obtain ⟨firstKey, secondKey, others⟩ := reaches.exists_two_keys
    exact exists_two_positions (timeline.nodup_snapshot_live step) others
  · rw [recordsAfter_of_write written, applied, List.forall₂_map_right_iff, List.forall₂_same]
    intro record _
    refine ⟨?_, reaches.field record, ?_⟩
    · intro entity isEntity sameKey
      exact reaches.entity record (by rw [isEntity, sameKey]; rfl)
    · intro otherEntity otherField
      refine reaches.others record ?_ otherField
      intro isEntity
      obtain ⟨entity, found, sameKey⟩ := Option.map_eq_some_iff.mp isEntity
      exact otherEntity entity found sameKey.symm

/-- A node of a list is linked to the next one. The write reaches the node by its number, and
the record of the field that holds the link. -/
theorem member_write_confined_next_node :
    let node (name : String) (heap : HeapId) : Record :=
      { name, value := .str "Node", scope := heapScope, kind := .object, heap := some heap }
    let link : Record :=
      { name := "a_heap.next", value := .null, scope := heapScope, kind := .pointer }
    let write : MemberWrite :=
      { object := "a", member := "next", value := .obj [("name", .str "b")], scope := globalScope
        line := none, target := some 0, pointee := some ⟨"b_heap", some 1⟩ }
    let timeline : Timeline :=
      ⟨[.var (node "a_heap" 0), .var link, .var (node "b_heap" 1), .memberWrite write]⟩
    timeline.events[3]? = some (.memberWrite write) ∧ timeline.WritesOnlyNamed 3 write ∧
      (timeline.snapshot 4).live.map (fun record =>
        (record.name, record.members.map Prod.fst, record.pointee)) =
        [("a_heap", ["next"], none), ("a_heap.next", [], some ⟨"b_heap", some 1⟩),
          ("b_heap", [], none)] := by
  intro node link write timeline
  exact ⟨rfl, member_write_confined rfl, by decide⟩

end Timeline

end MemoryTimeline
