import MemoryTimeline.Timeline.Event

/-!
# Replaying records

The records of a timeline are replayed in order of first appearance: a later
record of the same scope and name takes the place of the earlier one. A write to a
member reaches the heap entity behind its object, by allocation number or else by
name, together with the field record of that entity; without such an entity it
reaches the field record in its own scope.
-/

namespace MemoryTimeline.Snapshot

/-- Put a record in the place of the one with its key, or at the end. -/
def putRecord (record : Record) : List Record → List Record
  | [] => [record]
  | entry :: rest =>
    if entry.key = record.key then record :: rest else entry :: putRecord record rest

/-- Change the record of a key, if there is one. -/
def changeRecord (key : String × String) (change : Record → Record) (records : List Record) :
    List Record :=
  records.map fun record => if record.key = key then change record else record

/-- Whether there is a record of a key. -/
def hasRecord (key : String × String) (records : List Record) : Bool :=
  records.any (·.key = key)

/-- Write to the members of an entity. -/
def writeMember (write : MemberWrite) (record : Record) : Record :=
  { record with members := record.members.put write.member write.value }

/-- Write to a field that has a record of its own. Only a pointer takes a new pointee. -/
def writeField (write : MemberWrite) (record : Record) : Record :=
  { record with
    value := write.value
    pointee := if record.kind = .pointer then write.pointee else record.pointee }

/-- The key of the heap entity that a write reaches: the first record of the allocation,
and otherwise the entity named for the object. -/
def entityKey? (write : MemberWrite) (records : List Record) : Option (String × String) :=
  let byNumber := write.target.bind fun heap => records.find? (·.heap = some heap)
  let named := (heapScope, heapName write.object)
  (byNumber.map Record.key).or (if hasRecord named records then some named else none)

/-- Carry out a write to a member. -/
def applyWrite (write : MemberWrite) (records : List Record) : List Record :=
  match entityKey? write records with
  | some key =>
    changeRecord (heapScope, qualified key.2 write.member) (writeField write)
      (changeRecord key (writeMember write) records)
  | none =>
    changeRecord (write.scope, qualified write.object write.member) (writeField write) records

/-- The records after an event. -/
def applyRecord (records : List Record) : Event → List Record
  | .var record => putRecord record records
  | .memberWrite write => applyWrite write records
  | _ => records

/-- The records after some events, in order of first appearance. -/
def recordsAfter (events : List Event) : List Record := events.foldl applyRecord []

end MemoryTimeline.Snapshot
