import MemoryTimeline.Json.Basic
import MemoryTimeline.Table
import MemoryTimeline.Timeline.Name

/-!
# Records

A record is a variable as it stands at one moment. Its scope and name identify
it: a later record with the same two replaces it. A heap allocation has a number,
which the pointer record and the record of the allocated entity both carry.
-/

namespace MemoryTimeline

/-- The number of a heap allocation. -/
abbrev HeapId := Nat

/-- What a pointer points to: a name, and the allocation if the target lies on the heap. -/
structure Pointee where
  name : String
  heap : Option HeapId
  deriving DecidableEq

/-- What a record stands for. -/
inductive RecordKind where
  | variable
  | pointer
  | array
  | parameter
  | object
  | heap
  | assignment
  deriving DecidableEq

/-- The word for a kind of record. -/
def RecordKind.text : RecordKind → String
  | .variable => "variable"
  | .pointer => "pointer"
  | .array => "array"
  | .parameter => "parameter"
  | .object => "object"
  | .heap => "heap"
  | .assignment => "assignment"

/-- A variable as it stands at one moment. -/
structure Record where
  name : String
  value : Json
  scope : String
  kind : RecordKind
  arraySize : Option Nat := none
  dimensions : Option (List Nat) := none
  values : Option (List Json) := none
  pointee : Option Pointee := none
  classType : Option String := none
  members : Table String Json := []
  allocation : Option String := none
  heap : Option HeapId := none
  id : Option Json := none
  line : Option Nat := none

namespace Record

/-- Scope and name, by which a later record replaces an earlier one. -/
def key (record : Record) : String × String := (record.scope, record.name)

/-- Whether the record belongs to an allocated entity. -/
def isHeapScoped (record : Record) : Bool := record.scope == heapScope

/-- Mark a record as the entity of an allocation. -/
def allocated (record : Record) (heap : HeapId) : Record :=
  { record with allocation := some "new", heap := some heap }

end Record

/-- A value written to a member of an object. -/
structure MemberWrite where
  object : String
  member : String
  value : Json
  scope : String
  line : Option Nat
  /-- The allocation that the object pointed to when the write was recorded. -/
  target : Option HeapId
  /-- The heap entity that the written value points to. -/
  pointee : Option Pointee

end MemoryTimeline
