import MemoryTimeline.Snapshot.Live
import MemoryTimeline.Snapshot.Stack
import MemoryTimeline.Timeline.Summary

/-!
# Snapshots

A snapshot shows the memory after the first events of a timeline: the stack of
open scopes, and the records of those scopes and of the heap. It depends on the
timeline and the step alone, so stepping back is a snapshot of fewer events.
-/

namespace MemoryTimeline

/-- The memory at one step. -/
structure Snapshot where
  step : Nat
  /-- The open scopes, outermost first. -/
  stack : List String
  /-- The live records, in order of first appearance. -/
  live : List Record

/-- The snapshot of a timeline at a step; steps beyond the end are the end. -/
def Timeline.snapshot (timeline : Timeline) (step : Nat) : Snapshot :=
  let applied := timeline.events.take step
  let stack := Snapshot.stackAfter applied
  { step := min step timeline.length
    stack
    live := (Snapshot.recordsAfter applied).filter fun record =>
      record.isHeapScoped || stack.contains record.scope }

namespace Snapshot

/-- The live record of a scope and name. -/
def get? (snapshot : Snapshot) (scope name : String) : Option Record :=
  snapshot.live.find? fun record => record.scope = scope && record.name = name

/-- The first live record of a name, in any scope. -/
def find? (snapshot : Snapshot) (name : String) : Option Record :=
  snapshot.live.find? (·.name = name)

/-- Whether a scope and name have a live record. -/
def isLive (snapshot : Snapshot) (scope name : String) : Bool :=
  (snapshot.get? scope name).isSome

/-- The live records of one scope. -/
def inScope (snapshot : Snapshot) (scope : String) : List Record :=
  snapshot.live.filter (·.scope = scope)

/-- The live records grouped by scope, scopes in order of first appearance. -/
def byScope (snapshot : Snapshot) : List (String × List Record) :=
  (snapshot.live.map (·.scope)).eraseDups.map fun scope => (scope, snapshot.inScope scope)

/-- The live records of the heap. -/
def heap (snapshot : Snapshot) : List Record := snapshot.live.filter Record.isHeapScoped

/-- One open scope with a line for each of its records. -/
structure Frame where
  scope : String
  lines : List String

/-- The heading of a frame. -/
def Frame.title (frame : Frame) : String := "Scope: " ++ frame.scope

/-- A frame for each open scope, outermost first. Heap blocks are not listed. -/
def frames (snapshot : Snapshot) : List Frame :=
  snapshot.stack.map fun scope =>
    { scope
      lines := ((snapshot.inScope scope).filter (·.kind ≠ .heap)).map Record.summary }

end Snapshot

end MemoryTimeline
