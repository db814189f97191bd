import MemoryTimeline.Program.Lookup
import MemoryTimeline.Recorder.Naming
import MemoryTimeline.Timeline.Event

/-!
# The recorder

While a program is walked, a recorder holds the events so far, the next heap
number, the allocation that each pointer name was last bound to, and the counts of
blocks. Arguments are looked up in the events so far, latest first.
-/

namespace MemoryTimeline

/-- The state of a walk. -/
structure Recorder where
  /-- The events so far, latest first. -/
  history : List Event
  /-- The number of the next allocation. -/
  nextHeap : HeapId
  /-- The allocation that each pointer was last bound to, latest first. -/
  allocations : List (String × HeapId)
  /-- The blocks opened so far. -/
  blocks : BlockCounts

namespace Recorder

/-- Nothing recorded yet. -/
def empty : Recorder where
  history := []
  nextHeap := 0
  allocations := []
  blocks := .zero

/-- The timeline recorded so far. -/
def timeline (recorder : Recorder) : Timeline := ⟨recorder.history.reverse⟩

/-- Add an event. -/
def emit (event : Event) (recorder : Recorder) : Recorder :=
  { recorder with history := event :: recorder.history }

/-- Record a variable. -/
def record (entry : Record) (recorder : Recorder) : Recorder :=
  recorder.emit (.var entry)

/-- Record variables in order. -/
def recordAll (entries : List Record) (recorder : Recorder) : Recorder :=
  entries.foldl (fun recorder entry => recorder.record entry) recorder

/-- Carry out an action inside a scope. -/
def inScope (scope : String) (line : Option Nat) (action : Recorder → Recorder)
    (recorder : Recorder) : Recorder :=
  (action (recorder.emit (.push scope line))).emit (.pop scope none)

/-- Bind a pointer to a new allocation and give its number. -/
def allocate (pointer : String) (recorder : Recorder) : HeapId × Recorder :=
  (recorder.nextHeap,
    { recorder with
      nextHeap := recorder.nextHeap + 1
      allocations := (pointer, recorder.nextHeap) :: recorder.allocations })

/-- The heap entity that a pointer was last bound to. -/
def allocation? (recorder : Recorder) (pointer : String) : Option Pointee :=
  (recorder.allocations.lookup pointer).map fun heap =>
    { name := heapName pointer, heap := some heap }

/-- The latest record of a name, in any scope. -/
def latest? (recorder : Recorder) (name : String) : Option Record :=
  recorder.history.findSome? fun event => event.record?.filter (·.name = name)

/-- The class of a name, by its latest record that has one. -/
def classOf? (recorder : Recorder) (name : String) : Option String :=
  recorder.history.findSome? fun event =>
    event.record?.bind fun record => if record.name = name then record.classType else none

/-- The value of a parameter whose argument is unknown. -/
def unresolved : Json := .str "param"

/-- The value and the pointee of an argument. A name stands for its latest record in
any scope; other values stand for themselves, and null for nothing known. -/
def resolve (recorder : Recorder) (argument : Option Json) : Json × Option Pointee :=
  match argument with
  | none => (unresolved, none)
  | some value =>
    match value.identifier? with
    | some name =>
      match recorder.latest? name with
      | some record =>
        (if record.value.isNull then unresolved else record.value, record.pointee)
      | none => (unresolved, none)
    | none => if value.isNull then (unresolved, none) else (value, none)

end Recorder

end MemoryTimeline
