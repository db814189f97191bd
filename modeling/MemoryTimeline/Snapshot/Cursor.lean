import MemoryTimeline.Snapshot.Basic

/-!
# The current step

A cursor is the number of events applied. The timeline is passed to each
operation, so that one cursor can be held against any timeline.
-/

namespace MemoryTimeline

/-- The number of events applied. -/
structure Cursor where
  index : Nat

/-- A step that the timeline does not have. -/
structure StepOutOfRange where
  requested : Nat
  length : Nat

/-- The message about a step out of range. -/
def StepOutOfRange.message (error : StepOutOfRange) : String :=
  "step " ++ Nat.repr error.requested ++ " is outside the timeline (0..=" ++ Nat.repr error.length
    ++ ")"

namespace Cursor

/-- No event applied. -/
def start : Cursor := ⟨0⟩

/-- All events applied. -/
def atEnd (timeline : Timeline) : Cursor := ⟨timeline.length⟩

/-- One step forward, unless the cursor is at the end. -/
def next? (cursor : Cursor) (timeline : Timeline) : Option Cursor :=
  if cursor.index < timeline.length then some ⟨cursor.index + 1⟩ else none

/-- One step back, unless the cursor is at the start. -/
def previous? (cursor : Cursor) : Option Cursor :=
  if 0 < cursor.index then some ⟨cursor.index - 1⟩ else none

/-- Go to a step of the timeline. -/
def goTo (timeline : Timeline) (step : Nat) : Except StepOutOfRange Cursor :=
  if step ≤ timeline.length then .ok ⟨step⟩
  else .error { requested := step, length := timeline.length }

/-- Go to the step of the timeline that is nearest to a number. -/
def goToNearest (timeline : Timeline) (step : Int) : Cursor := ⟨min step.toNat timeline.length⟩

/-- Whether no event is applied. -/
def isAtStart (cursor : Cursor) : Bool := cursor.index == 0

/-- Whether all events are applied. -/
def isAtEnd (cursor : Cursor) (timeline : Timeline) : Bool := timeline.length ≤ cursor.index

/-- The position in words. -/
def indicator (cursor : Cursor) (timeline : Timeline) : String :=
  "Step: " ++ Nat.repr (min cursor.index timeline.length) ++ "/" ++ Nat.repr timeline.length

/-- The snapshot at the cursor. -/
def snapshot (cursor : Cursor) (timeline : Timeline) : Snapshot := timeline.snapshot cursor.index

end Cursor

end MemoryTimeline
