import MemoryTimeline.Json.Display
import MemoryTimeline.Timeline.Event

/-!
# One-line summaries

A record is summed up by its kind, its name, and its pointee or value. An event is
summed up by what it does; `Timeline.description` says what happened last at a step.
-/

namespace MemoryTimeline

/-- A record in one line. A pointee is shown instead of the value. -/
def Record.summary (record : Record) : String :=
  let subject := record.kind.text ++ " " ++ record.name
  match record.pointee with
  | some pointee => subject ++ " → " ++ pointee.name
  | none =>
    match record.value.display? with
    | some value => subject ++ " = " ++ value
    | none => subject

/-- An event in one line. -/
def Event.summary : Event → String
  | .push scope _ => "push " ++ scope
  | .pop scope _ => "pop " ++ scope
  | .var record => "var " ++ record.summary ++ " (" ++ record.scope ++ ")"
  | .memberWrite write =>
    "set " ++ write.object ++ "." ++ write.member ++ " = " ++ write.value.display?.getD "null"

namespace Timeline

/-- Shown where an event has no source line. -/
def noLineMessage : String := "No line information available"

/-- Shown for a timeline without content. -/
def noContentMessage : String := "No timeline data available"

/-- What an event did, in one line. -/
def describeEvent (event : Event) : String :=
  match event with
  | .push scope _ => "Entering scope: " ++ scope
  | .pop scope _ => "Exiting scope: " ++ scope
  | _ =>
    match event.line with
    | some line => "Line " ++ Nat.repr line
    | none => noLineMessage

/-- The event that was applied last at a step. -/
def lastApplied? (timeline : Timeline) : Nat → Option Event
  | 0 => none
  | index + 1 => timeline.events[index]?

/-- What happened last at a step. -/
def description (timeline : Timeline) (step : Nat) : String :=
  if timeline.hasContent then
    ((timeline.lastApplied? step).map describeEvent).getD noLineMessage
  else noContentMessage

end Timeline

end MemoryTimeline
