import MemoryTimeline.Scene.Drawing
import MemoryTimeline.Snapshot.Cursor
import MemoryTimeline.Text.Numeral
import MemoryTimeline.Viewer.MemoryPane

/-!
# Sessions

A session is a timeline with a cursor, the view at the cursor, the focus and the
scroll offsets. Keys move the cursor, the focus and the offsets; the view is
computed again whenever the cursor moves.
-/

namespace MemoryTimeline.Viewer

/-- The panes that can have the focus. -/
inductive Pane where
  | memory
  | frames
  | timeline
  deriving DecidableEq

/-- The pane after this one. -/
def Pane.next : Pane → Pane
  | .memory => .frames
  | .frames => .timeline
  | .timeline => .memory

/-- Everything that is derived from the step. -/
structure View where
  snapshot : Snapshot
  scene : Scene
  drawing : List Scene.Command
  frames : List Snapshot.Frame

/-- The view of a timeline at a cursor. -/
def View.at (timeline : Timeline) (metrics : Scene.Metrics) (cursor : Cursor) : View :=
  let snapshot := cursor.snapshot timeline
  let scene := snapshot.scene metrics
  { snapshot, scene, drawing := scene.drawing, frames := snapshot.frames }

/-- A key. -/
inductive Key where
  | left
  | right
  | up
  | down
  | tab
  | enter
  | backspace
  /-- The space bar, with the milliseconds since it last had an effect. -/
  | space (elapsed : Nat)
  | character (symbol : Char)
  | other

/-- The state of the viewer. -/
structure Session where
  timeline : Timeline
  metrics : Scene.Metrics
  cursor : Cursor
  view : View
  focus : Pane
  memoryOffset : Float
  framesScroll : Nat
  timelineScroll : Nat
  quits : Bool
  message : String
  isPlaying : Bool

namespace Session

/-- The milliseconds within which the space bar has no second effect. -/
def debounce : Nat := 200

/-- A session at the start of a timeline. -/
def new (timeline : Timeline) (metrics : Scene.Metrics) : Session where
  timeline := timeline
  metrics := metrics
  cursor := .start
  view := .at timeline metrics .start
  focus := .memory
  memoryOffset := 0.0
  framesScroll := 0
  timelineScroll := 0
  quits := false
  message := "Ready!"
  isPlaying := false

/-- Move the cursor and compute the view there. -/
def moveTo (session : Session) (cursor : Cursor) : Session :=
  { session with cursor, view := .at session.timeline session.metrics cursor }

/-- Start at a step, or at the end if the timeline is shorter. -/
def withStep (session : Session) (step : Nat) : Session :=
  session.moveTo (Cursor.goToNearest session.timeline (Text.integerOfCount step))

/-- Show a message. -/
def say (session : Session) (message : String) : Session := { session with message }

/-- Stop playback. -/
def stop (session : Session) : Session := { session with isPlaying := false }

/-- Step forward up to so many times; gives the cursor and the number of steps. -/
def advance (timeline : Timeline) : Nat → Cursor → Cursor × Nat
  | 0, cursor => (cursor, 0)
  | count + 1, cursor =>
    match cursor.next? timeline with
    | some next =>
      let (last, steps) := advance timeline count next
      (last, steps + 1)
    | none => (cursor, 0)

/-- The value of a digit from one to nine. -/
def jumpCount? (symbol : Char) : Option Nat :=
  if '1' ≤ symbol && symbol ≤ '9' then some (symbol.toNat - 48) else none

/-- Step forward several times. -/
def jump (session : Session) (count : Nat) : Session :=
  let (cursor, steps) := advance session.timeline count session.cursor
  (session.stop.moveTo cursor).say ("Stepped forward " ++ Nat.repr steps ++ " step(s)")

/-- Go to a neighbouring step, if there is one. -/
def stepTo (session : Session) (cursor : Option Cursor) (moved stayed : String) : Session :=
  match cursor with
  | some cursor => (session.stop.moveTo cursor).say moved
  | none => session.stop.say stayed

/-- Scroll the pane that has the focus. Counts stay within 64 bits. -/
def scroll (session : Session) (downwards : Bool) : Session :=
  let moveCount := fun (count : Nat) =>
    if downwards then min (count + 1) Text.maxCounter else count - 1
  match session.focus with
  | .memory =>
    let move := if downwards then MemoryPane.scrollDown else MemoryPane.scrollUp
    { session with memoryOffset := move session.memoryOffset }
  | .frames => { session with framesScroll := moveCount session.framesScroll }
  | .timeline => { session with timelineScroll := moveCount session.timelineScroll }

/-- Start or stop playback. -/
def togglePlayback (session : Session) : Session :=
  let isPlaying := !session.isPlaying
  { session with isPlaying, message := if isPlaying then "Playing..." else "Paused" }

/-- React to a key. -/
def press (session : Session) : Key → Session
  | .left => session.stepTo session.cursor.previous? "Stepped backward" "Already at the start"
  | .right =>
    session.stepTo (session.cursor.next? session.timeline) "Stepped forward" "Already at the end"
  | .up => session.scroll false
  | .down => session.scroll true
  | .tab => { session with focus := session.focus.next }
  | .enter => (session.stop.moveTo (.atEnd session.timeline)).say "Jumped to end"
  | .backspace => (session.stop.moveTo .start).say "Jumped to start"
  | .space elapsed => if debounce ≤ elapsed then session.togglePlayback else session
  | .character symbol =>
    if symbol = 'q' || symbol = 'Q' then { session with quits := true }
    else
      match jumpCount? symbol with
      | some count => session.jump count
      | none => session
  | .other => session

end Session

end MemoryTimeline.Viewer
