import MemoryTimeline.Viewer.FramesPane
import MemoryTimeline.Viewer.Session
import MemoryTimeline.Viewer.StatusBar
import MemoryTimeline.Viewer.TimelinePane

/-!
# The whole screen

Memory above the timeline on the left, frames on the right, and the status bar in
the last row. Drawing also brings the scroll offsets into range.
-/

namespace MemoryTimeline.Viewer.Session

/-- What the status bar shows in a session. -/
def status (session : Session) : Status where
  indicator := session.cursor.indicator session.timeline
  description := session.timeline.description session.cursor.index
  message := session.message
  isAtStart := session.cursor.isAtStart
  isAtEnd := session.cursor.isAtEnd session.timeline
  isPlaying := session.isPlaying

/-- Draw the session on a blank screen of the given size. -/
def render (session : Session) (width height : Nat) : Session × Screen :=
  let screen := Screen.blank width height
  let (main, bar) := screen.area.splitRowsAt (height - 1)
  let (leftColumn, framesArea) := main.splitColumns 70
  let (memoryArea, timelineArea) := leftColumn.splitRows 72
  let (screen, memoryOffset) :=
    MemoryPane.draw session.timeline session.view.scene session.view.drawing
      (session.focus = .memory) session.memoryOffset memoryArea screen
  let (screen, timelineScroll) :=
    TimelinePane.draw session.timeline session.cursor.index (session.focus = .timeline)
      session.timelineScroll timelineArea screen
  let (screen, framesScroll) :=
    FramesPane.draw session.view.frames (session.focus = .frames) session.framesScroll framesArea
      screen
  ({ session with memoryOffset, timelineScroll, framesScroll },
    StatusBar.draw session.status bar screen)

end MemoryTimeline.Viewer.Session
