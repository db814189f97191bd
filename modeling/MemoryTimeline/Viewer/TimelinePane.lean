import MemoryTimeline.Timeline.Summary
import MemoryTimeline.Viewer.Palette

/-!
# The timeline pane

The events with their numbers, the current one marked and kept in view. Events that
have not been applied yet are shown with less weight.
-/

namespace MemoryTimeline.Viewer.TimelinePane

/-- The number of events that fit, at least one. -/
def visibleRows (area : Area) : Nat := max (area.height - 2) 1

/-- The offset nearest to the given one at which a row is in view. -/
def following (visible current scroll : Nat) : Nat :=
  if current < scroll then current
  else if scroll + visible ≤ current then current + 1 - visible
  else scroll

/-- The offset that is used at a step: the current event is in view, and no row is left
empty that an event could fill. -/
def scrollAt (visible length step scroll : Nat) : Nat :=
  let scroll :=
    match step with
    | 0 => scroll
    | current + 1 => following visible current scroll
  min scroll (length - visible)

/-- A number with blanks before it up to a width. -/
def padded (width number : Nat) : String :=
  let digits := (Nat.repr number).toList
  String.ofList (List.replicate (width - digits.length) ' ' ++ digits)

/-- The row of an event. -/
def item (width step : Nat) (event : Event) (index : Nat) : Screen.ListItem :=
  let isCurrent := index + 1 == step
  let color := if index < step then Palette.foreground else Palette.comment
  { spans :=
      [{ text := if isCurrent then "▶ " else "  ", style := .ofForeground Palette.secondary },
        { text := padded width (index + 1) ++ " ", style := .ofForeground Palette.comment },
        { text := event.summary, style := .ofForeground color }]
    style := if isCurrent then { background := some Palette.currentLine } else .plain }

/-- The rows in view. -/
def items (timeline : Timeline) (step visible scroll : Nat) : List Screen.ListItem :=
  let width := (Nat.repr timeline.length).length
  ((timeline.events.zipIdx.drop scroll).take visible).map fun (event, index) =>
    item width step event index

/-- Draw the pane; gives the screen and the offset that was used. -/
def draw (timeline : Timeline) (step : Nat) (focused : Bool) (scroll : Nat) (area : Area)
    (screen : Screen) : Screen × Nat :=
  let block := Palette.paneBlock " Timeline " focused
  if timeline.hasContent then
    let visible := visibleRows area
    let scroll := scrollAt visible timeline.length step scroll
    (screen.drawList area block (items timeline step visible scroll), scroll)
  else
    (screen.drawParagraph area block (.ofForeground Palette.comment)
      [[{ text := Timeline.noContentMessage }]], scroll)

end MemoryTimeline.Viewer.TimelinePane
