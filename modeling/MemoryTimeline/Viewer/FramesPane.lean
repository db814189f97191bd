import MemoryTimeline.Snapshot.Basic
import MemoryTimeline.Viewer.Palette

/-!
# The frames pane

One block for each open scope, the outermost at the top. Blocks are stacked without
gaps; the last one is cut at the bottom. Scrolling counts whole blocks.
-/

namespace MemoryTimeline.Viewer.FramesPane

open Snapshot (Frame)

/-- The offset that is used: no further than the last frame. -/
def boundedScroll (frames : List Frame) (scroll : Nat) : Nat := min scroll (frames.length - 1)

/-- The height that a frame asks for: a row for each line, at least one, and two edges.
Heights are 16-bit numbers. -/
def wantedHeight (frame : Frame) : Nat := (UInt16.ofNat (max frame.lines.length 1) + 2).toNat

/-- The areas of frames stacked from a row on. -/
def stackBlocks (inside : Area) : Nat → List Frame → List (Frame × Area)
  | _, [] => []
  | y, frame :: rest =>
    if inside.bottom ≤ y then []
    else
      let height := min (wantedHeight frame) (inside.bottom - y)
      (frame, { inside with y, height }) :: stackBlocks inside (y + height) rest

/-- The areas of the frames that are shown at an offset. -/
def blocks (inside : Area) (frames : List Frame) (scroll : Nat) : List (Frame × Area) :=
  stackBlocks inside inside.y (frames.drop scroll)

/-- A line about a record, its first word in the color of kinds. -/
def recordSpans (line : String) : List Span :=
  let kind := line.toList.takeWhile (· ≠ ' ')
  match line.toList.dropWhile (· ≠ ' ') with
  | [] => [{ text := line, style := .ofForeground Palette.foreground }]
  | _ :: rest =>
    [{ text := String.ofList kind, style := .ofForeground Palette.typeName }, { text := " " },
      { text := String.ofList rest, style := .ofForeground Palette.foreground }]

/-- The lines inside a frame's block. -/
def frameLines (frame : Frame) : List (List Span) :=
  if frame.lines.isEmpty then [[{ text := "(empty)", style := .ofForeground Palette.comment }]]
  else frame.lines.map recordSpans

/-- The block of a frame. -/
def frameBlock (frame : Frame) : Block where
  title :=
    { text := " " ++ frame.title ++ " "
      style := { foreground := some Palette.function, bold := true } }
  border := .ofForeground Palette.borderNormal

/-- Draw the pane; gives the screen and the offset that was used. -/
def draw (frames : List Frame) (focused : Bool) (scroll : Nat) (area : Area) (screen : Screen) :
    Screen × Nat :=
  let screen := screen.drawBlock area (Palette.paneBlock " Call Stack " focused)
  let inside := area.inside
  if frames.isEmpty then
    ((screen.applyStyle inside (.ofForeground Palette.comment)).writeLines inside
      [[{ text := "(no frames)" }]], scroll)
  else
    let scroll := boundedScroll frames scroll
    ((blocks inside frames scroll).foldl
      (fun screen (frame, place) =>
        screen.drawParagraph place (frameBlock frame) .plain (frameLines frame))
      screen, scroll)

end MemoryTimeline.Viewer.FramesPane
