import MemoryTimeline.Screen.Canvas
import MemoryTimeline.Viewer.Palette

/-!
# The memory pane

The drawing of a scene on a canvas. The pane shows a window half as high as it is
wide, which scrolls when the scene is higher. Scenes grow downwards and canvases
upwards, so heights are taken from the upper edge of the window.
-/

namespace MemoryTimeline.Viewer.MemoryPane

open Canvas (Mark Window)
open Scene (Command Point)

/-- How far one key press scrolls. -/
def scrollStep : Float := 50.0

/-- Scroll towards the top. -/
def scrollUp (offset : Float) : Float := Scene.larger (offset - scrollStep) 0.0

/-- Scroll towards the bottom. -/
def scrollDown (offset : Float) : Float := offset + scrollStep

/-- The height of the window over a scene. -/
def windowHeight (scene : Scene) : Float := scene.width / 2.0

/-- The offset that is used: no further than the end of the scene. -/
def boundedOffset (scene : Scene) (offset : Float) : Float :=
  Scene.smaller offset (Scene.larger (scene.height - windowHeight scene) 0.0)

/-- The number of pieces that a curve is drawn in. -/
def curveSegments : Nat := 24

/-- The lines between neighbouring points. -/
def joinPoints (color : Color) (points : List Point) : List Mark :=
  (points.zip points.tail).map fun (start, finish) => .line start finish color

/-- The points of a curve, both ends included. -/
def curvePoints (start control finish : Point) : List Point :=
  start :: (List.range curveSegments).map fun index =>
    Scene.quadraticPoint start control finish
      (Float.ofNat (index + 1) / Float.ofNat curveSegments)

/-- The marks of a drawing command in a window with the given upper edge. A character
is `charWidth` wide. -/
def marksOf (top charWidth : Float) (command : Command) : List Mark :=
  let flip := fun (point : Point) => (⟨point.x, top - point.y⟩ : Point)
  match command with
  | .circle center radius ink => [.circle (flip center) radius (Palette.ofInk ink)]
  | .polygon corners ink =>
    joinPoints (Palette.ofInk ink) ((corners ++ corners.take 1).map flip)
  | .rectangle bounds ink =>
    [.rectangle (flip (bounds.corner.offset 0.0 bounds.height)) bounds.width bounds.height
      (Palette.ofInk ink)]
  | .line start finish ink => [.line (flip start) (flip finish) (Palette.ofInk ink)]
  | .curve start control finish ink =>
    joinPoints (Palette.ofInk ink) ((curvePoints start control finish).map flip)
  | .text place text anchor ink =>
    let place := flip place
    let shift :=
      match anchor with
      | .start => 0.0
      | .middle => Float.ofNat text.length * charWidth / 2.0
    [.text ⟨place.x - shift, place.y⟩ text (Palette.ofInk ink)]

/-- Draw the pane; gives the screen and the offset that was used. -/
def draw (timeline : Timeline) (scene : Scene) (drawing : List Command) (focused : Bool)
    (offset : Float) (area : Area) (screen : Screen) : Screen × Float :=
  let block := Palette.paneBlock " Memory " focused
  if timeline.hasContent then
    let offset := boundedOffset scene offset
    let top := offset + windowHeight scene
    let charWidth := scene.width / Float.ofNat (max (area.width - 2) 1)
    let window : Window := { width := scene.width, bottom := offset, top }
    (Canvas.draw window area.inside (drawing.flatMap (marksOf top charWidth))
      (screen.drawBlock area block), offset)
  else
    (screen.drawParagraph area block (.ofForeground Palette.comment)
      [[{ text := Timeline.noContentMessage }]], offset)

end MemoryTimeline.Viewer.MemoryPane
