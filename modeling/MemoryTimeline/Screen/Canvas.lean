import MemoryTimeline.Scene.Geometry
import MemoryTimeline.Screen.Basic

/-!
# Canvases

A canvas shows a window of the plane in an area of cells. Outlines are drawn with
dots, eight to a cell in two columns and four rows; texts are written over them.
The second coordinate of the window grows upwards.
-/

namespace MemoryTimeline

namespace Canvas

open Scene (Point)

/-- The part of the plane that is shown, from zero to `width` and from `bottom` to `top`. -/
structure Window where
  width : Float
  bottom : Float
  top : Float

/-- The height of a window. -/
def Window.height (window : Window) : Float := (window.top - window.bottom).abs

/-- A mark on a canvas. -/
inductive Mark where
  | line (start finish : Point) (color : Color)
  | circle (center : Point) (radius : Float) (color : Color)
  /-- A rectangle by its corner with the least coordinates. -/
  | rectangle (corner : Point) (width height : Float) (color : Color)
  | text (place : Point) (text : String) (color : Color)

/-- The dots of a cell, one bit each, and the color of the last of them. -/
structure DotCell where
  bits : Nat
  color : Color

/-- A grid of dots for an area of so many cells. -/
structure Dots where
  columns : Nat
  rows : Nat
  cells : Array DotCell

namespace Dots

/-- A grid without dots. -/
def blank (columns rows : Nat) : Dots where
  columns := columns
  rows := rows
  cells := Array.replicate (columns * rows) ⟨0, .black⟩

/-- The bit of a dot within its cell, by the dot's column and row. -/
def bit (column row : Nat) : Nat :=
  match row % 4, column % 2 with
  | 0, 0 => 0x01
  | 0, _ => 0x08
  | 1, 0 => 0x02
  | 1, _ => 0x10
  | 2, 0 => 0x04
  | 2, _ => 0x20
  | _, 0 => 0x40
  | _, _ => 0x80

/-- Set a dot. -/
def set (dots : Dots) (color : Color) (dot : Nat × Nat) : Dots :=
  let ⟨columns, rows, cells⟩ := dots
  let (column, row) := dot
  ⟨columns, rows, cells.modify (row / 4 * columns + column / 2) fun cell =>
    ⟨cell.bits ||| bit column row, color⟩⟩

/-- Set some dots. -/
def setAll (dots : Dots) (color : Color) (places : List (Nat × Nat)) : Dots :=
  places.foldl (fun dots place => dots.set color place) dots

/-- The dot of a point, unless the point is outside the window. -/
def dot? (dots : Dots) (window : Window) (point : Point) : Option (Nat × Nat) :=
  if point.x < 0.0 || window.width < point.x || point.y < window.bottom || window.top < point.y
  then none
  else if window.width == 0.0 || window.height == 0.0 then none
  else
    some
      (Scene.toCount (point.x * (Float.ofNat (2 * dots.columns) - 1.0) / window.width),
        Scene.toCount
          ((window.top - point.y) * (Float.ofNat (4 * dots.rows) - 1.0) / window.height))

end Dots

/-- The positions across a line that runs `major` dots in one direction and `minor` in the
other, for as many dots as are counted; `error` decides when to step across. -/
def sweep (major minor : Nat) (rising : Bool) : Nat → Nat → Int → List Nat
  | 0, _, _ => []
  | count + 1, position, error =>
    let steps : Bool := 0 < error
    let next := if steps then (if rising then position + 1 else position - 1) else position
    let error := if steps then error - 2 * major else error
    position :: sweep major minor rising count next (error + 2 * minor)

/-- The positions across a line from its first to its last dot. -/
def sweepAll (major minor start : Nat) (rising : Bool) : List Nat :=
  sweep major minor rising (major + 1) start (2 * (minor : Int) - major)

/-- The dots of a line between two dots. -/
def lineDots (start finish : Nat × Nat) : List (Nat × Nat) :=
  let distance := fun (a b : Nat) => max a b - min a b
  let dx := distance start.1 finish.1
  let dy := distance start.2 finish.2
  if dx = 0 then
    (List.range (dy + 1)).map fun offset => (start.1, min start.2 finish.2 + offset)
  else if dy = 0 then
    (List.range (dx + 1)).map fun offset => (min start.1 finish.1 + offset, start.2)
  else if dy < dx then
    let (first, last) := if start.1 ≤ finish.1 then (start, finish) else (finish, start)
    (sweepAll dx dy first.2 (first.2 ≤ last.2)).zipIdx.map fun (row, offset) =>
      (first.1 + offset, row)
  else
    let (first, last) := if start.2 ≤ finish.2 then (start, finish) else (finish, start)
    (sweepAll dy dx first.1 (first.1 ≤ last.1)).zipIdx.map fun (column, offset) =>
      (column, first.2 + offset)

/-- Draw a line, if both its ends are inside the window. -/
def drawLine (window : Window) (color : Color) (start finish : Point) (dots : Dots) : Dots :=
  match dots.dot? window start, dots.dot? window finish with
  | some first, some last => dots.setAll color (lineDots first last)
  | _, _ => dots

/-- The points of a circle, one for each degree. -/
def circlePoints (center : Point) (radius : Float) : List Point :=
  (List.range 360).map fun degree =>
    let angle := Float.ofNat degree * (Scene.pi / 180.0)
    ⟨Scene.mulAdd radius angle.cos center.x, Scene.mulAdd radius angle.sin center.y⟩

/-- Draw the dots of a mark. -/
def drawMark (window : Window) (dots : Dots) : Mark → Dots
  | .line start finish color => drawLine window color start finish dots
  | .circle center radius color =>
    dots.setAll color ((circlePoints center radius).filterMap fun point => dots.dot? window point)
  | .rectangle corner width height color =>
    let left := corner.x
    let right := corner.x + width
    let low := corner.y
    let high := corner.y + height
    let side := fun (start finish : Point) (dots : Dots) => drawLine window color start finish dots
    side ⟨left, low⟩ ⟨right, low⟩
      (side ⟨right, low⟩ ⟨right, high⟩
        (side ⟨left, high⟩ ⟨right, high⟩ (side ⟨left, low⟩ ⟨left, high⟩ dots)))
  | .text .. => dots

/-- The cell at the start of a text, relative to the area, unless it is outside the window. -/
def textCell? (window : Window) (area : Area) (place : Point) : Option (Nat × Nat) :=
  if 0.0 ≤ place.x && place.x ≤ window.width && place.y ≤ window.top && window.bottom ≤ place.y
  then
    some
      (Scene.toCount (place.x * (Float.ofNat area.width - 1.0) / window.width),
        Scene.toCount
          ((window.top - place.y) * (Float.ofNat area.height - 1.0) / window.height))
  else none

/-- Write a text mark into an area. -/
def writeMark (window : Window) (area : Area) (screen : Screen) : Mark → Screen
  | .text place text color =>
    match textCell? window area place with
    | some (column, row) =>
      screen.writeSpans (area.x + column) (area.y + row) (area.width - column)
        [{ text, style := .ofForeground color }]
    | none => screen
  | _ => screen

/-- Put the dots of a grid into an area; cells without dots stay as they are. -/
def putDots (area : Area) (dots : Dots) (screen : Screen) : Screen :=
  dots.cells.toList.zipIdx.foldl
    (fun screen (cell, index) =>
      if cell.bits = 0 then screen
      else screen.put (area.x + index % area.width) (area.y + index / area.width)
        (Char.ofNat (0x2800 + cell.bits)) (.ofForeground cell.color))
    screen

/-- Show marks in an area: all dots first, then the texts in order. -/
def draw (window : Window) (area : Area) (marks : List Mark) (screen : Screen) : Screen :=
  if area.isEmpty then screen
  else
    let dots := marks.foldl (drawMark window) (Dots.blank area.width area.height)
    marks.foldl (writeMark window area) (putDots area dots screen)

end Canvas

end MemoryTimeline
