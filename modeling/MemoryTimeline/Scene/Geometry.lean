import MemoryTimeline.Scene.Number

/-!
# Plane geometry

Coordinates grow to the right and downwards. Each formula is evaluated in the order
in which it is written.
-/

namespace MemoryTimeline.Scene

/-- A point of the scene. -/
structure Point where
  x : Float
  y : Float

namespace Point

/-- The origin of coordinates. -/
def zero : Point := ⟨0.0, 0.0⟩

/-- A point moved by a displacement. -/
def offset (point : Point) (dx dy : Float) : Point := ⟨point.x + dx, point.y + dy⟩

/-- The distance between two points. -/
def distance (first second : Point) : Float :=
  hypotenuse (second.x - first.x) (second.y - first.y)

/-- The point halfway between two points. -/
def midpoint (first second : Point) : Point :=
  ⟨(first.x + second.x) / 2.0, (first.y + second.y) / 2.0⟩

end Point

/-- A box with sides parallel to the axes, by its top left corner and its extent. -/
structure Bounds where
  x : Float
  y : Float
  width : Float
  height : Float

namespace Bounds

/-- The box of an extent around a point. -/
def centered (center : Point) (width height : Float) : Bounds where
  x := center.x - width / 2.0
  y := center.y - height / 2.0
  width := width
  height := height

/-- The right edge. -/
def right (bounds : Bounds) : Float := bounds.x + bounds.width

/-- The lower edge. -/
def bottom (bounds : Bounds) : Float := bounds.y + bounds.height

/-- The top left corner. -/
def corner (bounds : Bounds) : Point := ⟨bounds.x, bounds.y⟩

/-- A box moved by a displacement. -/
def offset (bounds : Bounds) (dx dy : Float) : Bounds :=
  { bounds with x := bounds.x + dx, y := bounds.y + dy }

end Bounds

/-- The corners of a rhombus with equal diagonals: top, right, bottom, left. -/
def diamond (center : Point) (size : Float) : List Point :=
  let half := size / 2.0
  [center.offset 0.0 (-half), center.offset half 0.0, center.offset 0.0 half,
    center.offset (-half) 0.0]

/-- The corners of a regular hexagon, the first one to the right of the center. -/
def hexagon (center : Point) (radius : Float) : List Point :=
  (List.range 6).map fun corner =>
    let angle := pi / 3.0 * Float.ofNat corner
    center.offset (radius * angle.cos) (radius * angle.sin)

/-- The point at parameter `t` of the quadratic curve with the given ends and control
point. -/
def quadraticPoint (start control finish : Point) (t : Float) : Point :=
  let u := 1.0 - t
  { x := u * u * start.x + 2.0 * u * t * control.x + t * t * finish.x
    y := u * u * start.y + 2.0 * u * t * control.y + t * t * finish.y }

end MemoryTimeline.Scene
