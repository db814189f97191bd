import MemoryTimeline.Scene.Geometry

/-!
# Metrics

The measures of a scene, what is derived from them, and which of them are refused.
Derived measures are defined for any numbers, NaN and infinities included.
-/

namespace MemoryTimeline.Scene

/-- The measures of a scene. -/
structure Metrics where
  width : Float
  height : Float
  padding : Float
  headerHeight : Float
  dividerGap : Float
  columnPitch : Float
  rowPitch : Float
  scalarRadius : Float
  arrayCellWidth : Float
  arrayCellHeight : Float
  objectWidth : Float
  objectHeader : Float
  objectLineHeight : Float
  objectPadding : Float
  arrowMaxBow : Float
  arrowMinDistance : Float
  /-- How far the ends of an arrow stay from the centers they join. -/
  arrowEdgeOffset : Float

/-- The two halves of a scene. -/
inductive Region where
  | stack
  | heap
  deriving DecidableEq

/-- The heading of a half. -/
def Region.title : Region → String
  | .stack => "Stack"
  | .heap => "Heap"

namespace Metrics

/-- The least width of a canvas. -/
def minWidth : Float := 1200.0

/-- The least height of a canvas. -/
def minHeight : Float := 600.0

/-- The largest width or height of a canvas. -/
def maxExtent : Float := 20000.0

/-- The measures used unless others are given. -/
def default : Metrics where
  width := minWidth
  height := minHeight
  padding := 60.0
  headerHeight := 40.0
  dividerGap := 40.0
  columnPitch := 140.0
  rowPitch := 100.0
  scalarRadius := 30.0
  arrayCellWidth := 40.0
  arrayCellHeight := 30.0
  objectWidth := 200.0
  objectHeader := 30.0
  objectLineHeight := 26.0
  objectPadding := 10.0
  arrowMaxBow := 80.0
  arrowMinDistance := 50.0
  arrowEdgeOffset := 35.0

/-- One measure: its name in settings, whether it is an extent of the canvas, and how it
is read and replaced. -/
structure Field where
  name : String
  isExtent : Bool
  get : Metrics → Float
  set : Metrics → Float → Metrics

/-- All measures in order. -/
def fields : List Field :=
  [{ name := "width", isExtent := true, get := width, set m v := { m with width := v } },
    { name := "height", isExtent := true, get := height, set m v := { m with height := v } },
    { name := "padding", isExtent := false, get := padding, set m v := { m with padding := v } },
    { name := "header_height", isExtent := false, get := headerHeight
      set m v := { m with headerHeight := v } },
    { name := "divider_gap", isExtent := false, get := dividerGap
      set m v := { m with dividerGap := v } },
    { name := "column_pitch", isExtent := false, get := columnPitch
      set m v := { m with columnPitch := v } },
    { name := "row_pitch", isExtent := false, get := rowPitch
      set m v := { m with rowPitch := v } },
    { name := "scalar_radius", isExtent := false, get := scalarRadius
      set m v := { m with scalarRadius := v } },
    { name := "array_cell_width", isExtent := false, get := arrayCellWidth
      set m v := { m with arrayCellWidth := v } },
    { name := "array_cell_height", isExtent := false, get := arrayCellHeight
      set m v := { m with arrayCellHeight := v } },
    { name := "object_width", isExtent := false, get := objectWidth
      set m v := { m with objectWidth := v } },
    { name := "object_header", isExtent := false, get := objectHeader
      set m v := { m with objectHeader := v } },
    { name := "object_line_height", isExtent := false, get := objectLineHeight
      set m v := { m with objectLineHeight := v } },
    { name := "object_padding", isExtent := false, get := objectPadding
      set m v := { m with objectPadding := v } },
    { name := "arrow_max_bow", isExtent := false, get := arrowMaxBow
      set m v := { m with arrowMaxBow := v } },
    { name := "arrow_min_distance", isExtent := false, get := arrowMinDistance
      set m v := { m with arrowMinDistance := v } },
    { name := "arrow_edge_offset", isExtent := false, get := arrowEdgeOffset
      set m v := { m with arrowEdgeOffset := v } }]

/-- The measure of a name. -/
def field? (name : String) : Option Field := fields.find? (·.name = name)

/-- Whether a value is refused for a measure: it is not finite, negative, or too large
an extent. -/
def Field.refuses (field : Field) (value : Float) : Bool :=
  !value.isFinite || value < 0.0 || (field.isExtent && maxExtent < value)

/-- The first measure whose value is refused, with its value. -/
def invalid? (metrics : Metrics) : Option (Field × Float) :=
  (fields.find? fun field => field.refuses (field.get metrics)).map fun field =>
    (field, field.get metrics)

/-- An extent between a least one and the largest; without a finite value, the least. -/
def boundedExtent (value least : Float) : Float :=
  if value.isFinite then
    if value < least then least else if maxExtent < value then maxExtent else value
  else least

/-- The width of the canvas. -/
def canvasWidth (metrics : Metrics) : Float := boundedExtent metrics.width minWidth

/-- The least height of the canvas. -/
def canvasHeight (metrics : Metrics) : Float := boundedExtent metrics.height minHeight

/-- The width of each half. -/
def sectionWidth (metrics : Metrics) : Float :=
  larger ((metrics.canvasWidth - 2.0 * metrics.padding - metrics.dividerGap) / 2.0) 0.0

/-- The number of columns of each half, at least one. -/
def columns (metrics : Metrics) : Nat :=
  if metrics.columnPitch ≤ 0.0 then 1
  else max (toCount (metrics.sectionWidth / metrics.columnPitch).floor) 1

/-- The top left corner of a half's grid. -/
def sectionOrigin (metrics : Metrics) (region : Region) : Point :=
  let y := metrics.headerHeight + 20.0
  match region with
  | .stack => ⟨metrics.padding, y⟩
  | .heap => ⟨metrics.padding + metrics.sectionWidth + metrics.dividerGap, y⟩

/-- The place of the line between the halves. -/
def dividerX (metrics : Metrics) : Float :=
  metrics.padding + metrics.sectionWidth + metrics.dividerGap / 2.0

end Metrics

end MemoryTimeline.Scene
