import MemoryTimeline.Scene.Basic

/-!
# Drawings

A scene is drawn by a list of commands: outlines, lines, curves and texts, each in
an ink that says what it is for. Which color an ink has is decided elsewhere.
-/

namespace MemoryTimeline.Scene

/-- What a mark is for. -/
inductive Ink where
  | divider
  | sectionTitle
  | scalar
  | pointer
  | parameter
  | array
  | heapBlock
  | object
  | heapObject
  | field
  | pointerField
  | arrow
  | label
  | muted
  deriving DecidableEq

/-- Which point of a text is given. -/
inductive Anchor where
  | start
  | middle
  deriving DecidableEq

/-- A mark of a drawing. -/
inductive Command where
  | circle (center : Point) (radius : Float) (ink : Ink)
  | polygon (corners : List Point) (ink : Ink)
  | rectangle (bounds : Bounds) (ink : Ink)
  | line (start finish : Point) (ink : Ink)
  | curve (start control finish : Point) (ink : Ink)
  | text (place : Point) (text : String) (anchor : Anchor) (ink : Ink)

/-- The length of the dashes of the divider and of the gaps between them. -/
def dividerDash : Float := 8.0

/-- The diagonal of the diamond that marks a pointer field. -/
def fieldPointerSize : Float := 20.0

/-- A text centered on a point. -/
def centeredLabel (center : Point) (text : String) : Command := .text center text .middle .label

/-- The heading of a half. -/
def heading (scene : Scene) (region : Region) (origin : Point) : Command :=
  .text ⟨origin.x, scene.headerHeight / 2.0⟩ region.title .start .sectionTitle

/-- The number of dashes of the divider. -/
def dashCount (scene : Scene) : Nat :=
  if scene.height.isFinite && 0.0 < scene.height then
    toCount (scene.height / (2.0 * dividerDash)).ceil
  else 0

/-- A dash of the divider. -/
def dash (scene : Scene) (index : Nat) : Command :=
  let y := Float.ofNat index * 2.0 * dividerDash
  .line ⟨scene.dividerX, y⟩ ⟨scene.dividerX, smaller (y + dividerDash) scene.height⟩ .divider

/-- One cell of an array: its left border, unless it is the first, and its text. -/
def drawCell (node : PlacedNode) (ink : Ink) (cellWidth : Float) (index : Nat) (text : String) :
    List Command :=
  let left := node.bounds.x + Float.ofNat index * cellWidth
  let border :=
    if 0 < index then [Command.line ⟨left, node.bounds.y⟩ ⟨left, node.bounds.bottom⟩ ink] else []
  border ++ [.text ⟨left + cellWidth / 2.0, node.center.y⟩ text .middle .label]

/-- An array: its outline, its cells, its name above, and the number of hidden cells. -/
def drawArray (node : PlacedNode) (ink : Ink) : List Command :=
  let bounds := node.bounds
  let cellWidth := bounds.width / Float.ofNat (max node.cells.length 1)
  let cells := node.cells.zipIdx.flatMap fun (text, index) =>
    drawCell node ink cellWidth index text
  let rest :=
    if 0 < node.hidden then
      [Command.text ⟨bounds.right + 4.0, node.center.y⟩ ("+" ++ Nat.repr node.hidden) .start .muted]
    else []
  .rectangle bounds ink :: cells
    ++ .text ⟨node.center.x, bounds.y - 8.0⟩ node.label .middle .label :: rest

/-- A field of an object: its marker and its label. -/
def drawField (field : PlacedField) : List Command :=
  let marker :=
    match field.shape with
    | .scalar => [Command.circle field.center fieldMarkerRadius .field]
    | .pointer => [Command.polygon (diamond field.center fieldPointerSize) .pointerField]
    | .text => []
  marker ++ [.text (field.center.offset (fieldMarkerRadius * 1.8) 0.0) field.label .start .label]

/-- An object: its outline, its title band, and its fields. -/
def drawObject (node : PlacedNode) (ink : Ink) : List Command :=
  let bounds := node.bounds
  let headerBottom := smaller (bounds.y + node.header) bounds.bottom
  [.rectangle bounds ink,
    .line ⟨bounds.x, headerBottom⟩ ⟨bounds.right, headerBottom⟩ ink,
    .text ⟨node.center.x, (bounds.y + headerBottom) / 2.0⟩ node.label .middle .label]
    ++ node.fields.flatMap drawField

/-- The marks of a node. -/
def drawNode (node : PlacedNode) : List Command :=
  match node.shape with
  | .scalar =>
    [.circle node.center (node.bounds.width / 2.0) .scalar, centeredLabel node.center node.label]
  | .pointer =>
    [.polygon (diamond node.center pointerSize) .pointer, centeredLabel node.center node.label]
  | .parameter =>
    [.polygon (hexagon node.center (node.bounds.width / 2.0)) .parameter,
      centeredLabel node.center node.label]
  | .array => drawArray node .array
  | .heapBlock => drawArray node .heapBlock
  | .object => drawObject node (if node.region = .heap then .heapObject else .object)

/-- The marks of an arrow: its curve and the wings of its head. -/
def drawArrow (arrow : Arrow) : List Command :=
  let (left, right) := arrow.head
  [.curve arrow.start arrow.control arrow.finish .arrow, .line arrow.finish left .arrow,
    .line arrow.finish right .arrow]

/-- The drawing of a scene: headings, divider, nodes, arrows. -/
def drawing (scene : Scene) : List Command :=
  [heading scene .stack scene.stackOrigin, heading scene .heap scene.heapOrigin]
    ++ (List.range scene.dashCount).map scene.dash
    ++ scene.nodes.flatMap drawNode
    ++ scene.arrows.flatMap drawArrow

end MemoryTimeline.Scene
