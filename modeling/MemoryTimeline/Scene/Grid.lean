import MemoryTimeline.Scene.Shape

/-!
# The grid of a half

The records of a half fill a grid row by row. A record that belongs to an object of
the same half is drawn inside that object and takes no cell. A row is as high as
its highest node needs, and at least one pitch.
-/

namespace MemoryTimeline.Scene

/-- The space kept below a node. -/
def rowGap : Float := 20.0

/-- The names of the objects among some records. -/
def objectNames (records : List Record) : List String :=
  (records.filter (Shape.of · = .object)).map (·.name)

/-- The object that a record belongs to, among the given ones. -/
def owner? (objects : List String) (record : Record) : Option String :=
  (splitQualified? record.name).bind fun (object, _) =>
    if objects.contains object then some object else none

/-- The records that belong to a record of the same half, if it is an object. -/
def nestedRecords (records : List Record) (record : Record) : List Record :=
  if Shape.of record = .object then
    records.filter fun other => owner? (objectNames records) other = some record.name
  else []

/-- The nodes of a half, in order, before they are moved to their cells. -/
def unplacedNodes (metrics : Metrics) (records : List Record) : List PlacedNode :=
  (records.filter fun record => (owner? (objectNames records) record).isNone).map fun record =>
    PlacedNode.place metrics record (nestedRecords records record) .zero

/-- The height of a row. -/
def rowHeight (metrics : Metrics) (row : List PlacedNode) : Float :=
  row.foldl (fun height node => larger height (node.bounds.height + rowGap)) metrics.rowPitch

/-- Cut a list into rows of a length; the last may be shorter. -/
def rowsOf {Item : Type} (columns : Nat) (items : List Item) : List (List Item) :=
  (List.range ((items.length + columns - 1) / columns)).map fun row =>
    (items.drop (row * columns)).take columns

/-- The center of a cell, from the heights of the rows. -/
def cellCenter (metrics : Metrics) (origin : Point) (heights : List Float) (index : Nat) : Point :=
  let column := index % metrics.columns
  let row := index / metrics.columns
  let top := (heights.take row).foldl (· + ·) 0.0
  origin.offset ((Float.ofNat column + 0.5) * metrics.columnPitch)
    (top + heights.getD row 0.0 / 2.0)

/-- Place the records of a half. -/
def placeRegion (metrics : Metrics) (region : Region) (records : List Record) :
    List PlacedNode :=
  let nodes := unplacedNodes metrics records
  let heights := (rowsOf metrics.columns nodes).map (rowHeight metrics)
  nodes.zipIdx.map fun (node, index) =>
    node.moveTo (cellCenter metrics (metrics.sectionOrigin region) heights index)

end MemoryTimeline.Scene
