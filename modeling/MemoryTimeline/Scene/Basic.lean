import MemoryTimeline.Scene.Arrow
import MemoryTimeline.Scene.Grid
import MemoryTimeline.Snapshot.Basic

/-!
# Scenes

`Snapshot.scene` arranges the live records of a snapshot: stack records on the left,
heap records on the right, and an arrow for each pointer whose target has a place.
-/

namespace MemoryTimeline

/-- The arrangement of a snapshot. -/
structure Scene where
  width : Float
  /-- The height of the canvas, grown to hold the lowest node. -/
  height : Float
  stackOrigin : Scene.Point
  heapOrigin : Scene.Point
  dividerX : Float
  headerHeight : Float
  nodes : List Scene.PlacedNode
  /-- The centers of nodes and fields. A name placed twice has its last center. -/
  positions : Table String Scene.Point
  arrows : List Scene.Arrow

namespace Scene

/-- The names of a node and its fields, with their centers. -/
def PlacedNode.positions (node : PlacedNode) : List (String × Point) :=
  (node.name, node.center) :: node.fields.map fun field => (field.name, field.center)

/-- The allocation of a node, with its name. -/
def PlacedNode.heapEntry? (node : PlacedNode) : Option (HeapId × String) :=
  node.heap.map fun heap => (heap, node.name)

/-- The link of a node that is a pointer or a parameter. -/
def PlacedNode.ownLink? (node : PlacedNode) : Option Link :=
  if node.shape = .pointer || node.shape = .parameter then
    node.pointee.map fun pointee => { source := node.name, start := node.center, pointee }
  else none

/-- The link of a field that is a pointer. -/
def PlacedField.link? (field : PlacedField) : Option Link :=
  if field.shape = .pointer then
    field.pointee.map fun pointee => { source := field.name, start := field.center, pointee }
  else none

/-- The links of a node and its fields. -/
def PlacedNode.links (node : PlacedNode) : List Link :=
  node.ownLink?.toList ++ node.fields.filterMap PlacedField.link?

/-- The records of a snapshot that are drawn in a half. -/
def recordsIn (snapshot : Snapshot) (region : Region) : List Record :=
  snapshot.live.filter (Region.of · = region)

/-- The nodes of both halves. -/
def placedNodes (metrics : Metrics) (snapshot : Snapshot) : List PlacedNode :=
  placeRegion metrics .stack (recordsIn snapshot .stack)
    ++ placeRegion metrics .heap (recordsIn snapshot .heap)

/-- The places of some nodes and their fields. -/
def placesOf (nodes : List PlacedNode) : Places where
  positions := Table.ofList (nodes.flatMap PlacedNode.positions)
  heapNames := Table.ofList (nodes.filterMap PlacedNode.heapEntry?)

/-- The center of a name. -/
def position? (scene : Scene) (name : String) : Option Point := scene.positions.lookup name

/-- The first node of a name. -/
def node? (scene : Scene) (name : String) : Option PlacedNode :=
  scene.nodes.find? (·.name = name)

/-- The nodes of a half. -/
def nodesIn (scene : Scene) (region : Region) : List PlacedNode :=
  scene.nodes.filter (·.region = region)

end Scene

/-- Arrange a snapshot. -/
def Snapshot.scene (metrics : Scene.Metrics) (snapshot : Snapshot) : Scene :=
  let nodes := Scene.placedNodes metrics snapshot
  let places := Scene.placesOf nodes
  { width := metrics.canvasWidth
    height := nodes.foldl
      (fun height node => Scene.larger height (node.bounds.bottom + metrics.padding))
      metrics.canvasHeight
    stackOrigin := metrics.sectionOrigin .stack
    heapOrigin := metrics.sectionOrigin .heap
    dividerX := metrics.dividerX
    headerHeight := metrics.headerHeight
    nodes
    positions := places.positions
    arrows := places.arrows metrics (nodes.flatMap Scene.PlacedNode.links) }

end MemoryTimeline
