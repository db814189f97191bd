import MemoryTimeline.Json.Display
import MemoryTimeline.Scene.Metrics
import MemoryTimeline.Timeline.Record

/-!
# Shapes

A record is drawn in one of the two halves and in one of six shapes. `PlacedNode.place`
computes its label, box, cells and fields around a given center.
-/

namespace MemoryTimeline.Scene

/-- The half that a record is drawn in. The heap takes what is scoped, marked, kept or
named as allocated. -/
def Region.of (record : Record) : Region :=
  if record.scope = heapScope || record.allocation = some "new" || record.kind = .heap
      || hasHeapEnding record.name then .heap
  else .stack

/-- The shape of a record. -/
inductive Shape where
  | scalar
  | pointer
  | parameter
  | array
  | object
  | heapBlock
  deriving DecidableEq

/-- The shape of a kind of record. -/
def Shape.of (record : Record) : Shape :=
  match record.kind with
  | .variable => .scalar
  | .assignment => .scalar
  | .pointer => .pointer
  | .parameter => .parameter
  | .array => .array
  | .object => .object
  | .heap => .heapBlock

/-- The shape of a field inside an object. -/
inductive FieldShape where
  | scalar
  | pointer
  /-- A member without a record of its own. -/
  | text
  deriving DecidableEq

/-- A field inside an object, by its qualified name. -/
structure PlacedField where
  name : String
  label : String
  shape : FieldShape
  center : Point
  pointee : Option Pointee

/-- A record with its place in the scene. -/
structure PlacedNode where
  name : String
  scope : String
  region : Region
  shape : Shape
  center : Point
  bounds : Bounds
  /-- The height of an object's title band, zero for other shapes. -/
  header : Float
  label : String
  /-- The texts of an array's cells. -/
  cells : List String
  /-- The number of cells that are not shown. -/
  hidden : Nat
  fields : List PlacedField
  pointee : Option Pointee
  heap : Option HeapId

/-- The radius of a field's marker. -/
def fieldMarkerRadius : Float := 10.0

/-- The diagonal of a pointer's diamond. -/
def pointerSize : Float := 40.0

/-- The most cells of an array that are shown. -/
def maxCells : Nat := 16

/-- The number of cells of an array: its size, or else its first dimension, or else the
number of its values, or else one. -/
def arrayLength (record : Record) : Nat :=
  let firstDimension := record.dimensions.bind (·.head?)
  ((record.arraySize.or firstDimension).or (record.values.map (·.length))).getD 1

/-- The text of a cell. -/
def cellText (record : Record) (index : Nat) : String :=
  ((record.values.bind (·[index]?)).bind Json.display?).getD "?"

/-- A name and its value, joined by a separator; the name alone for null. -/
def labelWith (separator : String) (name : String) (value : Json) : String :=
  match value.display? with
  | some text => name ++ separator ++ text
  | none => name

/-- A field of an object that has a record of its own. -/
def nestedField (field : Record) : PlacedField :=
  let short := ((splitQualified? field.name).map (·.2)).getD field.name
  let isPointer := field.kind = .pointer
  { name := field.name
    label := if isPointer then short else labelWith "=" short field.value
    shape := if isPointer then .pointer else .scalar
    center := .zero
    pointee := field.pointee }

/-- A member of an object that has no record of its own. -/
def memberField (object : Record) (member : String × Json) : PlacedField where
  name := qualified object.name member.1
  label := labelWith "=" member.1 member.2
  shape := .text
  center := .zero
  pointee := none

/-- The fields of an object: those with records first, then the other members. -/
def objectFields (object : Record) (nested : List Record) : List PlacedField :=
  let recorded := nested.map nestedField
  let others := object.members.filter fun member =>
    recorded.all (·.name ≠ qualified object.name member.1)
  recorded ++ others.map (memberField object)

/-- The center of the field in a row of an object's box. -/
def fieldCenter (bounds : Bounds) (metrics : Metrics) (row : Nat) : Point :=
  let firstRow := bounds.y + metrics.objectHeader + metrics.objectPadding
  { x := bounds.x + metrics.objectPadding + fieldMarkerRadius
    y := firstRow + Float.ofNat row * metrics.objectLineHeight + metrics.objectLineHeight / 2.0 }

/-- The height of the box of an object with so many fields. -/
def objectHeight (metrics : Metrics) (fields : Nat) : Float :=
  metrics.objectHeader + Float.ofNat fields * metrics.objectLineHeight
    + 2.0 * metrics.objectPadding

namespace PlacedNode

/-- A record around a center, before its shape is taken into account. -/
def bare (record : Record) (center : Point) (bounds : Bounds) : PlacedNode where
  name := record.name
  scope := record.scope
  region := .of record
  shape := .of record
  center := center
  bounds := bounds
  header := 0.0
  label := record.name
  cells := []
  hidden := 0
  fields := []
  pointee := record.pointee
  heap := record.heap

/-- Place a record around a center. The nested records are drawn as fields if the record
is an object. -/
def place (metrics : Metrics) (record : Record) (nested : List Record) (center : Point) :
    PlacedNode :=
  let round :=
    let diameter := 2.0 * metrics.scalarRadius
    { bare record center (.centered center diameter diameter) with
      label := labelWith " = " record.name record.value }
  let row :=
    let length := arrayLength record
    let shown := min length maxCells
    let width := Float.ofNat (max shown 1) * metrics.arrayCellWidth
    { bare record center (.centered center width metrics.arrayCellHeight) with
      cells := (List.range shown).map (cellText record)
      hidden := length - shown }
  match Shape.of record with
  | .scalar => round
  | .parameter => round
  | .pointer => bare record center (.centered center pointerSize pointerSize)
  | .array => row
  | .heapBlock => row
  | .object =>
    let fields := objectFields record nested
    let bounds := Bounds.centered center metrics.objectWidth (objectHeight metrics fields.length)
    { bare record center bounds with
      header := metrics.objectHeader
      label :=
        match record.classType with
        | some classType => record.name ++ " : " ++ classType
        | none => record.name
      fields := fields.zipIdx.map fun (field, row) =>
        { field with center := fieldCenter bounds metrics row } }

/-- Move a node to another center, with its box and its fields. -/
def moveTo (node : PlacedNode) (center : Point) : PlacedNode :=
  let dx := center.x - node.center.x
  let dy := center.y - node.center.y
  { node with
    center
    bounds := node.bounds.offset dx dy
    fields := node.fields.map fun field => { field with center := field.center.offset dx dy } }

end PlacedNode

end MemoryTimeline.Scene
