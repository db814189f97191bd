import MemoryTimeline.Scene.Metrics
import MemoryTimeline.Table
import MemoryTimeline.Timeline.Record

/-!
# Arrows

A pointer is joined to what it points to by a bowed arrow. The target is found by
allocation number, or else by name, or else, for a field, as another field of the
same object. Targets that are too near get no arrow.
-/

namespace MemoryTimeline.Scene

/-- A quadratic curve from one named place to another. -/
structure Arrow where
  source : String
  target : String
  start : Point
  control : Point
  finish : Point

namespace Arrow

/-- The length of each wing of an arrowhead. -/
def headLength : Float := 12.0

/-- The arrow between two places. Both ends are pulled in, by at most a quarter of the
distance; the curve is bowed sideways by a third of what is left, up to a limit. -/
def route? (metrics : Metrics) (source target : String) (start finish : Point) : Option Arrow :=
  let distance := start.distance finish
  if distance < metrics.arrowMinDistance || distance == 0.0 then none
  else
    let ux := (finish.x - start.x) / distance
    let uy := (finish.y - start.y) / distance
    let inset := smaller metrics.arrowEdgeOffset (distance / 4.0)
    let start := start.offset (ux * inset) (uy * inset)
    let finish := finish.offset (-ux * inset) (-uy * inset)
    let bow := smaller metrics.arrowMaxBow ((distance - 2.0 * inset) / 3.0)
    let control := (start.midpoint finish).offset (-uy * bow) (ux * bow)
    some { source, target, start, control, finish }

/-- The points that cut the curve into so many pieces, both ends included. -/
def sample (arrow : Arrow) (segments : Nat) : List Point :=
  let segments := max segments 1
  (List.range (segments + 1)).map fun index =>
    quadraticPoint arrow.start arrow.control arrow.finish
      (Float.ofNat index / Float.ofNat segments)

/-- The tips of the two wings of the arrowhead. -/
def head (arrow : Arrow) : Point × Point :=
  let angle :=
    Float.atan2 (arrow.finish.y - arrow.control.y) (arrow.finish.x - arrow.control.x)
  let spread := pi / 7.0
  let wing := fun (direction : Float) =>
    arrow.finish.offset (-headLength * direction.cos) (-headLength * direction.sin)
  (wing (angle + spread), wing (angle - spread))

end Arrow

/-- A pointer at a place, with what it points to. -/
structure Link where
  source : String
  start : Point
  pointee : Pointee

/-- Where names are, and which name each allocation has. -/
structure Places where
  positions : Table String Point
  heapNames : Table HeapId String

namespace Places

/-- The place of the entity of an allocation. -/
def ofHeap? (places : Places) (heap : HeapId) : Option (String × Point) :=
  (places.heapNames.lookup heap).bind fun name =>
    (places.positions.lookup name).map fun point => (name, point)

/-- The place of a name. -/
def ofName? (places : Places) (name : String) : Option (String × Point) :=
  (places.positions.lookup name).map fun point => (name, point)

/-- The place that a link leads to. -/
def target? (places : Places) (link : Link) : Option (String × Point) :=
  let sibling := (splitQualified? link.source).bind fun (object, _) =>
    places.ofName? (qualified object link.pointee.name)
  ((link.pointee.heap.bind places.ofHeap?).or (places.ofName? link.pointee.name)).or sibling

/-- The arrows of some links; links without a target have none. -/
def arrows (places : Places) (metrics : Metrics) (links : List Link) : List Arrow :=
  links.filterMap fun link =>
    (places.target? link).bind fun (name, finish) =>
      Arrow.route? metrics link.source name link.start finish

end Places

end MemoryTimeline.Scene
