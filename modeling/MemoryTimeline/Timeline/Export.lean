import MemoryTimeline.Timeline.Event

/-!
# Timelines as JSON

The fields of each object stand in a fixed order, and fields without a value are
left out.
-/

namespace MemoryTimeline

/-- A natural number as a JSON value. -/
def Json.ofNat (number : Nat) : Json := .int number

/-- A field that is left out when it has no value. -/
def Json.optionalField {Value : Type} (key : String) (toJson : Value → Json)
    (value : Option Value) : List (String × Json) :=
  match value with
  | some value => [(key, toJson value)]
  | none => []

/-- A pointee as a JSON object. -/
def Pointee.toJson (pointee : Pointee) : Json :=
  .obj (("name", .str pointee.name) :: Json.optionalField "heap" Json.ofNat pointee.heap)

/-- A record as a JSON object. -/
def Record.toJson (record : Record) : Json :=
  .obj ([("name", .str record.name), ("value", record.value), ("scope", .str record.scope),
      ("type", .str record.kind.text)]
    ++ Json.optionalField "array_size" Json.ofNat record.arraySize
    ++ Json.optionalField "dimensions" (fun sizes => .arr (sizes.map Json.ofNat)) record.dimensions
    ++ Json.optionalField "values" Json.arr record.values
    ++ Json.optionalField "pointsTo" Pointee.toJson record.pointee
    ++ Json.optionalField "class_type" Json.str record.classType
    ++ (if record.members.isEmpty then [] else [("members", .obj record.members)])
    ++ Json.optionalField "allocation" Json.str record.allocation
    ++ Json.optionalField "heap" Json.ofNat record.heap
    ++ Json.optionalField "id" (fun value => value) record.id
    ++ Json.optionalField "line" Json.ofNat record.line)

/-- A member write as a JSON object. -/
def MemberWrite.toJson (write : MemberWrite) : Json :=
  .obj ([("object", .str write.object), ("member", .str write.member), ("value", write.value),
      ("scope", .str write.scope)]
    ++ Json.optionalField "line" Json.ofNat write.line
    ++ Json.optionalField "target" Json.ofNat write.target
    ++ Json.optionalField "pointee" Pointee.toJson write.pointee)

/-- An event as a JSON object. -/
def Event.toJson (event : Event) : Json :=
  let details :=
    match event with
    | .push scope line => ("scope", .str scope) :: Json.optionalField "line" Json.ofNat line
    | .pop scope line => ("scope", .str scope) :: Json.optionalField "line" Json.ofNat line
    | .var record => [("data", record.toJson)]
    | .memberWrite write => [("data", write.toJson)]
  .obj (("event", .str event.label) :: details)

/-- A timeline as a JSON array. -/
def Timeline.toJson (timeline : Timeline) : Json := .arr (timeline.events.map Event.toJson)

end MemoryTimeline
