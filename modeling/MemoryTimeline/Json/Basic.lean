import MemoryTimeline.Binary64

/-!
# JSON values

Documents, recorded values and exported timelines are JSON values. A number is an
integer or a double, and the two stay apart: `1` and `1.0` are different values.
The fields of an object keep their order; values that were read from a text have
their fields sorted by key, each key once.
-/

namespace MemoryTimeline

/-- A JSON value. -/
inductive Json where
  | null
  | bool (truth : Bool)
  | int (number : Int)
  | real (number : Binary64)
  | str (text : String)
  | arr (items : List Json)
  | obj (fields : List (String × Json))

namespace Json

instance : Inhabited Json := ⟨.null⟩

/-- The value of a field, if the value is an object that has it. -/
def field? (key : String) : Json → Option Json
  | .obj fields => fields.lookup key
  | _ => none

/-- The text of a string value. -/
def str? : Json → Option String
  | .str text => some text
  | _ => none

/-- The items of an array. -/
def items? : Json → Option (List Json)
  | .arr items => some items
  | _ => none

/-- The name in an identifier expression: the string field `name` of an object. -/
def identifier? (value : Json) : Option String :=
  (value.field? "name").bind str?

/-- Whether the value is null. -/
def isNull : Json → Bool
  | .null => true
  | _ => false

end Json

end MemoryTimeline
