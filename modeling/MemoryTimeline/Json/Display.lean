import MemoryTimeline.Json.Writer

/-!
# Values as shown to a reader

A structured expression is shown by its `name` or else by its `value`; an object
with neither is shown as compact JSON. Null has nothing to show.
-/

namespace MemoryTimeline.Json

mutual

/-- The text of a value, or nothing for null. -/
def display? : Json → Option String
  | .null => none
  | .bool truth => some (if truth then "true" else "false")
  | .int number => some (integerText number)
  | .real number => some (realStyle.write number)
  | .str text => some text
  | .arr items => some ("[" ++ ", ".intercalate (displayItems items) ++ "]")
  | .obj fields =>
    let shown :=
      match displayField? "name" fields with
      | some shown => shown
      | none => (displayField? "value" fields).getD none
    some (shown.getD (compact (.obj fields)))

/-- The texts of items, null included. -/
def displayItems : List Json → List String
  | [] => []
  | item :: rest => item.display?.getD "null" :: displayItems rest

/-- What the value of a field shows, if the field is there. -/
def displayField? (key : String) : List (String × Json) → Option (Option String)
  | [] => none
  | (name, value) :: rest => if key == name then some value.display? else displayField? key rest

end

end MemoryTimeline.Json
