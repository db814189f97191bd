import MemoryTimeline.Binary64

/-!
# TOML values

A value of a TOML document. Dates and times carry no content here: settings hold
none, so it matters only that one was written.
-/

namespace MemoryTimeline

/-- A TOML value. The keys of a table are distinct and in order of first appearance. -/
inductive Toml where
  | str (text : String)
  | int (number : Int)
  | real (number : Binary64)
  | bool (truth : Bool)
  | datetime
  | arr (items : List Toml)
  | table (entries : List (String × Toml))

namespace Toml

instance : Inhabited Toml := ⟨.table []⟩

/-- A function that reads a construct at the front of a text and leaves the rest. -/
abbrev Reading (Value : Type) := List Char → Option (Value × List Char)

end Toml

end MemoryTimeline
