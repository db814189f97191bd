import MemoryTimeline.Json.Writer
import MemoryTimeline.Program.Syntax
import MemoryTimeline.Text.Blank
import MemoryTimeline.Text.Numeral

/-!
# Forgiving field readers

Documents are loose about types: a line number may be a number or a string, a
pointer mark a truth value or a phrase, a reference a name or an object with a
name. Each reader here gives the empty value of its field for a shape it does not
expect, and a missing field reads like null.
-/

namespace MemoryTimeline.Program.Field

/-- A string, or the text of a number. -/
def text? : Json → Option String
  | .str text => some text
  | value => value.numberText?

/-- A string, or the text of a number, or the empty text. -/
def text (value : Json) : String := (text? value).getD ""

/-- A natural number below `2 ^ 64`, given as a number or in a string. -/
def counter? : Json → Option Nat
  | .int number => if 0 ≤ number then some number.toNat else none
  | .str text => Text.counter? (Text.trimBlanks text.toList)
  | _ => none

/-- The natural numbers of an array; entries that are none are passed over. -/
def counters? (value : Json) : Option (List Nat) :=
  value.items?.map (·.filterMap counter?)

/-- A truth value, or one of the phrases that mark a pointer. -/
def flag : Json → Bool
  | .bool truth => truth
  | .str text =>
    text = "true" || text = "pointer declaration" || text = "array pointer declaration"
  | _ => false

/-- A reference: a name that is not empty, or an object with a name. -/
def reference? : Json → Option String
  | .str text => if text.isEmpty then none else some text
  | value => value.identifier?

/-- Any value but null. -/
def present? (value : Json) : Option Json :=
  if value.isNull then none else some value

/-- The receiver of a method call: a name, or an object with a name and a class. -/
def receiver (value : Json) : Receiver :=
  match value with
  | .str name => { name, classType := none }
  | _ =>
    { name := value.identifier?.getD ""
      classType := (value.field? "class_type").bind Json.str? }

end MemoryTimeline.Program.Field
