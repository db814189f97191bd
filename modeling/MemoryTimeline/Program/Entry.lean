import MemoryTimeline.Program.Field
import MemoryTimeline.Program.Tag

/-!
# Entries

Declarators, parameters, arguments and members are small records inside a node.
An entry is an object with named fields, or an array that gives the fields in
their order; an array with too many items is no entry. A missing field reads like
null.
-/

namespace MemoryTimeline.Program

/-- A record of a document, by name or by position. -/
inductive Entry where
  | named (fields : List (String × Json))
  | positional (items : List Json)

namespace Entry

/-- The names of an entry's fields, in order. -/
abbrev Keys := List String

/-- Read a value as an entry with the given fields. -/
def ofJson? (keys : Keys) : Json → Option Entry
  | .obj fields => some (.named fields)
  | .arr items => if items.length ≤ keys.length then some (.positional items) else none
  | _ => none

/-- The value of a field. -/
def get (entry : Entry) (keys : Keys) (key : String) : Json :=
  match entry with
  | .named fields => (fields.lookup key).getD .null
  | .positional items => items.getD (keys.idxOf key) .null

end Entry

/-- The fields of a declarator. -/
def Declarator.keys : Entry.Keys :=
  ["name", "value", "scope", "pointer", "allocation", "array_size", "dimensions", "values",
    "points_to", "id", "line"]

/-- Read a declarator. -/
def Declarator.ofEntry (entry : Entry) : Declarator :=
  let get := entry.get Declarator.keys
  { name := Field.text (get "name")
    value := get "value"
    scope := Field.text? (get "scope")
    pointer := Field.flag (get "pointer")
    allocation := Field.text? (get "allocation")
    arraySize := Field.counter? (get "array_size")
    dimensions := Field.counters? (get "dimensions")
    values := (get "values").items?
    pointsTo := Field.reference? (get "points_to")
    id := Field.present? (get "id")
    line := Field.counter? (get "line") }

/-- Read the declarators of a declaration. One that cannot be read spoils them all;
a missing list is empty. -/
def Declarator.list? : Option Json → Option (List Declarator)
  | none => some []
  | some (.arr items) =>
    items.mapM fun item => (Entry.ofJson? Declarator.keys item).map Declarator.ofEntry
  | some _ => none

/-- The fields of a parameter. -/
def Parameter.keys : Entry.Keys := ["name", "data_type", "id", "line"]

/-- Read a parameter. -/
def Parameter.ofEntry (entry : Entry) : Parameter :=
  let get := entry.get Parameter.keys
  { name := Field.text (get "name")
    dataType := Field.text? (get "data_type")
    id := Field.present? (get "id")
    line := Field.counter? (get "line") }

/-- The fields of an argument. -/
def Argument.keys : Entry.Keys := ["param_name", "arg_value"]

/-- Read an argument. -/
def Argument.ofEntry (entry : Entry) : Argument :=
  let get := entry.get Argument.keys
  { parameter := Field.text? (get "param_name")
    value := get "arg_value" }

/-- The readable entries of an array. -/
def Entry.readable {Record : Type} (keys : Entry.Keys) (ofEntry : Entry → Record) (value : Json) :
    List Record :=
  (value.items?.getD []).filterMap fun item => (Entry.ofJson? keys item).map ofEntry

/-- The readable parameters of an array. -/
def Parameter.list : Json → List Parameter := Entry.readable Parameter.keys Parameter.ofEntry

/-- The readable arguments of an array. -/
def Argument.list : Json → List Argument := Entry.readable Argument.keys Argument.ofEntry

/-- The fields of a member. -/
def Member.keys : Entry.Keys :=
  ["type", "name", "default_value", "pointer", "data_type", "points_to", "scope", "params", "body",
    "id", "line"]

/-- Read a member whose statements have been read already. -/
def Member.ofEntry {Statement : Type} (entry : Entry) (body : List Statement) :
    Member Statement :=
  let get := entry.get Member.keys
  { kind := MemberKind.ofField (get "type")
    name := Field.text (get "name")
    defaultValue := get "default_value"
    pointer := Field.flag (get "pointer")
    dataType := Field.text? (get "data_type")
    pointsTo := Field.reference? (get "points_to")
    scope := Field.text? (get "scope")
    params := Parameter.list (get "params")
    body
    id := Field.present? (get "id")
    line := Field.counter? (get "line") }

end MemoryTimeline.Program
