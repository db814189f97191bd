import MemoryTimeline.Toml.Lexeme

/-!
# Tables under construction

While a document is read, its tables remember how they came into being, because that
decides what may still be added to them. A table that a header names is complete in
itself and no dotted key may enter it from outside. A table that a dotted key made can
only grow by dotted keys of the same place. A table that is only on the way to the
table of a header may still get a header of its own. A table written between braces is
a value and never grows.
-/

namespace MemoryTimeline.Toml

/-- How a table came into being. -/
inductive Origin where
  /-- On the way to the table of a header. -/
  | implied
  /-- On the way to a value with a dotted key. -/
  | dotted
  /-- By a header of its own. -/
  | header
  deriving DecidableEq

/-- An entry of a table under construction. -/
inductive Draft where
  | value (content : Toml)
  | table (origin : Origin) (entries : List (String × Draft))
  /-- Tables of one array, the latest first. -/
  | tables (elements : List (List (String × Draft)))

namespace Draft

/-- The entries of a table under construction. -/
abbrev Entries := List (String × Draft)

/-- Put an entry in the place of the one with its key, or at the end. -/
def put (key : String) (entry : Draft) : Entries → Entries
  | [] => [(key, entry)]
  | (first, other) :: rest =>
    if first = key then (key, entry) :: rest else (first, other) :: put key entry rest

/-- Change the table that a path leads to. Missing tables on the way are made with the
given origin; an array of tables is entered at its latest table. A dotted path does not
enter a table that has a header, and no path enters a value. The change is told the
origin of the table that it is applied to. -/
def changeAt (made : Origin) (change : Origin → Entries → Option Entries) :
    (path : List String) → (origin : Origin) → Entries → Option Entries
  | [], origin, entries => change origin entries
  | key :: path, _, entries =>
    match entries.lookup key with
    | none =>
      (changeAt made change path made []).map fun inner => put key (.table made inner) entries
    | some (.table origin inner) =>
      if made = .dotted ∧ origin = .header then none
      else
        (changeAt made change path origin inner).map fun inner =>
          put key (.table origin inner) entries
    | some (.tables (latest :: earlier)) =>
      (changeAt made change path .header latest).map fun latest =>
        put key (.tables (latest :: earlier)) entries
    | some (.tables []) => none
    | some (.value _) => none

/-- Add a value under a key that is not taken. A dotted key ends in a table that dotted
keys made. -/
def addValue (key : Key) (content : Toml) (origin : Origin) (entries : Entries) : Option Entries :=
  changeAt .dotted
    (fun origin entries =>
      if !key.path.isEmpty && origin ≠ .dotted then none
      else if (entries.lookup key.name).isSome then none
      else some (put key.name (.value content) entries))
    key.path origin entries

/-- Give a table its header. The table is new or was only implied. -/
def openTable (key : Key) (root : Entries) : Option Entries :=
  changeAt .implied
    (fun _ entries =>
      match entries.lookup key.name with
      | none => some (put key.name (.table .header []) entries)
      | some (.table .implied inner) => some (put key.name (.table .header inner) entries)
      | some _ => none)
    key.path .header root

/-- Begin a further table of an array of tables. -/
def openElement (key : Key) (root : Entries) : Option Entries :=
  changeAt .implied
    (fun _ entries =>
      match entries.lookup key.name with
      | none => some (put key.name (.tables [[]]) entries)
      | some (.tables elements) => some (put key.name (.tables ([] :: elements)) entries)
      | some _ => none)
    key.path .header root

mutual

/-- The value of a finished entry. -/
def close : Draft → Toml
  | .value content => content
  | .table _ entries => .table (closeEntries entries)
  | .tables elements => .arr (closeElements elements).reverse

/-- The entries of a finished table. -/
def closeEntries : List (String × Draft) → List (String × Toml)
  | [] => []
  | (key, entry) :: rest => (key, close entry) :: closeEntries rest

/-- The tables of a finished array, in the order given. -/
def closeElements : List (List (String × Draft)) → List Toml
  | [] => []
  | entries :: rest => .table (closeEntries entries) :: closeElements rest

end

/-- The table of keys and values written between braces. -/
def ofPairs? (pairs : List (Key × Toml)) : Option Toml :=
  (pairs.foldlM (fun entries (key, content) => addValue key content .header entries) []).map
    fun entries => .table (closeEntries entries)

end Draft

end MemoryTimeline.Toml
