import MemoryTimeline.Toml.Draft
import MemoryTimeline.Toml.Plain

/-!
# Reading TOML

A value is read with a bound on how deeply arrays and tables between braces may be
nested in it. Sequences are read item by item; as each item takes at least one
character, the length of the text bounds their number. `read?` reads a document.
-/

namespace MemoryTimeline.Toml

/-- Read the values of an array up to its closing bracket. Line ends and comments are
allowed around values, and a comma after the last one. -/
def items? (value? : Reading Toml) : (bound : Nat) → Reading (List Toml)
  | 0, _ => none
  | bound + 1, text => do
    match ← skipLines false text with
    | ']' :: rest => return ([], rest)
    | text =>
      let (item, rest) ← value? text
      match ← skipLines false rest with
      | ',' :: rest =>
        let (items, rest) ← items? value? bound rest
        return (item :: items, rest)
      | ']' :: rest => return ([item], rest)
      | _ => none

/-- Read a key, the equals sign and its value, with the blanks around them. -/
def pair? (value? : Reading Toml) (text : List Char) : Option ((Key × Toml) × List Char) := do
  let (key, rest) ← key? text
  let (value, rest) ← value? (skipBlanks (← after? '=' rest))
  return ((key, value), skipBlanks rest)

/-- Read at least one key with its value up to the brace that closes a table. -/
def pairs? (value? : Reading Toml) : (bound : Nat) → Reading (List (Key × Toml))
  | 0, _ => none
  | bound + 1, text => do
    let (pair, rest) ← pair? value? text
    match rest with
    | ',' :: rest =>
      let (pairs, rest) ← pairs? value? bound rest
      return (pair :: pairs, rest)
    | '\x7d' :: rest => return ([pair], rest)
    | _ => none

/-- Read a table between braces, after the opening one. -/
def braced? (value? : Reading Toml) (text : List Char) : Option (Toml × List Char) :=
  match skipBlanks text with
  | '\x7d' :: rest => some (.table [], rest)
  | text => do
    let (pairs, rest) ← pairs? value? text.length text
    let table ← Draft.ofPairs? pairs
    return (table, rest)

/-- Read a value that holds arrays and tables nested at most `depth` deep. -/
def value? : (depth : Nat) → Reading Toml
  | _, '"' :: rest =>
    (stringValue? ('"' :: rest)).map fun (text, rest) => (.str (String.ofList text), rest)
  | _, '\x27' :: rest =>
    (stringValue? ('\x27' :: rest)).map fun (text, rest) => (.str (String.ofList text), rest)
  | 0, '[' :: _ => none
  | depth + 1, '[' :: rest =>
    (items? (value? depth) (rest.length + 1) rest).map fun (items, rest) => (.arr items, rest)
  | 0, '\x7b' :: _ => none
  | depth + 1, '\x7b' :: rest => braced? (value? depth) rest
  | _, text => plainValue? text

/-! ## Documents -/

/-- A document under construction: its tables, and the path of the last header. -/
structure Progress where
  root : Draft.Entries
  current : List String

/-- Read a header, after its first bracket, and open its table. -/
def header? (progress : Progress) (text : List Char) : Option (Progress × List Char) := do
  match text with
  | '[' :: rest =>
    let (key, rest) ← key? rest
    let rest ← after? ']' (← after? ']' rest)
    let root ← Draft.openElement key progress.root
    return ({ root, current := key.path ++ [key.name] }, rest)
  | rest =>
    let (key, rest) ← key? rest
    let rest ← after? ']' rest
    let root ← Draft.openTable key progress.root
    return ({ root, current := key.path ++ [key.name] }, rest)

/-- Read a key and its value into the table of the last header. -/
def assignment? (progress : Progress) (text : List Char) : Option (Progress × List Char) := do
  let ((key, value), rest) ← pair? (value? (nestingLimit - 1)) text
  let root ←
    Draft.changeAt .implied (Draft.addValue key value) progress.current .header progress.root
  return ({ progress with root }, rest)

/-- Read the headers and assignments of a document to its end, one to a line. -/
def lines? : (bound : Nat) → Progress → List Char → Option Draft.Entries
  | 0, _, _ => none
  | bound + 1, progress, text => do
    match ← skipLines false text with
    | [] => return progress.root
    | '[' :: rest =>
      let (progress, rest) ← header? progress rest
      lines? bound progress (← finishLine? rest)
    | text =>
      let (progress, rest) ← assignment? progress text
      lines? bound progress (← finishLine? rest)

/-- The text after a byte order mark, if one stands in front. -/
def afterOrderMark : List Char → List Char
  | '\uFEFF' :: rest => rest
  | text => text

/-- Read a TOML document: the entries of its root table. -/
def read? (text : String) : Option (List (String × Toml)) :=
  let text := afterOrderMark text.toList
  (lines? (text.length + 1) ⟨[], []⟩ text).map Draft.closeEntries

end MemoryTimeline.Toml
