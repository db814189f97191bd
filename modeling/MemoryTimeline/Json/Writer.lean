import MemoryTimeline.Decimal.Style
import MemoryTimeline.Json.Basic

/-!
# Writing JSON

`Json.compact` writes a value without any blank. `Json.pretty` indents by two
blanks and puts every item and field on a line of its own. Both keep the order of
fields and write non-ASCII characters as they are.
-/

namespace MemoryTimeline.Json

/-- Doubles from `10 ^ (-5)` to below `10 ^ 16` are written without an exponent, whole
ones end in `.0`, and a tie goes to the even digit. -/
def realStyle : Decimal.Style where
  positional leading := -5 ≤ leading && leading ≤ 15
  pointZero := true
  tie := .toEven

/-- Two lower-case hexadecimal digits. -/
def hexByte (code : Nat) : List Char :=
  [Nat.digitChar (code / 16), Nat.digitChar (code % 16)]

/-- A character inside a string: the quotation mark, the backslash and characters
below the blank are escaped. -/
def escape (character : Char) : List Char :=
  match character.toNat with
  | 0x22 => ['\\', '"']
  | 0x5C => ['\\', '\\']
  | 0x08 => ['\\', 'b']
  | 0x0C => ['\\', 'f']
  | 0x0A => ['\\', 'n']
  | 0x0D => ['\\', 'r']
  | 0x09 => ['\\', 't']
  | code => if code < 0x20 then ['\\', 'u', '0', '0'] ++ hexByte code else [character]

/-- A string in quotation marks. -/
def quote (text : String) : String :=
  "\"" ++ String.ofList (text.toList.flatMap escape) ++ "\""

/-- The text of an integer. -/
def integerText (number : Int) : String :=
  if number < 0 then "-" ++ Nat.repr number.natAbs else Nat.repr number.natAbs

/-- The text of a number, or nothing for other values. -/
def numberText? : Json → Option String
  | .int number => some (integerText number)
  | .real number => some (realStyle.write number)
  | _ => none

mutual

/-- The text of a value without any blank. -/
def compact : Json → String
  | .null => "null"
  | .bool truth => if truth then "true" else "false"
  | .int number => integerText number
  | .real number => realStyle.write number
  | .str text => quote text
  | .arr items => "[" ++ compactItems items ++ "]"
  | .obj fields => "\x7b" ++ compactFields fields ++ "\x7d"

/-- Items with commas between them. -/
def compactItems : List Json → String
  | [] => ""
  | [item] => item.compact
  | item :: rest => item.compact ++ "," ++ compactItems rest

/-- Fields with commas between them. -/
def compactFields : List (String × Json) → String
  | [] => ""
  | [(key, value)] => quote key ++ ":" ++ value.compact
  | (key, value) :: rest => quote key ++ ":" ++ value.compact ++ "," ++ compactFields rest

end

/-- A line break followed by the blanks of an indentation level. -/
def newline (level : Nat) : String := "\n" ++ String.ofList (List.replicate (2 * level) ' ')

mutual

/-- The indented text of a value at an indentation level. -/
def indented (level : Nat) : Json → String
  | .arr [] => "[]"
  | .arr (item :: rest) =>
    "[" ++ newline (level + 1) ++ indented (level + 1) item ++ indentedItems (level + 1) rest
      ++ newline level ++ "]"
  | .obj [] => "\x7b\x7d"
  | .obj ((key, value) :: rest) =>
    "\x7b" ++ newline (level + 1) ++ quote key ++ ": " ++ indented (level + 1) value
      ++ indentedFields (level + 1) rest ++ newline level ++ "\x7d"
  | scalar => scalar.compact

/-- Further items of an array, each on a line of its own. -/
def indentedItems (level : Nat) : List Json → String
  | [] => ""
  | item :: rest => "," ++ newline level ++ indented level item ++ indentedItems level rest

/-- Further fields of an object, each on a line of its own. -/
def indentedFields (level : Nat) : List (String × Json) → String
  | [] => ""
  | (key, value) :: rest =>
    "," ++ newline level ++ quote key ++ ": " ++ indented level value ++ indentedFields level rest

end

/-- The text of a value, indented by two blanks per level. -/
def pretty (value : Json) : String := indented 0 value

end MemoryTimeline.Json
