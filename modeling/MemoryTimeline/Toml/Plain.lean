import MemoryTimeline.Decimal.Literal
import MemoryTimeline.Toml.Lexeme

/-!
# Plain values of TOML

Numbers, truth values, dates and times are written without quotes, so they are read
as words: the longest run of characters that such values are made of. Every character
that may follow a value ends a word.
-/

namespace MemoryTimeline.Toml

/-- A character of a plain value. -/
def isWordCharacter (character : Char) : Bool :=
  character.isAlphanum || character = '+' || character = '-' || character = '_'
    || character = '.' || character = ':'

/-! ## Numbers -/

/-- Whether characters are digits that single underscores may group. -/
def isGrouped (isDigit : Char → Bool) : List Char → Bool
  | [] => false
  | [last] => isDigit last
  | digit :: '_' :: rest => isDigit digit && isGrouped isDigit rest
  | digit :: rest => isDigit digit && isGrouped isDigit rest

/-- The least 64-bit integer. -/
def minInteger : Int := -(Nat.pow 2 63 : Nat)

/-- The largest 64-bit integer. -/
def maxInteger : Int := (Nat.pow 2 63 : Nat) - 1

/-- An integer, if it has 64 bits. -/
def integer? (number : Int) : Option Toml :=
  if minInteger ≤ number ∧ number ≤ maxInteger then some (.int number) else none

/-- The integer written by grouped digits of a base. -/
def basedInteger? (base : Nat) (digits : List Char) : Option Toml :=
  let isDigit := fun digit => (Text.digitValue? digit).any (· < base)
  if isGrouped isDigit digits then
    integer? (Text.numberOfDigits base (digits.filter isDigit))
  else none

/-- Whether the digits before the point are well formed: grouped, and without a zero
in front of others. -/
def isWholePart : List Char → Bool
  | ['0'] => true
  | '0' :: _ => false
  | digits => isGrouped Char.isDigit digits

/-- The number of a decimal numeral. A fraction and an exponent need digits, which may
be grouped. A magnitude beyond all doubles is refused unless it is negative. -/
def decimal? (word : List Char) : Option Toml := do
  let literal ← Decimal.Literal.split? (fun character => character.isDigit || character = '_') word
  if !isWholePart literal.whole then none
  else if literal.isWhole then
    let magnitude := Text.numberOfDigits 10 (literal.whole.filter Char.isDigit)
    integer? (if literal.isNegative then -(magnitude : Int) else magnitude)
  else if literal.fraction.all (isGrouped Char.isDigit)
      && literal.exponent.all (fun exponent => isGrouped Char.isDigit exponent.2) then
    let number := literal.toBinary64
    if number = Binary64.infinity false then none else some (.real number)
  else none

/-! ## Dates and times -/

/-- Read a number of exactly two digits that lies between two bounds. -/
def twoDigits? (least most : Nat) : Reading Nat
  | first :: second :: rest =>
    if first.isDigit && second.isDigit then
      let number := Text.numberOfDigits 10 [first, second]
      if least ≤ number ∧ number ≤ most then some (number, rest) else none
    else none
  | _ => none

/-- The number of days in a month. -/
def daysInMonth (year month : Nat) : Nat :=
  if month = 2 then
    if year % 4 = 0 ∧ (year % 100 ≠ 0 ∨ year % 400 = 0) then 29 else 28
  else if month = 4 ∨ month = 6 ∨ month = 9 ∨ month = 11 then 30
  else 31

/-- The text after a mark, if it stands in front. -/
def after? (mark : Char) : List Char → Option (List Char)
  | first :: rest => if first = mark then some rest else none
  | [] => none

/-- The text after a date that stands in front. -/
def afterDate? (text : List Char) : Option (List Char) := do
  let (century, rest) ← twoDigits? 0 99 text
  let (year, rest) ← twoDigits? 0 99 rest
  let (month, rest) ← twoDigits? 1 12 (← after? '-' rest)
  let (_, rest) ← twoDigits? 1 (daysInMonth (100 * century + year) month) (← after? '-' rest)
  return rest

/-- The text after a time of day that stands in front. A leap second is a second. -/
def afterTime? (text : List Char) : Option (List Char) := do
  let (_, rest) ← twoDigits? 0 23 text
  let (_, rest) ← twoDigits? 0 59 (← after? ':' rest)
  let (_, rest) ← twoDigits? 0 60 (← after? ':' rest)
  match rest with
  | '.' :: rest => if rest.head?.any Char.isDigit then some (rest.dropWhile Char.isDigit) else none
  | rest => some rest

/-- Whether a text is a distance from universal time, or nothing. -/
def isOffset : List Char → Bool
  | [] | ['Z'] | ['z'] => true
  | sign :: rest =>
    (sign = '+' || sign = '-') && (do
      let (_, rest) ← twoDigits? 0 23 rest
      let (_, rest) ← twoDigits? 0 59 (← after? ':' rest)
      return rest.isEmpty) == some true

/-- Whether a word is a time of day, with or without a distance from universal time. -/
def isTime (word : List Char) : Bool := (afterTime? word).any isOffset

/-- Whether a word is a time of day, a date, or a date joined to a time. -/
def isDatetime (word : List Char) : Bool :=
  afterTime? word == some [] ||
    (afterDate? word).any fun rest =>
      match rest with
      | [] => true
      | mark :: time => (mark = 'T' || mark = 't') && isTime time

/-- Whether a time of day stands after one blank: two digits and a colon decide. -/
def startsTime : List Char → Bool
  | ' ' :: rest => ((twoDigits? 0 23 rest).bind fun (_, rest) => after? ':' rest).isSome
  | _ => false

/-! ## Words -/

/-- The value that a word writes. -/
def ofWord? (word : List Char) : Option Toml :=
  match String.ofList word with
  | "true" => some (.bool true)
  | "false" => some (.bool false)
  | "inf" | "+inf" => some (.real (Binary64.infinity false))
  | "-inf" => some (.real (Binary64.infinity true))
  | "nan" | "+nan" | "-nan" => some (.real (Binary64.ofFloat (0.0 / 0.0)))
  | _ =>
    match word with
    | '0' :: 'x' :: digits => basedInteger? 16 digits
    | '0' :: 'o' :: digits => basedInteger? 8 digits
    | '0' :: 'b' :: digits => basedInteger? 2 digits
    | word => if isDatetime word then some .datetime else decimal? word

/-- Read a plain value. A date may be followed by a blank and a time. -/
def plainValue? (text : List Char) : Option (Toml × List Char) :=
  let word := text.takeWhile isWordCharacter
  let rest := text.dropWhile isWordCharacter
  if afterDate? word == some [] && startsTime rest then
    let time := (rest.drop 1).takeWhile isWordCharacter
    if isTime time then some (.datetime, (rest.drop 1).dropWhile isWordCharacter) else none
  else (ofWord? word).map fun value => (value, rest)

end MemoryTimeline.Toml
