import MemoryTimeline.Decimal.Scaling
import MemoryTimeline.Json.Basic

/-!
# Reading JSON

The reader is strict: blanks are the four of the standard, nothing may follow the
value, a double must be finite, and at most 127 arrays and objects are open at a
time. It works in two passes, each a fold over its input. `Lexer.step` turns
characters into tokens, `Parser.step` turns tokens into a value with the open
containers held in a list.
-/

namespace MemoryTimeline.Json

/-- A lexical unit of a JSON text. -/
inductive Token where
  | openArray
  | closeArray
  | openObject
  | closeObject
  | comma
  | colon
  | scalar (value : Json)

namespace Lexer

/-- What the lexer is in the middle of. Characters already taken are kept last
first. -/
inductive Mode where
  /-- Between two tokens. -/
  | between
  /-- In `true`, `false` or `null`. -/
  | word (taken : List Char)
  /-- In a number. -/
  | number (taken : List Char)
  /-- In a string. -/
  | text (taken : List Char)
  /-- Behind a backslash in a string. -/
  | escape (taken : List Char)
  /-- In the four digits of an escaped code unit, possibly behind a high surrogate. -/
  | unit (taken : List Char) (high : Option Nat) (count value : Nat)
  /-- Behind a high surrogate, where a backslash has to follow. -/
  | surrogateMark (taken : List Char) (high : Nat)
  /-- Behind a high surrogate and a backslash, where the mark of a code unit has to follow. -/
  | surrogateUnit (taken : List Char) (high : Nat)

/-- The mode and the tokens so far, last first. -/
structure State where
  mode : Mode
  tokens : List Token

/-- Whether a character can continue a number. -/
def continuesNumber (character : Char) : Bool :=
  character.isDigit || character = '.' || character = 'e' || character = 'E' || character = '+'
    || character = '-'

/-- The value of a word. -/
def wordValue? (word : String) : Option Json :=
  match word with
  | "null" => some .null
  | "true" => some (.bool true)
  | "false" => some (.bool false)
  | _ => none

/-- Whether the whole part of a number is `0` or has no leading zero. -/
def plainWhole : List Char → Bool
  | [] => false
  | ['0'] => true
  | '0' :: _ => false
  | _ => true

/-- The value of a numeral without fraction and exponent: an integer if it fits in
64 bits, with or without a sign. Negative zero is a double. -/
def integerValue? (negative : Bool) (magnitude : Nat) : Option Json :=
  if negative then
    if 0 < magnitude && magnitude ≤ Nat.pow 2 63 then some (.int (-(magnitude : Int))) else none
  else if magnitude < Nat.pow 2 64 then some (.int magnitude) else none

/-- The value of a number: an integer where `integerValue?` gives one, and
otherwise the finite double that it has by scaling. -/
def numberValue? (text : List Char) : Option Json := do
  let literal ← Decimal.Literal.split? Char.isDigit text
  let fractionWritten := literal.fraction.all (! ·.isEmpty)
  let exponentWritten := literal.exponent.all (! ·.2.isEmpty)
  if literal.sign = some .plus || !plainWhole literal.whole || !fractionWritten
      || !exponentWritten then none
  else
    let asInteger :=
      if literal.isWhole then
        integerValue? literal.isNegative (Text.numberOfDigits 10 literal.whole)
      else none
    asInteger.or (literal.scaled?.map Json.real)

/-- The character that a short escape stands for. -/
def shortEscape? (mark : Char) : Option Char :=
  match mark with
  | '"' => some '"'
  | '\\' => some '\\'
  | '/' => some '/'
  | 'b' => some (Char.ofNat 0x08)
  | 'f' => some (Char.ofNat 0x0C)
  | 'n' => some '\n'
  | 'r' => some '\r'
  | 't' => some '\t'
  | _ => none

/-- Whether a code unit is the first half of a surrogate pair. -/
def isHighSurrogate (unit : Nat) : Bool := 0xD800 ≤ unit && unit ≤ 0xDBFF

/-- Whether a code unit is the second half of a surrogate pair. -/
def isLowSurrogate (unit : Nat) : Bool := 0xDC00 ≤ unit && unit ≤ 0xDFFF

/-- Use a complete code unit: halves of a surrogate pair only count together. -/
def takeUnit (taken : List Char) (high : Option Nat) (unit : Nat) : Option Mode :=
  match high with
  | some first =>
    if isLowSurrogate unit then
      some (.text (Char.ofNat (0x10000 + (first - 0xD800) * 0x400 + (unit - 0xDC00)) :: taken))
    else none
  | none =>
    if isHighSurrogate unit then some (.surrogateMark taken unit)
    else if isLowSurrogate unit then none
    else some (.text (Char.ofNat unit :: taken))

/-- Take a character between two tokens. -/
def start (tokens : List Token) (character : Char) : Option State :=
  match character.toNat with
  | 0x20 => some ⟨.between, tokens⟩
  | 0x09 => some ⟨.between, tokens⟩
  | 0x0A => some ⟨.between, tokens⟩
  | 0x0D => some ⟨.between, tokens⟩
  | 0x5B => some ⟨.between, .openArray :: tokens⟩
  | 0x5D => some ⟨.between, .closeArray :: tokens⟩
  | 0x7B => some ⟨.between, .openObject :: tokens⟩
  | 0x7D => some ⟨.between, .closeObject :: tokens⟩
  | 0x2C => some ⟨.between, .comma :: tokens⟩
  | 0x3A => some ⟨.between, .colon :: tokens⟩
  | 0x22 => some ⟨.text [], tokens⟩
  | _ =>
    if character.isDigit || character = '-' then some ⟨.number [character], tokens⟩
    else if character.isLower then some ⟨.word [character], tokens⟩
    else none

/-- Finish a word or a number; in the middle of a string there is nothing to finish. -/
def flush (state : State) : Option (List Token) :=
  match state.mode with
  | .between => some state.tokens
  | .word taken =>
    (wordValue? (String.ofList taken.reverse)).map fun value => .scalar value :: state.tokens
  | .number taken => (numberValue? taken.reverse).map fun value => .scalar value :: state.tokens
  | _ => none

/-- Take one character. -/
def step (state : State) (character : Char) : Option State :=
  match state.mode with
  | .between => start state.tokens character
  | .word taken =>
    if character.isLower then some { state with mode := .word (character :: taken) }
    else (flush state).bind fun tokens => start tokens character
  | .number taken =>
    if continuesNumber character then some { state with mode := .number (character :: taken) }
    else (flush state).bind fun tokens => start tokens character
  | .text taken =>
    if character = '"' then
      some ⟨.between, .scalar (.str (String.ofList taken.reverse)) :: state.tokens⟩
    else if character = '\\' then some { state with mode := .escape taken }
    else if character.toNat < 0x20 then none
    else some { state with mode := .text (character :: taken) }
  | .escape taken =>
    if character = 'u' then some { state with mode := .unit taken none 0 0 }
    else (shortEscape? character).map fun meant => { state with mode := .text (meant :: taken) }
  | .unit taken high count value => do
    let digit ← Text.digitValue? character
    let value := value * 16 + digit
    if count = 3 then (takeUnit taken high value).map fun mode => { state with mode }
    else some { state with mode := .unit taken high (count + 1) value }
  | .surrogateMark taken high =>
    if character = '\\' then some { state with mode := .surrogateUnit taken high } else none
  | .surrogateUnit taken high =>
    if character = 'u' then some { state with mode := .unit taken (some high) 0 0 } else none

/-- The tokens of a text. -/
def tokens? (text : List Char) : Option (List Token) :=
  ((text.foldlM step ⟨.between, []⟩).bind flush).map List.reverse

end Lexer

/-- Sort fields by key. Of fields with one key the first is kept. -/
def sortFields (fields : List (String × Json)) : List (String × Json) :=
  let sorted := fields.mergeSort fun left right => left.1 ≤ right.1
  sorted.foldr
    (fun field rest => field :: rest.dropWhile fun other => other.1 = field.1)
    []

namespace Parser

/-- An open container with what it holds so far, last first. An open object also
holds the key whose value is being read. -/
inductive Frame where
  | array (items : List Json)
  | object (fields : List (String × Json)) (key : String)

/-- What may come next. -/
inductive Expect where
  /-- A value. -/
  | value
  /-- A value, or the end of the array that was just opened. -/
  | firstItem
  /-- A comma or the end of the innermost container. -/
  | separator
  /-- A key, in the object whose fields so far are given. -/
  | key (fields : List (String × Json))
  /-- A key, or the end of the object that was just opened. -/
  | firstKey
  /-- A colon behind a key. -/
  | colon
  /-- Nothing: the value is complete. -/
  | nothing (value : Json)

/-- The open containers, innermost first, and what may come next. -/
structure State where
  frames : List Frame
  expect : Expect

/-- The largest number of containers open at a time. -/
def maxDepth : Nat := 127

/-- Put a complete value where it belongs. -/
def complete (frames : List Frame) (value : Json) : State :=
  match frames with
  | [] => ⟨[], .nothing value⟩
  | .array items :: outer => ⟨.array (value :: items) :: outer, .separator⟩
  | .object fields key :: outer => ⟨.object ((key, value) :: fields) key :: outer, .separator⟩

/-- Take the beginning of a value. -/
def beginValue (frames : List Frame) (token : Token) : Option State :=
  match token with
  | .scalar value => some (complete frames value)
  | .openArray =>
    if frames.length < maxDepth then some ⟨.array [] :: frames, .firstItem⟩ else none
  | .openObject =>
    if frames.length < maxDepth then some ⟨.object [] "" :: frames, .firstKey⟩ else none
  | _ => none

/-- Take a key of the innermost object. -/
def takeKey (frames : List Frame) (fields : List (String × Json)) (token : Token) :
    Option State :=
  match token, frames with
  | .scalar (.str key), .object _ _ :: outer => some ⟨.object fields key :: outer, .colon⟩
  | _, _ => none

/-- Take one token. -/
def step (state : State) (token : Token) : Option State :=
  match state.expect with
  | .value => beginValue state.frames token
  | .firstItem =>
    match token, state.frames with
    | .closeArray, .array _ :: outer => some (complete outer (.arr []))
    | _, frames => beginValue frames token
  | .separator =>
    match token, state.frames with
    | .comma, .array items :: outer => some ⟨.array items :: outer, .value⟩
    | .comma, .object fields key :: outer => some ⟨.object fields key :: outer, .key fields⟩
    | .closeArray, .array items :: outer => some (complete outer (.arr items.reverse))
    | .closeObject, .object fields _ :: outer => some (complete outer (.obj (sortFields fields)))
    | _, _ => none
  | .key fields => takeKey state.frames fields token
  | .firstKey =>
    match token, state.frames with
    | .closeObject, .object _ _ :: outer => some (complete outer (.obj []))
    | _, frames => takeKey frames [] token
  | .colon =>
    match token with
    | .colon => some { state with expect := .value }
    | _ => none
  | .nothing _ => none

/-- The value that a list of tokens writes. -/
def value? (tokens : List Token) : Option Json := do
  let final ← tokens.foldlM step ⟨[], .value⟩
  match final.expect with
  | .nothing value => some value
  | _ => none

end Parser

/-- Read a JSON text. -/
def read? (text : String) : Option Json :=
  (Lexer.tokens? text.toList).bind Parser.value?

end MemoryTimeline.Json
