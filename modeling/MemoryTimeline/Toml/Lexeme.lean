import MemoryTimeline.Text.Numeral
import MemoryTimeline.Toml.Basic

/-!
# Lexemes of TOML

Blanks, line ends, comments, quoted strings and keys. Control characters other than
the tab are refused everywhere, and a carriage return counts only before a line feed.
-/

namespace MemoryTimeline.Toml

/-! ## Blanks and comments -/

/-- A blank inside a line. -/
def isBlank (character : Char) : Bool := character = ' ' || character = '\t'

/-- A tab, or a character that is no control character. -/
def isPrintable (character : Char) : Bool :=
  character = '\t' || (' ' ≤ character && character ≠ '\x7f')

/-- Skip blanks inside a line. -/
def skipBlanks (text : List Char) : List Char := text.dropWhile isBlank

/-- The text after a line end, if one stands in front. -/
def lineEnd? : List Char → Option (List Char)
  | '\n' :: rest => some rest
  | '\r' :: '\n' :: rest => some rest
  | _ => none

/-- Skip a comment, if one stands in front, up to the end of its line. -/
def skipComment : List Char → List Char
  | '#' :: rest => rest.dropWhile isPrintable
  | text => text

/-- Finish a line: blanks, perhaps a comment, and a line end or the end of the text. -/
def finishLine? (text : List Char) : Option (List Char) :=
  match skipComment (skipBlanks text) with
  | [] => some []
  | rest => lineEnd? rest

/-- Skip blanks, comments and line ends. A comment must end with its line; `inComment`
tells that one is open. -/
def skipLines (inComment : Bool) : List Char → Option (List Char)
  | [] => some []
  | '\n' :: rest => skipLines false rest
  | '\r' :: '\n' :: rest => skipLines false rest
  | character :: rest =>
    if inComment then if isPrintable character then skipLines true rest else none
    else if isBlank character then skipLines false rest
    else if character = '#' then skipLines true rest
    else some (character :: rest)

/-! ## Strings -/

/-- The character that an escape of one letter stands for. -/
def escaped? : Char → Option Char
  | '"' => some '"'
  | '\\' => some '\\'
  | 'b' => some '\x08'
  | 'f' => some '\x0c'
  | 'n' => some '\n'
  | 'r' => some '\r'
  | 't' => some '\t'
  | _ => none

/-- The character whose code is written in hexadecimal digits. Surrogates and codes
beyond the last character are refused. -/
def charOfHex? (digits : List Char) : Option Char :=
  if digits.all fun digit => (Text.digitValue? digit).isSome then
    let code := Text.numberOfDigits 16 digits
    if code.isValidChar then some (Char.ofNat code) else none
  else none

/-- Put a character in front of the string that a reading yields. -/
def prepend (character : Char) (rest : Option (List Char × List Char)) :
    Option (List Char × List Char) :=
  rest.map fun (taken, left) => (character :: taken, left)

/-- Read a string up to its closing quotation mark. -/
def basicString : Reading (List Char)
  | [] => none
  | '"' :: rest => some ([], rest)
  | '\\' :: 'u' :: a :: b :: c :: d :: rest =>
    (charOfHex? [a, b, c, d]).bind fun character => prepend character (basicString rest)
  | '\\' :: 'U' :: a :: b :: c :: d :: e :: f :: g :: h :: rest =>
    (charOfHex? [a, b, c, d, e, f, g, h]).bind fun character => prepend character (basicString rest)
  | '\\' :: mark :: rest =>
    (escaped? mark).bind fun character => prepend character (basicString rest)
  | character :: rest =>
    if isPrintable character && character ≠ '\\' then prepend character (basicString rest) else none

/-- Read a string without escapes up to its closing apostrophe. -/
def literalString : Reading (List Char)
  | [] => none
  | character :: rest =>
    if character = '\x27' then some ([], rest)
    else if isPrintable character then prepend character (literalString rest)
    else none

/-- Whether a backslash before this text joins lines: only blanks precede a line end. -/
def joinsLines (text : List Char) : Bool := (lineEnd? (skipBlanks text)).isSome

/-- Read a string of several lines up to its three closing quotation marks. Up to two
more marks before them belong to the string. While `joining`, blanks and line ends are
passed over. -/
def multilineBasic (joining : Bool) : Reading (List Char)
  | [] => none
  | '"' :: '"' :: '"' :: '"' :: '"' :: rest => some (['"', '"'], rest)
  | '"' :: '"' :: '"' :: '"' :: rest => some (['"'], rest)
  | '"' :: '"' :: '"' :: rest => some ([], rest)
  | '\r' :: '\n' :: rest =>
    if joining then multilineBasic true rest else prepend '\n' (multilineBasic false rest)
  | '\n' :: rest =>
    if joining then multilineBasic true rest else prepend '\n' (multilineBasic false rest)
  | '\\' :: 'u' :: a :: b :: c :: d :: rest =>
    (charOfHex? [a, b, c, d]).bind fun character => prepend character (multilineBasic false rest)
  | '\\' :: 'U' :: a :: b :: c :: d :: e :: f :: g :: h :: rest =>
    (charOfHex? [a, b, c, d, e, f, g, h]).bind fun character =>
      prepend character (multilineBasic false rest)
  | '\\' :: mark :: rest =>
    if joinsLines (mark :: rest) then multilineBasic true (mark :: rest)
    else (escaped? mark).bind fun character => prepend character (multilineBasic false rest)
  | character :: rest =>
    if joining && isBlank character then multilineBasic true rest
    else if isPrintable character && character ≠ '\\' then
      prepend character (multilineBasic false rest)
    else none

/-- Read a string of several lines without escapes up to its three closing apostrophes.
Up to two more apostrophes before them belong to the string; `quotes` counts those that
stand directly before the text. -/
def multilineLiteral (quotes : Nat) : Reading (List Char)
  | [] => if 3 ≤ quotes then some (List.replicate (quotes - 3) '\x27', []) else none
  | character :: rest =>
    if character = '\x27' then
      if quotes = 4 then some (['\x27', '\x27'], rest) else multilineLiteral (quotes + 1) rest
    else if 3 ≤ quotes then
      some (List.replicate (quotes - 3) '\x27', character :: rest)
    else
      let passed := fun (taken, left) => (List.replicate quotes '\x27' ++ taken, left)
      if character = '\n' then (prepend '\n' (multilineLiteral 0 rest)).map passed
      else if character = '\r' then
        match rest with
        | '\n' :: rest => (prepend '\n' (multilineLiteral 0 rest)).map passed
        | _ => none
      else if isPrintable character then (prepend character (multilineLiteral 0 rest)).map passed
      else none

/-- Drop a line end directly after the marks that open a string of several lines. -/
def trimFirstLine (text : List Char) : List Char := (lineEnd? text).getD text

/-- Read a string value of any of the four forms. -/
def stringValue? : Reading (List Char)
  | '"' :: '"' :: '"' :: rest => multilineBasic false (trimFirstLine rest)
  | '"' :: rest => basicString rest
  | '\x27' :: '\x27' :: '\x27' :: rest => multilineLiteral 0 (trimFirstLine rest)
  | '\x27' :: rest => literalString rest
  | _ => none

/-! ## Keys -/

/-- A character of a key that needs no quotes. -/
def isKeyCharacter (character : Char) : Bool :=
  character.isAlphanum || character = '-' || character = '_'

/-- Read one part of a key, with the blanks around it. -/
def keyPart? (text : List Char) : Option (String × List Char) := do
  let (characters, rest) ←
    match skipBlanks text with
    | '"' :: rest => basicString rest
    | '\x27' :: rest => literalString rest
    | rest =>
      match rest.takeWhile isKeyCharacter with
      | [] => none
      | characters => some (characters, rest.dropWhile isKeyCharacter)
  return (String.ofList characters, skipBlanks rest)

/-- A key has fewer parts than this, and values are nested less deeply. -/
def nestingLimit : Nat := 80

/-- Read the parts of a key, divided by points; `limit` bounds their number. -/
def keyParts? : (limit : Nat) → Reading (List String)
  | 0, _ => none
  | limit + 1, text => do
    let (part, rest) ← keyPart? text
    match rest with
    | '.' :: rest =>
      let (parts, rest) ← keyParts? limit rest
      return (part :: parts, rest)
    | rest => return ([part], rest)

/-- A key: the tables that lead to it, and its last part. -/
structure Key where
  path : List String
  name : String

/-- The key of a nonempty list of parts. -/
def Key.ofParts? (parts : List String) : Option Key :=
  parts.getLast?.map fun name => { path := parts.dropLast, name }

/-- Read a key with the blanks around it. -/
def key? (text : List Char) : Option (Key × List Char) := do
  let (parts, rest) ← keyParts? (nestingLimit - 1) text
  let key ← Key.ofParts? parts
  return (key, rest)

end MemoryTimeline.Toml
