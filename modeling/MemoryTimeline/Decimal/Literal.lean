import MemoryTimeline.Binary64
import MemoryTimeline.Text.Numeral

/-!
# Decimal numerals

`Literal.split?` cuts a numeral into sign, whole digits, fraction and exponent
without deciding which of them a format requires: each format states that for
itself. `Literal.toBinary64` is the double nearest to the number written.
-/

namespace MemoryTimeline.Decimal

/-- A written sign. -/
inductive Sign where
  | plus
  | minus
  deriving DecidableEq

/-- The parts of a decimal numeral. A fraction or an exponent is present when its
mark is, even if no digit follows. -/
structure Literal where
  sign : Option Sign
  whole : List Char
  fraction : Option (List Char)
  exponent : Option (Option Sign × List Char)

/-- Take a sign off the front of a text. -/
def takeSign : List Char → Option Sign × List Char
  | '+' :: rest => (some .plus, rest)
  | '-' :: rest => (some .minus, rest)
  | rest => (none, rest)

/-- Take a fraction off the front of a text: a point and the digits after it. -/
def takeFraction (isDigit : Char → Bool) : List Char → Option (List Char) × List Char
  | '.' :: rest => (some (rest.takeWhile isDigit), rest.dropWhile isDigit)
  | rest => (none, rest)

/-- Take an exponent off the front of a text: its mark, an optional sign, and digits. -/
def takeExponent (isDigit : Char → Bool) :
    List Char → Option (Option Sign × List Char) × List Char
  | mark :: rest =>
    if mark = 'e' || mark = 'E' then
      let (sign, digits) := takeSign rest
      (some (sign, digits.takeWhile isDigit), digits.dropWhile isDigit)
    else (none, mark :: rest)
  | [] => (none, [])

namespace Literal

/-- Cut a whole text into the parts of a numeral, if nothing is left over. -/
def split? (isDigit : Char → Bool) (text : List Char) : Option Literal :=
  let (sign, text) := takeSign text
  let whole := text.takeWhile isDigit
  let (fraction, text) := takeFraction isDigit (text.dropWhile isDigit)
  let (exponent, text) := takeExponent isDigit text
  if text.isEmpty then some { sign, whole, fraction, exponent } else none

/-- Whether the numeral carries a minus sign. -/
def isNegative (literal : Literal) : Bool := literal.sign == some .minus

/-- Whether the numeral has neither fraction nor exponent. -/
def isWhole (literal : Literal) : Bool := literal.fraction.isNone && literal.exponent.isNone

end Literal

/-- The double nearest to `digits * 10 ^ exponent`. The two outer cases lie far
beyond the range of doubles and need no power of ten. -/
def toBinary64 (negative : Bool) (digits : Nat) (exponent : Int) : Binary64 :=
  if digits = 0 then Binary64.withSign negative 0
  else if 400 < exponent then Binary64.infinity negative
  else if exponent + digits.log2 + 1 < -400 then Binary64.withSign negative 0
  else Binary64.ofRatio negative (digits * Nat.pow 10 exponent.toNat) (Nat.pow 10 (-exponent).toNat)

/-- The exponent that a numeral writes, zero where it writes none. -/
def Literal.writtenExponent (literal : Literal) : Int :=
  match literal.exponent with
  | none => 0
  | some (sign, digits) =>
    let magnitude := Text.numberOfDigits 10 (digits.filter Char.isDigit)
    if sign = some .minus then -(magnitude : Int) else magnitude

/-- The double nearest to the number that a numeral writes. Characters that only
group digits are passed over. -/
def Literal.toBinary64 (literal : Literal) : Binary64 :=
  let fraction := (literal.fraction.getD []).filter Char.isDigit
  let digits := Text.numberOfDigits 10 (literal.whole.filter Char.isDigit ++ fraction)
  Decimal.toBinary64 literal.isNegative digits (literal.writtenExponent - fraction.length)

end MemoryTimeline.Decimal
