/-!
# Natural numbers in decimal

Counts, line numbers and sizes are 64-bit natural numbers. `counter?` reads one:
an optional plus sign and at least one ASCII digit, with no grouping.
-/

namespace MemoryTimeline.Text

/-- The largest 64-bit natural number. -/
def maxCounter : Nat := Nat.pow 2 64 - 1

/-- The largest 64-bit integer. -/
def maxInteger : Nat := Nat.pow 2 63 - 1

/-- A count as a 64-bit integer, the largest one if the count is larger. -/
def integerOfCount (count : Nat) : Int := Int.ofNat (min count maxInteger)

/-- The value of a digit of any base up to sixteen; letters of both cases count. -/
def digitValue? (character : Char) : Option Nat :=
  if '0' ≤ character && character ≤ '9' then some (character.toNat - 48)
  else if 'a' ≤ character && character ≤ 'f' then some (character.toNat - 87)
  else if 'A' ≤ character && character ≤ 'F' then some (character.toNat - 55)
  else none

/-- The number written by digits in the given base, most significant first. -/
def numberOfDigits (base : Nat) (digits : List Char) : Nat :=
  digits.foldl (fun total digit => total * base + (digitValue? digit).getD 0) 0

/-- Read the digits of a 64-bit natural number. -/
def unsignedCounter? (digits : List Char) : Option Nat :=
  if digits.isEmpty || digits.any (fun digit => !digit.isDigit) then none
  else
    let number := numberOfDigits 10 digits
    if number ≤ maxCounter then some number else none

/-- Read a 64-bit natural number that may carry a plus sign. -/
def counter? : List Char → Option Nat
  | '+' :: digits => unsignedCounter? digits
  | digits => unsignedCounter? digits

end MemoryTimeline.Text
