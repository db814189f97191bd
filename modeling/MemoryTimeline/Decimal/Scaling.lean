import MemoryTimeline.Decimal.Literal

/-!
# Doubles by scaling

A numeral can be read with a 64-bit count and one operation on doubles: the leading
digits that fit in the count are rounded to a double, which is then multiplied or
divided by a power of ten and rounded again. The result is the nearest double when
both steps are exact, and otherwise can miss it in the last place. Numerals beyond the
largest double have no result.
-/

namespace MemoryTimeline.Decimal

/-- Append digits to a count as long as it fits in 64 bits; gives the count and the
number of digits taken. -/
def absorb (count : Nat) : List Char → Nat × Nat
  | [] => (count, 0)
  | digit :: rest =>
    let next := 10 * count + Text.numberOfDigits 10 [digit]
    if Text.maxCounter < next then (count, 0)
    else
      let (total, taken) := absorb next rest
      (total, taken + 1)

/-- The leading digits of a numeral as a count, and the power of ten of the last of
them. Whole digits that are left out raise the power; the fraction is appended to what
was taken, also after digits were left out. -/
def Literal.leading (literal : Literal) : Nat × Int :=
  let (whole, wholeTaken) := absorb 0 literal.whole
  let (count, fractionTaken) := absorb whole (literal.fraction.getD [])
  (count, literal.writtenExponent + (literal.whole.length - wholeTaken : Nat) - fractionTaken)

/-- The largest power of ten that is a double. -/
def largestPower : Nat := 308

/-- The double nearest to a power of ten. -/
def powerOfTen (exponent : Nat) : Binary64 := Binary64.ofRatio false (Nat.pow 10 exponent) 1

/-- Multiply a double by a power of ten, unless the product is too large. -/
def scaleUp? (number : Binary64) (exponent : Nat) : Option Binary64 :=
  if number.isZero then some number
  else if exponent ≤ largestPower then
    (number.product? (powerOfTen exponent)).filter Binary64.isFinite
  else none

/-- Divide a double by a power of ten. A power too large for a double is divided out in
parts, each of which rounds, until the number is zero. -/
def scaleDown? (number : Binary64) (exponent : Nat) : Option Binary64 :=
  if exponent ≤ largestPower then number.quotient? (powerOfTen exponent)
  else if number.isZero then some number
  else
    (number.quotient? (powerOfTen largestPower)).bind fun part =>
      scaleDown? part (exponent - largestPower)
termination_by exponent
decreasing_by simp only [largestPower] at *; omega

/-- The finite double that a numeral has by scaling. -/
def Literal.scaled? (literal : Literal) : Option Binary64 :=
  let (count, exponent) := literal.leading
  let number := Binary64.ofRatio literal.isNegative count 1
  if exponent < 0 then scaleDown? number (-exponent).toNat else scaleUp? number exponent.toNat

end MemoryTimeline.Decimal
