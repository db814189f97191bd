import MemoryTimeline.Binary64

/-!
# Machine numbers of the scene

Geometry is computed in doubles. The functions here fix what happens at the edges:
a NaN loses against a number in `larger` and `smaller`, `toCount` saturates and
sends NaN to zero, `hypotenuse` neither overflows nor underflows on the way, and
`mulAdd` rounds once.
-/

namespace MemoryTimeline.Scene

/-- The larger of two numbers; a NaN gives way to the other. -/
def larger (left right : Float) : Float :=
  if left.isNaN then right
  else if right.isNaN then left
  else if left < right then right else left

/-- The smaller of two numbers; a NaN gives way to the other. -/
def smaller (left right : Float) : Float :=
  if left.isNaN then right
  else if right.isNaN then left
  else if right < left then right else left

/-- The whole part of a number as a 64-bit count: at least zero, at most the largest
count, and zero for NaN. -/
def toCount (number : Float) : Nat := number.toUInt64.toNat

/-- The ratio of a circle's circumference to its diameter. -/
def pi : Float := 3.141592653589793

/-- The length of a right triangle's long side from its other sides, `long ≥ short ≥ 0`
and their squares in range. One correction step brings the square root of the
rounded sum next to the exact value. -/
def hypotenuseInRange (long short : Float) : Float :=
  let root := Float.sqrt (long * long + short * short)
  let correction :=
    if root ≤ 2.0 * short then
      let delta := root - short
      long * (2.0 * delta - long) + (delta - 2.0 * (long - short)) * delta
    else
      let delta := root - long
      2.0 * delta * (long - 2.0 * short) + ((4.0 * delta - short) * short + delta * delta)
  root - correction / (2.0 * root)

/-- The distance of a point from the origin. An infinite coordinate decides, even
against a NaN. -/
def hypotenuse (x y : Float) : Float :=
  let width := x.abs
  let height := y.abs
  if width.isInf || height.isInf then (Binary64.infinity false).toFloat
  else if width.isNaN || height.isNaN then width + height
  else
    let long := if width < height then height else width
    let short := if width < height then width else height
    if short ≤ long * Float.scaleB 1.0 (-54) then long + short
    else if Float.scaleB 1.0 511 < long then
      hypotenuseInRange (long.scaleB (-600)) (short.scaleB (-600)) |>.scaleB 600
    else if short < Float.scaleB 1.0 (-459) then
      hypotenuseInRange (long.scaleB 600) (short.scaleB 600) |>.scaleB (-600)
    else hypotenuseInRange long short

/-- The integer `±significand * 2 ^ shift`. -/
def shifted (negative : Bool) (significand : Nat) (shift : Int) : Int :=
  let magnitude : Int := (significand * Nat.pow 2 shift.toNat : Nat)
  if negative then -magnitude else magnitude

/-- The number `left * right + addend`, rounded once. -/
def mulAdd (left right addend : Float) : Float :=
  match (Binary64.ofFloat left).value, (Binary64.ofFloat right).value,
    (Binary64.ofFloat addend).value with
  | .finite leftSign leftPart leftExponent, .finite rightSign rightPart rightExponent,
    .finite addendSign addendPart addendExponent =>
    let productExponent := leftExponent + rightExponent
    let exponent := min productExponent addendExponent
    let product :=
      shifted (leftSign != rightSign) (leftPart * rightPart) (productExponent - exponent)
    let total := product + shifted addendSign addendPart (addendExponent - exponent)
    (Binary64.ofScaled (total < 0) total.natAbs exponent).toFloat
  | _, _, _ => left * right + addend

end MemoryTimeline.Scene
