/-!
# Binary64 words

A double is kept as its 64-bit word. `value` takes a word apart into a sign, a
natural significand and a binary exponent, and `ofRatio` goes the other way: it
rounds an exact ratio of natural numbers once, to the nearest word, a tie going
to the even significand. All arithmetic between the two is exact.
-/

namespace MemoryTimeline

/-- Where a quotient goes that lies exactly between two neighbours. -/
inductive Tie where
  | toEven
  | away
  deriving DecidableEq

/-- The natural number nearest to `numerator / denominator`. -/
def roundDiv (tie : Tie) (numerator denominator : Nat) : Nat :=
  let quotient := numerator / denominator
  let twice := 2 * (numerator % denominator)
  if twice < denominator then quotient
  else if denominator < twice then quotient + 1
  else match tie with
    | .toEven => if quotient % 2 = 0 then quotient else quotient + 1
    | .away => quotient + 1

/-- A binary64 word. -/
structure Binary64 where
  bits : UInt64
  deriving DecidableEq

namespace Binary64

/-- What a word stands for. A finite word stands for `significand * 2 ^ exponent`
with its sign. -/
inductive Value where
  | nan
  | infinite (negative : Bool)
  | finite (negative : Bool) (significand : Nat) (exponent : Int)
  deriving DecidableEq

/-- The word of a machine double. -/
def ofFloat (number : Float) : Binary64 := ⟨number.toBits⟩

/-- The machine double of a word. -/
def toFloat (word : Binary64) : Float := Float.ofBits word.bits

/-- Take a word apart. -/
def value (word : Binary64) : Value :=
  let bits := word.bits.toNat
  let negative : Bool := Nat.pow 2 63 ≤ bits
  let field : Nat := bits / Nat.pow 2 52 % Nat.pow 2 11
  let fraction := bits % Nat.pow 2 52
  if field = 2047 then
    if fraction = 0 then .infinite negative else .nan
  else if field = 0 then .finite negative fraction (-1074)
  else .finite negative (Nat.pow 2 52 + fraction) ((field : Int) - 1075)

/-- The word of a magnitude below the sign bit, with the sign set. -/
def withSign (negative : Bool) (magnitude : Nat) : Binary64 :=
  ⟨UInt64.ofNat (if negative then Nat.pow 2 63 + magnitude else magnitude)⟩

/-- The infinity of a sign. -/
def infinity (negative : Bool) : Binary64 := withSign negative (2047 * Nat.pow 2 52)

/-- The ratio `numerator / denominator * 2 ^ (-exponent)` as a quotient of natural
numbers. -/
def scaleDown (numerator denominator : Nat) (exponent : Int) : Nat × Nat :=
  (numerator * Nat.pow 2 (-exponent).toNat, denominator * Nat.pow 2 exponent.toNat)

/-- The word nearest to a ratio, or the infinity of its sign from the midpoint
above the largest finite word on. A significand that rounds up to the next power
of two carries into the exponent field by itself. -/
def ofRatio (negative : Bool) (numerator denominator : Nat) : Binary64 :=
  if numerator = 0 then withSign negative 0
  else
    let estimate : Int := (numerator.log2 : Int) - denominator.log2
    let scaledAtEstimate := scaleDown numerator denominator (estimate - 52)
    let exponent : Int :=
      if scaledAtEstimate.1 < Nat.pow 2 52 * scaledAtEstimate.2 then estimate - 53
      else estimate - 52
    let exponent := max exponent (-1074)
    let scaled := scaleDown numerator denominator exponent
    let significand := roundDiv .toEven scaled.1 scaled.2
    let magnitude := (exponent + 1074).toNat * Nat.pow 2 52 + significand
    if magnitude < 2047 * Nat.pow 2 52 then withSign negative magnitude else infinity negative

/-- The number `significand * 2 ^ exponent`, rounded to a word. -/
def ofScaled (negative : Bool) (significand : Nat) (exponent : Int) : Binary64 :=
  ofRatio negative (significand * Nat.pow 2 exponent.toNat) (Nat.pow 2 (-exponent).toNat)

/-- The product of two finite words, rounded. -/
def product? (left right : Binary64) : Option Binary64 :=
  match left.value, right.value with
  | .finite leftSign leftPart leftExponent, .finite rightSign rightPart rightExponent =>
    some (ofScaled (leftSign != rightSign) (leftPart * rightPart) (leftExponent + rightExponent))
  | _, _ => none

/-- The quotient of two finite words, rounded. There is none by zero. -/
def quotient? (left right : Binary64) : Option Binary64 :=
  match left.value, right.value with
  | .finite leftSign leftPart leftExponent, .finite rightSign rightPart rightExponent =>
    if rightPart = 0 then none
    else
      let scaled := scaleDown leftPart rightPart (rightExponent - leftExponent)
      some (ofRatio (leftSign != rightSign) scaled.1 scaled.2)
  | _, _ => none

/-- Whether a word is zero, of either sign. -/
def isZero (word : Binary64) : Bool :=
  match word.value with
  | .finite _ significand _ => significand == 0
  | _ => false

/-- Whether a word is neither an infinity nor a NaN. -/
def isFinite (word : Binary64) : Bool :=
  match word.value with
  | .finite .. => true
  | _ => false

end Binary64

end MemoryTimeline
