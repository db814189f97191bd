import MemoryTimeline.Binary64

/-!
# The fewest digits that read back

`shortest` gives the decimal with the fewest digits among those that round to a
given double. The reals that round to `significand * 2 ^ exponent` form an
interval whose ends belong to it exactly when the significand is even. On each
decimal grid, from one digit to seventeen, only the two neighbours of the value
have to be tested; of two that pass, the nearer one is taken.
-/

namespace MemoryTimeline.Decimal

/-- Compare `digits * 10 ^ place` with `significand * 2 ^ exponent`. -/
def compareBinary (digits : Nat) (place : Int) (significand : Nat) (exponent : Int) : Ordering :=
  compare (digits * Nat.pow 10 place.toNat * Nat.pow 2 (-exponent).toNat)
    (significand * Nat.pow 2 exponent.toNat * Nat.pow 10 (-place).toNat)

/-- Whether `digits * 10 ^ place` rounds to `significand * 2 ^ exponent`. Below a
power of two the neighbouring doubles are twice as dense. -/
def readsBack (significand : Nat) (exponent : Int) (digits : Nat) (place : Int) : Bool :=
  let lower :=
    if significand = Nat.pow 2 52 && -1074 < exponent then 4 * significand - 1
    else 4 * significand - 2
  let upper := 4 * significand + 2
  let overLower := compareBinary digits place lower (exponent - 2)
  let underUpper := compareBinary digits place upper (exponent - 2)
  if significand % 2 = 0 then overLower != .lt && underUpper != .gt
  else overLower == .gt && underUpper == .lt

/-- The power of ten at or below a positive double. Every positive double is at
least `10 ^ (-324)`. -/
def leadingPlace (significand : Nat) (exponent : Int) : Int :=
  let shifted :=
    significand * Nat.pow 10 324 * Nat.pow 2 exponent.toNat / Nat.pow 2 (-exponent).toNat
  ((Nat.toDigits 10 shifted).length : Int) - 325

/-- The decimal of a grid that reads back as the double, if there is one. -/
def onGrid? (tie : Tie) (significand : Nat) (exponent : Int) (place : Int) : Option Nat :=
  let below :=
    significand * Nat.pow 2 exponent.toNat * Nat.pow 10 (-place).toNat
      / (Nat.pow 2 (-exponent).toNat * Nat.pow 10 place.toNat)
  let above := below + 1
  match readsBack significand exponent below place, readsBack significand exponent above place with
  | true, true =>
    match compareBinary (2 * below + 1) place (2 * significand) exponent with
    | .gt => some below
    | .lt => some above
    | .eq =>
      match tie with
      | .toEven => some (if below % 2 = 0 then below else above)
      | .away => some above
  | true, false => some below
  | false, true => some above
  | false, false => none

/-- The shortest decimal `(digits, place)`, meaning `digits * 10 ^ place`, that reads
back as a positive double. Seventeen digits always do. -/
def shortest (tie : Tie) (significand : Nat) (exponent : Int) : Nat × Int :=
  let leading := leadingPlace significand exponent
  let places : List Int := (List.range 17).map fun (dropped : Nat) => leading - (dropped : Int)
  (places.findSome? fun place =>
      (onGrid? tie significand exponent place).map fun digits => (digits, place)).getD
    (0, 0)

end MemoryTimeline.Decimal
