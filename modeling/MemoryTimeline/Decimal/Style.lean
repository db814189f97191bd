import MemoryTimeline.Decimal.Shortest

/-!
# Writing doubles

A `Style` holds the decisions that formats differ in; `Style.write` writes the
shortest digits of a double accordingly.
-/

namespace MemoryTimeline.Decimal

/-- How a format writes its doubles. -/
structure Style where
  /-- Whether a number is written without an exponent, given the power of ten of
  its first digit. -/
  positional : Int → Bool
  /-- Whether a whole number ends in `.0`. -/
  pointZero : Bool
  /-- Which of two equally near decimals is taken. -/
  tie : Tie

namespace Style

/-- Digits without an exponent; `leading` is the power of ten of the first digit. -/
def layPositional (style : Style) (digits : List Char) (leading : Int) : List Char :=
  if leading < 0 then
    ['0', '.'] ++ List.replicate (-leading - 1).toNat '0' ++ digits
  else
    let wholeLength := leading.toNat + 1
    if digits.length ≤ wholeLength then
      digits ++ List.replicate (wholeLength - digits.length) '0'
        ++ (if style.pointZero then ['.', '0'] else [])
    else digits.take wholeLength ++ '.' :: digits.drop wholeLength

/-- One digit, the others after a point, and a signed exponent. -/
def layScientific (digits : List Char) (leading : Int) : List Char :=
  let mantissa :=
    match digits with
    | first :: second :: rest => first :: '.' :: second :: rest
    | short => short
  mantissa ++ 'e' :: (if leading < 0 then '-' else '+') :: Nat.toDigits 10 leading.natAbs

/-- The text of a finite magnitude. -/
def layMagnitude (style : Style) (significand : Nat) (exponent : Int) : List Char :=
  if significand = 0 then style.layPositional ['0'] 0
  else
    let (digits, place) := shortest style.tie significand exponent
    let written := Nat.toDigits 10 digits
    let leading : Int := place + written.length - 1
    let kept := (written.reverse.dropWhile (· = '0')).reverse
    if style.positional leading then style.layPositional kept leading
    else layScientific kept leading

/-- The text of a double. -/
def write (style : Style) (word : Binary64) : String :=
  match word.value with
  | .nan => "NaN"
  | .infinite negative => if negative then "-inf" else "inf"
  | .finite negative significand exponent =>
    let magnitude := String.ofList (style.layMagnitude significand exponent)
    if negative then "-" ++ magnitude else magnitude

end Style

end MemoryTimeline.Decimal
