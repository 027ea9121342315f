import CloudCredentials.Decimal.Binary64

/-!
# The shortest decimal that reads back

Among the decimals that round to a magnitude, the one with the fewest digits, and of several with
that many digits the nearest one. The search tries one digit, two digits and so on up to
seventeen. On each grid only the two neighbours of the magnitude need a test: if any point of the
grid rounds to the magnitude, one of them does.
-/

namespace CloudCredentials.Decimal

/-- The decimal `coefficient * 10 ^ exponent`. -/
structure Scaled where
  coefficient : Nat
  exponent : Int
deriving DecidableEq, Repr

/-- The number of decimal digits. -/
def digitCount (value : Nat) : Nat :=
  (Nat.toDigits 10 value).length

/-- The exponent of the greatest power of ten that is at most the positive ratio. -/
def leadingExponent (numerator denominator : Nat) : Int :=
  if denominator ≤ numerator then (digitCount (numerator / denominator) : Int) - 1
  else -(digitCount ((denominator - 1) / numerator) : Int)

/-- The reals that round to a magnitude lie between `low` and `high`, counted like the magnitude
itself, `value`, in quarters of its last binary place. The ends belong to them if `closed`. -/
structure Neighbourhood where
  low : Nat
  value : Nat
  high : Nat
  closed : Bool

/-- The neighbourhood of a positive magnitude. The magnitudes below a power of two are twice as
dense. -/
def Magnitude.neighbourhood (magnitude : Magnitude) : Neighbourhood :=
  let quarters := 4 * magnitude.significand
  let dense := magnitude.significand = leastNormal ∧ leastExponent < magnitude.exponent
  ⟨if dense then quarters - 1 else quarters - 2, quarters, quarters + 2,
    magnitude.significand % 2 == 0⟩

/-- The better neighbour of the magnitude on the grid of multiples of the power of ten, if one of
them rounds to the magnitude. -/
def Magnitude.onGrid (magnitude : Magnitude) (exponent : Int) : Option Scaled :=
  let near := magnitude.neighbourhood
  let (twosAbove, twosBelow) := powerOfTwo (magnitude.exponent - 2)
  let (tensAbove, tensBelow) := powerOfTen exponent
  -- A point of the grid and a number of quarters are compared after both are multiplied out.
  let point := tensAbove * twosBelow
  let quarter := twosAbove * tensBelow
  let floor := near.value * quarter / point
  let inside (coefficient : Nat) : Bool :=
    let position := coefficient * point
    if near.closed then near.low * quarter ≤ position && position ≤ near.high * quarter
    else near.low * quarter < position && position < near.high * quarter
  let below := 2 * (near.value * quarter)
  let middle := (2 * floor + 1) * point
  let floorNearer : Bool := below < middle || (below == middle && floor % 2 == 0)
  match inside floor, inside (floor + 1) with
  | true, true => some ⟨if floorNearer then floor else floor + 1, exponent⟩
  | true, false => some ⟨floor, exponent⟩
  | false, true => some ⟨floor + 1, exponent⟩
  | false, false => none

/-- The shortest decimal that rounds to the positive magnitude. -/
def Magnitude.shortest (magnitude : Magnitude) : Scaled :=
  let leading := leadingExponent magnitude.ratio.1 magnitude.ratio.2
  ((List.range 17).findSome? fun (more : Nat) => magnitude.onGrid (leading - more)).getD ⟨0, 0⟩

/-- How a number is laid out: the exponents of the first digit for which it is written without an
exponent part, and the mark that starts the exponent part. -/
structure Layout where
  leastPositional : Int
  greatestPositional : Int
  exponentMark : Char
  plusSign : Bool

/-- The digits of the coefficient without the zeros at its end, and the exponent of the first. -/
def Scaled.digits (decimal : Scaled) : List Char × Int :=
  let all := Nat.toDigits 10 decimal.coefficient
  ((all.reverse.dropWhile (· == '0')).reverse, decimal.exponent + all.length - 1)

/-- A decimal in a layout. -/
def Layout.write (layout : Layout) (decimal : Scaled) : List Char :=
  let (digits, leading) := decimal.digits
  if leading < layout.leastPositional ∨ layout.greatestPositional < leading then
    let sign := if leading < 0 then ['-'] else if layout.plusSign then ['+'] else []
    digits.take 1 ++ (if digits.length ≤ 1 then [] else '.' :: digits.drop 1) ++
      layout.exponentMark :: sign ++ Nat.toDigits 10 leading.natAbs
  else if leading < 0 then
    '0' :: '.' :: List.replicate (-leading - 1).toNat '0' ++ digits
  else
    let whole := leading.toNat + 1
    let fraction := digits.drop whole
    digits.take whole ++ List.replicate (whole - digits.length) '0' ++
      '.' :: (if fraction.isEmpty then ['0'] else fraction)

/-- A number in a layout, with the fewest digits that read back. -/
def Layout.writeNumber (layout : Layout) (number : Binary64) : List Char :=
  (if number.negative then ['-'] else []) ++
    (if number.magnitude.significand = 0 then ['0', '.', '0']
    else layout.write number.magnitude.shortest)

end CloudCredentials.Decimal
