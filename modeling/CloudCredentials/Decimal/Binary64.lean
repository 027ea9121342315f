/-!
# Finite binary64 numbers

The magnitudes of the finite binary64 numbers, and multiplication and division on them, in exact
integer arithmetic: the exact quotient of two natural numbers is rounded once, to the nearest
magnitude and a half to the even one. An operation whose result is beyond the greatest finite
number has no result.
-/

namespace CloudCredentials.Decimal

/-- The least significand of a magnitude that has all its binary digits. -/
def leastNormal : Nat := Nat.pow 2 52

/-- The magnitude `significand * 2 ^ exponent`. The significand is below twice `leastNormal`, and it
is at least `leastNormal` unless the exponent is the least one. -/
structure Magnitude where
  significand : Nat
  exponent : Int
deriving DecidableEq, Repr, BEq

/-- A finite binary64 number. Zero has a sign. -/
structure Binary64 where
  negative : Bool
  magnitude : Magnitude
deriving DecidableEq, Repr, BEq

/-- The exponent of the least positive magnitude. -/
def leastExponent : Int := -1074

/-- The exponent of the greatest magnitude. -/
def greatestExponent : Int := 971

/-- The quotient rounded to a natural number, a half to the even neighbour. -/
def roundQuotient (numerator denominator : Nat) : Nat :=
  let quotient := numerator / denominator
  let remainder := numerator % denominator
  if denominator < 2 * remainder ∨ (2 * remainder = denominator ∧ quotient % 2 = 1) then
    quotient + 1
  else quotient

/-- The power of two as a ratio of natural numbers. -/
def powerOfTwo (exponent : Int) : Nat × Nat :=
  (Nat.pow 2 exponent.toNat, Nat.pow 2 (-exponent).toNat)

/-- The power of ten as a ratio of natural numbers. -/
def powerOfTen (exponent : Int) : Nat × Nat :=
  (Nat.pow 10 exponent.toNat, Nat.pow 10 (-exponent).toNat)

namespace Magnitude

/-- The magnitude zero. -/
def zero : Magnitude := ⟨0, leastExponent⟩

/-- The magnitude as a ratio of natural numbers. -/
def ratio (magnitude : Magnitude) : Nat × Nat :=
  let (above, below) := powerOfTwo magnitude.exponent
  (magnitude.significand * above, below)

/-- The magnitude nearest to a ratio, of two equally near ones that with an even significand. A
ratio that rounds beyond the greatest magnitude has none. -/
def ofRatio (numerator denominator : Nat) : Option Magnitude :=
  if numerator = 0 then some zero
  else
    let estimate : Int := numerator.log2 - denominator.log2 - 53
    let scaled (exponent : Int) : Nat × Nat :=
      let (above, below) := powerOfTwo exponent
      (numerator * below, denominator * above)
    let (above, below) := scaled estimate
    let exponent :=
      max leastExponent (if above < 2 * leastNormal * below then estimate else estimate + 1)
    let (above, below) := scaled exponent
    let significand := roundQuotient above below
    let result :=
      if significand = 2 * leastNormal then ⟨leastNormal, exponent + 1⟩ else ⟨significand, exponent⟩
    if greatestExponent < result.exponent then none else some result

/-- The product, rounded. -/
def multiply (left right : Magnitude) : Option Magnitude :=
  ofRatio (left.ratio.1 * right.ratio.1) (left.ratio.2 * right.ratio.2)

/-- The quotient, rounded. -/
def divide (left right : Magnitude) : Option Magnitude :=
  ofRatio (left.ratio.1 * right.ratio.2) (left.ratio.2 * right.ratio.1)

/-- The magnitude nearest to a power of ten. -/
def tenTo (places : Nat) : Option Magnitude :=
  ofRatio (Nat.pow 10 places) 1

/-- The greatest power of ten that a magnitude is nearest to. -/
def greatestTen : Nat := 308

/-- Divide by a power of ten, in steps of at most the greatest one. Every step rounds, and zero
stays zero. -/
def scaleDown (magnitude : Magnitude) (places : Nat) : Option Magnitude :=
  if places ≤ greatestTen then (tenTo places).bind magnitude.divide
  else if magnitude.significand = 0 then some magnitude
  else
    ((tenTo greatestTen).bind magnitude.divide).bind fun quotient =>
      scaleDown quotient (places - greatestTen)
termination_by places
decreasing_by simp [greatestTen] at *; omega

/-- Multiply by a power of ten, positive or negative. There is no result beyond the greatest
magnitude. -/
def scale (magnitude : Magnitude) (places : Int) : Option Magnitude :=
  if places < 0 then magnitude.scaleDown (-places).toNat
  else if places ≤ greatestTen then (tenTo places.toNat).bind magnitude.multiply
  else if magnitude.significand = 0 then some magnitude
  else none

end Magnitude

end CloudCredentials.Decimal
