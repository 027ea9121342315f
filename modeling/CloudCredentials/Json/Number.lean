import CloudCredentials.Decimal.Shortest

/-!
# JSON numbers

A number without fraction and exponent that fits 64 bits stays an integer; every other number, and
minus zero, is a binary64 number. `Numeral.number?` gives a written numeral its value, and
`Number.write` writes a number back.
-/

namespace CloudCredentials.Json

open CloudCredentials.Decimal

/-- A number of a document. -/
inductive Number where
  | integer (value : Int)
  | binary (value : Binary64)
deriving DecidableEq, Repr, BEq

/-- The layout of binary64 numbers: no exponent part from `0.00001` up to sixteen digits before the
point, and a sign on every exponent. -/
def Number.layout : Layout := ⟨-5, 15, 'e', true⟩

/-- The text of an integer. -/
def writeInteger (value : Int) : List Char :=
  (if value < 0 then ['-'] else []) ++ Nat.toDigits 10 value.natAbs

/-- The text of a number. -/
def Number.write : Number → List Char
  | .integer value => writeInteger value
  | .binary value => Number.layout.writeNumber value

/-- The exponent part of a numeral. -/
structure ExponentPart where
  negative : Bool
  digits : List Nat
deriving DecidableEq, Repr

/-- A number as it is written: its sign, the digits before and after the point, and the exponent
part. -/
structure Numeral where
  negative : Bool
  whole : List Nat
  fraction : Option (List Nat)
  exponentPart : Option ExponentPart
deriving DecidableEq, Repr

/-- The greatest integer of 64 bits without a sign. -/
def greatestWord : Nat := Nat.pow 2 64 - 1

/-- The greatest exponent that an exponent part can state. -/
def greatestStatedExponent : Nat := Nat.pow 2 31 - 1

/-- Append digits to a number as long as it fits a word. The first digit that does not fit ends
the number; the second component counts the digits from there on. -/
def collectDigits (value : Nat) : List Nat → Nat × Nat
  | [] => (value, 0)
  | digit :: rest =>
      if greatestWord < value * 10 + digit then (value, rest.length + 1)
      else collectDigits (value * 10 + digit) rest

/-- The number that digits denote. -/
def ofDigits (digits : List Nat) : Nat :=
  digits.foldl (fun value digit => value * 10 + digit) 0

namespace Numeral

/-- The binary64 number with this sign and the magnitude `significand * 10 ^ exponent`. -/
def scaled (negative : Bool) (significand : Nat) (exponent : Int) : Option Number := do
  let magnitude ← Magnitude.ofRatio significand 1
  let magnitude ← magnitude.scale exponent
  return .binary ⟨negative, magnitude⟩

/-- The number with this sign, this significand, and this exponent before the exponent part is
applied. An exponent part too great to be stated makes zero of a zero or negative power, and no
number of the rest. -/
def applyExponent (negative : Bool) (significand : Nat) (exponent : Int) (part : ExponentPart) :
    Option Number :=
  let stated := ofDigits part.digits
  if greatestStatedExponent < stated then
    if significand = 0 ∨ part.negative then some (.binary ⟨negative, .zero⟩) else none
  else scaled negative significand (if part.negative then exponent - stated else exponent + stated)

/-- The number that a numeral denotes. There is none beyond the greatest binary64 number. -/
def number? (numeral : Numeral) : Option Number :=
  let (whole, unread) := collectDigits 0 numeral.whole
  match numeral.fraction with
  | some fraction =>
      let (significand, unreadFraction) := collectDigits whole fraction
      let exponent : Int := unread - (fraction.length - unreadFraction : Nat)
      match numeral.exponentPart with
      | some part => applyExponent numeral.negative significand exponent part
      | none => scaled numeral.negative significand exponent
  | none =>
      match numeral.exponentPart with
      | some part => applyExponent numeral.negative whole unread part
      | none =>
          if 0 < unread then scaled numeral.negative whole unread
          else if numeral.negative = false then some (.integer whole)
          else if 0 < whole ∧ whole ≤ Nat.pow 2 63 then some (.integer (-whole))
          else scaled true whole 0

end Numeral

end CloudCredentials.Json
