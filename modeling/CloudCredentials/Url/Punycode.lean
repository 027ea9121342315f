/-!
# Punycode

The writing of a label with characters beyond ASCII in the characters of ASCII: the ASCII characters
come first, and behind a hyphen stand, as numbers of variable length, the places at which the other
characters go in, in the order of their code points.
-/

namespace CloudCredentials.Url.Punycode

/-- The digit for a number below thirty-six. -/
def digit (value : Nat) : Char :=
  Char.ofNat (if value < 26 then 97 + value else 22 + value)

/-- The number that a digit stands for. -/
def value? (character : Char) : Option Nat :=
  let code := character.toNat
  if 97 ≤ code && code < 123 then some (code - 97)
  else if 65 ≤ code && code < 91 then some (code - 65)
  else if 48 ≤ code && code < 58 then some (code - 22)
  else none

/-- From which digit on a number ends, at a position counted in steps of thirty-six. -/
def threshold (position bias : Nat) : Nat :=
  if position ≤ bias then 1 else min 26 (position - bias)

/-- Divide until the number is small, and count the divisions in steps of thirty-six. -/
def shrink (value steps : Nat) : Nat × Nat :=
  if 455 < value then shrink (value / 35) (steps + 36) else (value, steps)
termination_by value
decreasing_by omega

/-- The bias after a number has been written among so many characters. -/
def adapt (distance count : Nat) (isFirst : Bool) : Nat :=
  let scaled := if isFirst then distance / 700 else distance / 2
  let (value, steps) := shrink (scaled + scaled / count) 0
  steps + 36 * value / (value + 38)

theorem one_le_threshold (position bias : Nat) : 1 ≤ threshold position bias := by
  rw [threshold]
  split <;> omega

theorem threshold_le (position bias : Nat) : threshold position bias ≤ 26 := by
  rw [threshold]
  split <;> omega

/-- The digits of a number. -/
def writeNumber (bias position number : Nat) : List Char :=
  let limit := threshold position bias
  if number < limit then [digit number]
  else
    digit (limit + (number - limit) % (36 - limit)) ::
      writeNumber bias (position + 36) ((number - limit) / (36 - limit))
termination_by number
decreasing_by
  have hleast := one_le_threshold position bias
  have hgreatest := threshold_le position bias
  have hdiv : (number - threshold position bias) / (36 - threshold position bias) ≤
      number - threshold position bias := Nat.div_le_self _ _
  omega

/-- What is known while characters are written: the text so far, the distance to the next place,
the bias, and how many characters have been written. -/
structure Progress where
  written : List Char
  distance : Nat
  bias : Nat
  count : Nat

/-- Pass a character of the label while the characters with one code point are written. -/
def Progress.pass (basic code : Nat) (progress : Progress) (character : Char) : Progress :=
  if character.toNat < code then { progress with distance := progress.distance + 1 }
  else if character.toNat = code then
    ⟨progress.written ++ writeNumber progress.bias 36 progress.distance, 0,
      adapt progress.distance (progress.count + 1) (progress.count == basic), progress.count + 1⟩
  else progress

/-- Write the characters with these code points, which come after `next`. -/
def Progress.writeCodes (label : List Char) (basic : Nat) : Progress → Nat → List Nat → Progress
  | progress, _, [] => progress
  | progress, next, code :: codes =>
      let jumped :=
        { progress with distance := progress.distance + (code - next) * (progress.count + 1) }
      let passed := label.foldl (pass basic code) jumped
      writeCodes label basic { passed with distance := passed.distance + 1 } (code + 1) codes

/-- The written form of a label. -/
def encode (label : List Char) : List Char :=
  let basic := label.filter (·.toNat < 128)
  let codes := ((label.map Char.toNat).filter (128 ≤ ·)).mergeSort.eraseDups
  let start := if basic.isEmpty then [] else basic ++ ['-']
  ((⟨[], 0, 72, basic.length⟩ : Progress).writeCodes label basic.length 128 codes).written
    |> (start ++ ·)

/-- Read a number: the number and the rest of the input. -/
def readNumber (bias : Nat) : (position weight number : Nat) → List Char → Option (Nat × List Char)
  | _, _, _, [] => none
  | position, weight, number, character :: rest => do
      let value ← value? character
      let limit := threshold position bias
      let number := number + value * weight
      if value < limit then some (number, rest)
      else readNumber bias (position + 36) (weight * (36 - limit)) number rest

/-- Put the characters whose places are still to be read into the label, at most so many of them. -/
def insertAll : (fuel code place bias : Nat) → (label input : List Char) → Option (List Char)
  | _, _, _, _, label, [] => some label
  | 0, _, _, _, _, _ => none
  | fuel + 1, code, place, bias, label, input => do
      let (distance, rest) ← readNumber bias 36 1 0 input
      let count := label.length + 1
      let target := place + distance
      let next := code + target / count
      let found := target % count
      if next < 0x110000 ∧ ¬(0xD800 ≤ next ∧ next < 0xE000) then
        insertAll fuel next (found + 1) (adapt distance count (place == 0))
          (label.take found ++ Char.ofNat next :: label.drop found) rest
      else none

/-- The label that has this written form. -/
def decode (text : List Char) : Option (List Char) :=
  let backwards := text.reverse
  let extra := (backwards.takeWhile (· != '-')).reverse
  let basic := (backwards.drop (extra.length + 1)).reverse
  if basic.all (·.toNat < 128) then insertAll extra.length 128 0 72 basic extra else none

end CloudCredentials.Url.Punycode
