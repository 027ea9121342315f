import CloudCredentials.Text.Blank
import CloudCredentials.Text.Lowercase
import CloudCredentials.Text.Shown
import CloudCredentials.Url.Percent
import CloudCredentials.Url.Punycode

/-!
# Hosts

The host of an address is a domain name, a number of thirty-two bits or one of eight pieces of
sixteen bits. A domain name is written in lower case, with labels beyond ASCII in Punycode.
-/

namespace CloudCredentials.Url

/-- The host of an address. -/
inductive Host where
  | name (text : String)
  | address4 (value : Nat)
  | address6 (pieces : List Nat)
deriving DecidableEq, Repr

/-- A number in base eight, ten or sixteen, as its beginning tells. A number without digits is
zero. -/
def hostNumber? (text : List Char) : Option Nat :=
  let digits (base : Nat) (digits : List Char) : Option Nat :=
    digits.foldlM (fun value character => do
      let digit ← hexValue? (UInt8.ofNat character.toNat)
      if character.toNat < 128 ∧ digit < base then some (value * base + digit) else none) 0
  match text with
  | '0' :: 'x' :: rest | '0' :: 'X' :: rest => digits 16 rest
  | '0' :: second :: rest => digits 8 (second :: rest)
  | text => digits 10 text

/-- The parts of a numeric host, without an empty last part. -/
def hostParts (text : List Char) : List (List Char) :=
  let parts := Text.separate (· == '.') text
  if 1 < parts.length && parts.getLast? == some [] then parts.dropLast else parts

/-- The last part of a name is a number, so the host has to be one of thirty-two bits. -/
def endsInNumber (text : List Char) : Bool :=
  match (hostParts text).getLast? with
  | none => false
  | some part =>
      (!part.isEmpty && part.all Char.isDigit) ||
        match part with
        | '0' :: second :: _ => (second == 'x' || second == 'X') && (hostNumber? part).isSome
        | _ => false

/-- The host of thirty-two bits: every part but the last is a byte, and the last part fills the
rest. -/
def address4? (text : List Char) : Option Nat := do
  let parts := hostParts text
  if 4 < parts.length || parts.any (·.isEmpty) then none
  else
    let numbers ← parts.mapM hostNumber?
    let last ← numbers.getLast?
    let bytes := numbers.dropLast
    let room := 4 - bytes.length
    if bytes.any (255 < ·) || Nat.pow 256 room ≤ last then none
    else some (bytes.foldl (fun value byte => value * 256 + byte) 0 * Nat.pow 256 room + last)

/-- A host of thirty-two bits as four bytes. -/
def address4Text (value : Nat) : List Char :=
  Text.join ['.'] ([24, 16, 8, 0].map fun shift => Nat.toDigits 10 (value / Nat.pow 2 shift % 256))

/-- A piece of one to four hexadecimal digits. -/
def piece? (text : List Char) : Option Nat :=
  if text.isEmpty || 4 < text.length then none
  else
    text.foldlM (fun value character => do
      let digit ← hexValue? (UInt8.ofNat character.toNat)
      if character.toNat < 128 then some (value * 16 + digit) else none) 0

/-- Four bytes in decimal, without superfluous zeros, as two pieces. -/
def dottedPieces? (text : List Char) : Option (List Nat) := do
  let bytes ← (Text.separate (· == '.') text).mapM fun part => do
    let value ← if part.all Char.isDigit && !part.isEmpty then hostNumber? part else none
    if 255 < value || (1 < part.length && part.head? == some '0') then none else some value
  match bytes with
  | [first, second, third, fourth] => some [first * 256 + second, third * 256 + fourth]
  | _ => none

/-- The pieces of a run of pieces with colons between them. The last two may be written as four
bytes if the run ends the host. -/
def pieces? (isLast : Bool) (text : List Char) : Option (List Nat) :=
  if text.isEmpty then some []
  else
    let parts := Text.separate (· == ':') text
    let dotted := isLast && (parts.getLast?.getD []).contains '.'
    if dotted then do
      let pieces ← parts.dropLast.mapM piece?
      return pieces ++ (← dottedPieces? (parts.getLast?.getD []))
    else parts.mapM piece?

/-- The host of eight pieces. Two colons stand for as many zeros as are missing. -/
def address6? (text : List Char) : Option (List Nat) :=
  match Text.breakAt? "::".toList text with
  | none => do
      let pieces ← pieces? true text
      if pieces.length = 8 then some pieces else none
  | some (before, behind) => do
      let before ← pieces? false before
      let behind ← pieces? true behind
      let present := before.length + behind.length
      if 7 < present then none else some (before ++ List.replicate (8 - present) 0 ++ behind)

/-- The length of the run of zeros at the start. -/
def leadingZeros (pieces : List Nat) : Nat :=
  (pieces.takeWhile (· == 0)).length

/-- The place and the length of the first longest run of zeros. -/
def longestZeros : (place : Nat) → List Nat → Nat × Nat
  | _, [] => (0, 0)
  | place, piece :: rest =>
      let here := leadingZeros (piece :: rest)
      let (found, length) := longestZeros (place + 1) rest
      if length ≤ here then (place, here) else (found, length)

/-- A host of eight pieces. Two colons stand for the first longest run of two or more zeros. -/
def address6Text (pieces : List Nat) : List Char :=
  let write (pieces : List Nat) : List Char := Text.join [':'] (pieces.map (Nat.toDigits 16))
  let (place, length) := longestZeros 0 pieces
  if length < 2 then '[' :: write pieces ++ [']']
  else
    '[' :: write (pieces.take place) ++ "::".toList ++ write (pieces.drop (place + length)) ++ [']']

/-- The characters that may not stand in a domain name. -/
def isForbidden (character : Char) : Bool :=
  isControlOr " #/:<>?@[\\]^|%" character

/-- The characters that a domain name is read without. -/
def isIgnored (character : Char) : Bool :=
  [0xAD, 0x34F, 0x180B, 0x180C, 0x180D, 0x180F, 0x200B, 0x2060, 0xFEFF].contains character.toNat ||
    (0xFE00 ≤ character.toNat && character.toNat ≤ 0xFE0F)

/-- The characters as which a character of a domain name is read: letters in lower case, wide forms
as their narrow ones, and every kind of full stop as a point. -/
def domainChar (character : Char) : List Char :=
  let code := character.toNat
  if isIgnored character then []
  else if code = 0x3002 ∨ code = 0xFF61 then ['.']
  else if 0xFF01 ≤ code ∧ code ≤ 0xFF5E then Text.lowerChar (Char.ofNat (code - 0xFEE0))
  else Text.lowerChar character

/-- The label may stand in a domain name beyond ASCII. It begins with a visible character and has
no blanks. -/
def isLabel (label : List Char) : Bool :=
  (label.head?.all Text.isShown) &&
    label.all fun character => !Text.isBlank character && character != Bytes.replacement

/-- The mark of a label in Punycode. -/
def punycodeMark : List Char := "xn--".toList

/-- A label as it is written. A label that is marked as Punycode has to be the Punycode of a label
beyond ASCII. -/
def domainLabel? (label : List Char) : Option (List Char) :=
  match Text.after? punycodeMark label with
  | some encoded => do
      let decoded ← Punycode.decode encoded
      if isLabel decoded && decoded.any (128 ≤ ·.toNat) && Punycode.encode decoded == encoded then
        some label
      else none
  | none =>
      if label.all (·.toNat < 128) then some label
      else if isLabel label then some (punycodeMark ++ Punycode.encode label)
      else none

/-- The domain name that a text stands for. -/
def domain? (text : List Char) : Option (List Char) := do
  let decoded := Bytes.lossyChars none (percentDecode (text.flatMap Bytes.ofChar))
  let labels ← (Text.separate (· == '.') (decoded.flatMap domainChar)).mapM domainLabel?
  let name := Text.join ['.'] labels
  if name.any isForbidden then none else some name

namespace Host

/-- The host in brackets. -/
def bracketed? (text : List Char) : Option Host :=
  match text with
  | '[' :: rest =>
      if rest.getLast? == some ']' then (address6? rest.dropLast).map .address6 else none
  | _ => none

/-- The host of an address with a special scheme. It is not empty. -/
def special? (text : List Char) : Option Host :=
  if text.head? == some '[' then bracketed? text
  else do
    let name ← domain? text
    if name.isEmpty then none
    else if endsInNumber name then (address4? name).map .address4
    else some (.name (String.ofList name))

/-- The host of an address with another scheme. It is kept as it is written. -/
def plain? (text : List Char) : Option Host :=
  if text.head? == some '[' then bracketed? text
  else if text.any fun character => character != '%' && isForbidden character &&
      !(isControl character && character.toNat != 0 && character.toNat != 9 &&
        character.toNat != 10 && character.toNat != 13) then none
  else some (.name (String.ofList (percentEncode isControl text)))

/-- The text of a host. -/
def text : Host → List Char
  | .name text => text.toList
  | .address4 value => address4Text value
  | .address6 pieces => address6Text pieces

end Host

end CloudCredentials.Url
