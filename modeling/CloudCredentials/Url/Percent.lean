import CloudCredentials.Text.Bytes
import CloudCredentials.Text.Separated

/-!
# Percent encoding

A byte is written as a percent sign and two hexadecimal digits where its character may not stand
for itself. Which characters those are depends on the place. Forms have a writing of their own, in
which a plus sign stands for a space.
-/

namespace CloudCredentials.Url

/-- A byte as a percent sign and two digits. -/
def percentByte (byte : UInt8) : List Char :=
  let digit (value : Nat) : Char := Char.ofNat (if value < 10 then 48 + value else 55 + value)
  ['%', digit (byte.toNat / 16), digit (byte.toNat % 16)]

/-- The characters with those of ASCII that are in the set, and all that are not of ASCII, written
as percent signs and digits. -/
def percentEncode (isEncoded : Char → Bool) (text : List Char) : List Char :=
  text.flatMap fun character =>
    if character.toNat < 0x80 && !isEncoded character then [character]
    else (Bytes.ofChar character).flatMap percentByte

/-- The control characters of ASCII. -/
def isControl (character : Char) : Bool :=
  character.toNat < 0x20 || character.toNat == 0x7F

/-- The characters of a list, and the control characters. -/
def isControlOr (others : String) (character : Char) : Bool :=
  isControl character || others.toList.contains character

/-- What is encoded in a fragment. -/
def inFragment : Char → Bool := isControlOr " \"<>`"

/-- What is encoded in a path. -/
def inPath : Char → Bool := isControlOr " \"<>`#?\x7b\x7d"

/-- What is encoded in the name of a user or a password. -/
def inUserinfo : Char → Bool := isControlOr " \"<>`#?\x7b\x7d/:;=@[\\]^|"

/-- What is encoded in a query. -/
def inQuery : Char → Bool := isControlOr " \"#<>"

/-- What is encoded in a query of a special scheme. -/
def inSpecialQuery : Char → Bool := isControlOr " \"#<>'"

/-- The value of a hexadecimal digit. -/
def hexValue? (byte : UInt8) : Option Nat :=
  let code := byte.toNat
  if 48 ≤ code && code < 58 then some (code - 48)
  else if 65 ≤ code && code < 71 then some (code - 55)
  else if 97 ≤ code && code < 103 then some (code - 87)
  else none

/-- The byte that a percent sign and these two bytes stand for. -/
def encodedByte? (high low : UInt8) : Option UInt8 := do
  return UInt8.ofNat ((← hexValue? high) * 16 + (← hexValue? low))

/-- The bytes with every complete escape replaced by its byte. -/
def percentDecode : Bytes → Bytes
  | byte :: high :: low :: rest =>
      if byte == 0x25 then
        match encodedByte? high low with
        | some decoded => decoded :: percentDecode rest
        | none => byte :: percentDecode (high :: low :: rest)
      else byte :: percentDecode (high :: low :: rest)
  | bytes => bytes

/-- The byte stands for itself in a form. -/
def isPlainInForm (byte : UInt8) : Bool :=
  let code := byte.toNat
  (48 ≤ code && code < 58) || (65 ≤ code && code < 91) || (97 ≤ code && code < 123) ||
    code == 42 || code == 45 || code == 46 || code == 95

/-- A byte in a form. -/
def formByte (byte : UInt8) : List Char :=
  if byte == 0x20 then ['+']
  else if isPlainInForm byte then [Char.ofNat byte.toNat]
  else percentByte byte

/-- A text in a form. -/
def formEncode (text : String) : List Char :=
  (Bytes.ofText text).flatMap formByte

/-- The fields of a form, with an equals sign between name and value. -/
def formFields (fields : List (String × String)) : List Char :=
  Text.join ['&'] (fields.map fun (name, value) => formEncode name ++ '=' :: formEncode value)

/-- The bytes of a text that has been written for a form. -/
def formDecode (text : List Char) : Bytes :=
  percentDecode
    ((text.map fun character => if character = '+' then ' ' else character).flatMap Bytes.ofChar)

end CloudCredentials.Url
