import CloudCredentials.Text.Bytes
import CloudCredentials.Text.Separated
import CloudCredentials.Json.Number

/-!
# The tokens of a JSON text

A JSON text is read as bytes, so that a text that is not UTF-8 can be judged too. Strings keep
their escapes and numbers their digits: whether a string is text and a number is in range is asked
only where its value is wanted.
-/

namespace CloudCredentials.Json

/-- A part of a written string: a byte that stands for itself or for which a one-letter escape
stands, or a UTF-16 code unit written in hexadecimal. -/
inductive Piece where
  | byte (value : UInt8)
  | unit (code : Nat)
deriving DecidableEq, Repr

/-- A token. -/
inductive Token where
  | openArray
  | closeArray
  | openObject
  | closeObject
  | comma
  | colon
  | null
  | boolean (value : Bool)
  | number (numeral : Numeral)
  | string (pieces : List Piece)
deriving DecidableEq, Repr

/-- The byte is one of the four blanks of JSON. -/
def isBlankByte (byte : UInt8) : Bool :=
  byte == 0x20 || byte == 0x09 || byte == 0x0A || byte == 0x0D

/-- The value of a decimal digit. -/
def digit? (byte : UInt8) : Option Nat :=
  if 0x30 ≤ byte && byte ≤ 0x39 then some (byte.toNat - 0x30) else none

/-- The value of a hexadecimal digit, in either case. -/
def hexDigit? (byte : UInt8) : Option Nat :=
  if 0x30 ≤ byte && byte ≤ 0x39 then some (byte.toNat - 0x30)
  else if 0x41 ≤ byte && byte ≤ 0x46 then some (byte.toNat - 0x37)
  else if 0x61 ≤ byte && byte ≤ 0x66 then some (byte.toNat - 0x57)
  else none

/-- The byte that a one-letter escape stands for. -/
def shortEscape? (byte : UInt8) : Option UInt8 :=
  if byte == 0x22 || byte == 0x5C || byte == 0x2F then some byte
  else if byte == 0x62 then some 0x08
  else if byte == 0x66 then some 0x0C
  else if byte == 0x6E then some 0x0A
  else if byte == 0x72 then some 0x0D
  else if byte == 0x74 then some 0x09
  else none

/-- The code unit that four hexadecimal digits denote. -/
def codeUnit? (first second third fourth : UInt8) : Option Nat := do
  let first ← hexDigit? first
  let second ← hexDigit? second
  let third ← hexDigit? third
  let fourth ← hexDigit? fourth
  return ((first * 16 + second) * 16 + third) * 16 + fourth

/-- Put a piece in front of a string that has been read. -/
def Piece.before (piece : Piece) (read : List Piece × Bytes) : List Piece × Bytes :=
  (piece :: read.1, read.2)

/-- Read a string after its opening quote, up to and with its closing quote. -/
def takeString : Bytes → Option (List Piece × Bytes)
  | [] => none
  | byte :: rest =>
      if byte == 0x22 then some ([], rest)
      else if byte == 0x5C then
        match rest with
        | [] => none
        | letter :: rest =>
            if letter == 0x75 then
              match rest with
              | first :: second :: third :: fourth :: rest => do
                  let code ← codeUnit? first second third fourth
                  return (Piece.unit code).before (← takeString rest)
              | _ => none
            else do
              let value ← shortEscape? letter
              return (Piece.byte value).before (← takeString rest)
      else if byte < 0x20 then none
      else do return (Piece.byte byte).before (← takeString rest)

/-- The digits at the start of the input. -/
def takeDigits : Bytes → List Nat × Bytes
  | [] => ([], [])
  | byte :: rest =>
      match digit? byte with
      | some digit =>
          let (digits, rest) := takeDigits rest
          (digit :: digits, rest)
      | none => ([], byte :: rest)

/-- One or more digits. -/
def takeSomeDigits (input : Bytes) : Option (List Nat × Bytes) :=
  match takeDigits input with
  | ([], _) => none
  | (digits, rest) => some (digits, rest)

/-- The digits before the point. A zero stands alone. -/
def takeWhole : Bytes → Option (List Nat × Bytes)
  | [] => none
  | byte :: rest => if byte == 0x30 then some ([0], rest) else takeSomeDigits (byte :: rest)

/-- The digits after the point, if there is a point. -/
def takeFraction : Bytes → Option (Option (List Nat) × Bytes)
  | [] => some (none, [])
  | byte :: rest =>
      if byte == 0x2E then (takeSomeDigits rest).map fun (digits, rest) => (some digits, rest)
      else some (none, byte :: rest)

/-- The sign of an exponent, if there is one. -/
def takeExponentSign : Bytes → Bool × Bytes
  | [] => (false, [])
  | byte :: rest =>
      if byte == 0x2D then (true, rest)
      else if byte == 0x2B then (false, rest)
      else (false, byte :: rest)

/-- The exponent part, if there is one. -/
def takeExponent : Bytes → Option (Option ExponentPart × Bytes)
  | [] => some (none, [])
  | byte :: rest =>
      if byte == 0x65 || byte == 0x45 then
        let (negative, rest) := takeExponentSign rest
        (takeSomeDigits rest).map fun (digits, rest) => (some ⟨negative, digits⟩, rest)
      else some (none, byte :: rest)

/-- A numeral after its sign. -/
def takeNumeral (negative : Bool) (input : Bytes) : Option (Token × Bytes) := do
  let (whole, rest) ← takeWhole input
  let (fraction, rest) ← takeFraction rest
  let (exponentPart, rest) ← takeExponent rest
  return (.number ⟨negative, whole, fraction, exponentPart⟩, rest)

/-- The token that starts with the byte, and the input after the token. -/
def takeToken (byte : UInt8) (rest : Bytes) : Option (Token × Bytes) :=
  if byte == 0x5B then some (.openArray, rest)
  else if byte == 0x5D then some (.closeArray, rest)
  else if byte == 0x7B then some (.openObject, rest)
  else if byte == 0x7D then some (.closeObject, rest)
  else if byte == 0x2C then some (.comma, rest)
  else if byte == 0x3A then some (.colon, rest)
  else if byte == 0x22 then (takeString rest).map fun (pieces, rest) => (.string pieces, rest)
  else if byte == 0x6E then (Text.after? [0x75, 0x6C, 0x6C] rest).map (.null, ·)
  else if byte == 0x74 then (Text.after? [0x72, 0x75, 0x65] rest).map (.boolean true, ·)
  else if byte == 0x66 then (Text.after? [0x61, 0x6C, 0x73, 0x65] rest).map (.boolean false, ·)
  else if byte == 0x2D then takeNumeral true rest
  else takeNumeral false (byte :: rest)

/-- The tokens of at most this many bytes and blanks. -/
def tokensWithin : Nat → Bytes → Option (List Token)
  | _, [] => some []
  | 0, _ :: _ => none
  | fuel + 1, byte :: rest =>
      if isBlankByte byte then tokensWithin fuel rest
      else do
        let (token, rest) ← takeToken byte rest
        return token :: (← tokensWithin fuel rest)

/-- The tokens of a text. Every token takes at least a byte, so the length of the text bounds their
number. -/
def tokens (input : Bytes) : Option (List Token) :=
  tokensWithin input.length input

end CloudCredentials.Json
