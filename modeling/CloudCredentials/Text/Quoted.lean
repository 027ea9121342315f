import CloudCredentials.Text.Shown

/-!
# Quoted texts

The quoted form in which diagnostics show a text: between double quotes, with short escapes for
the usual control characters and the code point in hexadecimal for a character that has no visible
form of its own.
-/

namespace CloudCredentials.Text

/-- The code point in hexadecimal between braces, after a backslash and the letter u. -/
def codePointEscape (character : Char) : List Char :=
  ['\\', 'u', Char.ofNat 123] ++ Nat.toDigits 16 character.toNat ++ [Char.ofNat 125]

/-- A character of a quoted text. -/
def quotedChar (character : Char) : List Char :=
  if character = '"' then ['\\', '"']
  else if character = '\\' then ['\\', '\\']
  else if character = '\n' then ['\\', 'n']
  else if character = '\r' then ['\\', 'r']
  else if character = '\t' then ['\\', 't']
  else if character.toNat = 0 then ['\\', '0']
  else if isShown character then [character]
  else codePointEscape character

/-- The text between quotes, escaped. -/
def quoted (text : String) : String :=
  String.ofList ('"' :: text.toList.flatMap quotedChar ++ ['"'])

/-- The quoted form of a text that may be absent. -/
def quotedOption : Option String → String
  | none => "None"
  | some text => "Some(" ++ quoted text ++ ")"

end CloudCredentials.Text
