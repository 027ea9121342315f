import CloudCredentials.Encoding.Base64
import CloudCredentials.Text.Blank
import CloudCredentials.Text.Separated

/-!
# PEM

A block of base64 text between a line that begins a tag and a line that ends it. Only the first
block of a text counts. Headers may stand in front of the data, set off from it by an empty line,
and blanks in the data do not count.
-/

namespace CloudCredentials.Encoding

/-- A block: its tag and the bytes that it holds. -/
structure Pem where
  tag : String
  contents : Bytes

namespace Pem

/-- The hyphens at either end of a boundary. -/
def hyphens : List Char := "-----".toList

/-- The characters that may stand between the boundary and the data. -/
def isGap (character : Char) : Bool :=
  character == ' ' || character == '\t' || character == '\n' || character == '\r'

/-- The headers and the data of the text between the boundaries. -/
def headersAndData (body : List Char) : List Char × List Char :=
  match Text.breakAt? ['\n', '\n'] body with
  | some parts => parts
  | none => (Text.breakAt? ['\r', '\n', '\r', '\n'] body).getD ([], body)

/-- Every line of the headers has a colon. -/
def areHeaders (headers : List Char) : Bool :=
  headers.isEmpty || (Text.separate (· == '\n') headers).all (·.contains ':')

/-- The first block of a text. -/
def read (text : String) : Option Pem := do
  let (_, rest) ← Text.breakAt? (hyphens ++ "BEGIN ".toList) text.toList
  let (tag, rest) ← Text.breakAt? hyphens rest
  let (body, rest) ← Text.breakAt? (hyphens ++ "END ".toList) (rest.dropWhile isGap)
  let (closingTag, _) ← Text.breakAt? hyphens rest
  let (headers, data) := headersAndData body
  if tag.isEmpty || tag != closingTag || !areHeaders headers then none
  else do
    let contents ← Base64.standard.decode (data.filter fun character => !Text.isBlank character)
    return ⟨String.ofList tag, contents⟩

end Pem

end CloudCredentials.Encoding
