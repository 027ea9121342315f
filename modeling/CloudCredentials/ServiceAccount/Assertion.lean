import CloudCredentials.Crypto.Rsa
import CloudCredentials.Encoding.Pem
import CloudCredentials.ServiceAccount.Key

/-!
# Signed assertions

An assertion states who asks for which scopes and until when, and the private key signs it. Its
three parts, the header, the claims and the signature, are written in base64 for addresses with
points between them.
-/

namespace CloudCredentials

open CloudCredentials.Encoding CloudCredentials.Crypto

/-- What an assertion states. -/
structure Claims where
  issuer : String
  scope : String
  audience : String
  issuedAt : Int
  expiresAt : Int
  subject : Option String
deriving DecidableEq, Repr

namespace Assertion

/-- The seconds for which an assertion is valid. -/
def lifetime : Int := 3600

/-- The header of an assertion, with the identifier of the key if it has one. -/
def header (key : ServiceAccountKey) : Json.Value :=
  .object ([("typ", .string "JWT"), ("alg", .string "RS256")] ++
    (key.privateKeyId.map fun identifier => ("kid", Json.Value.string identifier)).toList)

/-- The claims that a key makes at a time. -/
def claims (key : ServiceAccountKey) (scopes : List String) (subject : Option String)
    (now : Int) : Claims where
  issuer := key.clientEmail
  scope := String.intercalate " " scopes
  audience := key.tokenUri
  issuedAt := now
  expiresAt := now + lifetime
  subject := subject

/-- Claims as a document. -/
def document (claims : Claims) : Json.Value :=
  .object ([("iss", .string claims.issuer), ("scope", .string claims.scope),
    ("aud", .string claims.audience), ("exp", .number (.integer claims.expiresAt)),
    ("iat", .number (.integer claims.issuedAt))] ++
    (claims.subject.map fun subject => ("sub", Json.Value.string subject)).toList)

/-- A part of an assertion. -/
def part (bytes : Bytes) : List Char :=
  Base64.forAddresses.encode bytes

/-- A document as a part of an assertion. -/
def documentPart (value : Json.Value) : List Char :=
  part (Bytes.ofText value.text)

/-- The text that is signed. -/
def signedText (key : ServiceAccountKey) (claims : Claims) : List Char :=
  documentPart (header key) ++ '.' :: documentPart (document claims)

/-- The numbers of an object identifier that stands for a kind of key. -/
def rsaArcs : List Nat := [1, 2, 840, 113549, 1, 1, 1]

/-- The identifiers that tell the kind of a key. -/
def keyArcs : List (List Nat) := [[1, 2, 840, 10045, 2, 1], rsaArcs, [1, 3, 101, 112]]

/-- The bytes of the RSA key in a PEM text. A block that names its kind in its tag holds the key
itself; the others hold it in their first string, and name the kind by an identifier. -/
def keyBytes? (text : String) : Option Bytes := do
  let block ← Pem.read text
  let outline ← Der.blocks block.contents
  if block.tag = "RSA PRIVATE KEY" ∨ block.tag = "RSA PUBLIC KEY" then some block.contents
  else if block.tag = "PRIVATE KEY" ∨ block.tag = "PUBLIC KEY" ∨ block.tag = "CERTIFICATE" then
    if Der.findIdentifierIn? keyArcs.contains outline = some rsaArcs then
      Der.findContentIn? outline
    else none
  else none

/-- Sign an assertion. -/
def sign (key : ServiceAccountKey) (scopes : List String) (subject : Option String) (now : Int) :
    Except Error String := do
  let signed := signedText key (claims key scopes subject now)
  let some bytes := keyBytes? key.privateKey
    | throw (.tokenSigning "invalid RSA private key (PEM): InvalidKeyFormat")
  let some signature := (RsaPrivateKey.ofDer bytes).bind (·.sign (signed.flatMap Bytes.ofChar))
    | throw (.tokenSigning "Signing failed")
  return String.ofList (signed ++ '.' :: part signature)

/-- The texts of the first two parts and the third part as it is, if there are three parts and the
first two are texts. -/
def parts? (assertion : String) : Option (String × String × String) :=
  match Text.separate (· == '.') assertion.toList with
  | [header, claims, signature] => do
      let header ← (Base64.forAddresses.decode header).bind Bytes.text?
      let claims ← (Base64.forAddresses.decode claims).bind Bytes.text?
      return (header, claims, String.ofList signature)
  | _ => none

end Assertion

end CloudCredentials
