import CloudCredentials.Error

/-!
# Service account keys

A key is a JSON document: an object with known members, or an array of their values in a fixed
order. `ServiceAccountKey.ofJson` reads a document as it stands. `ServiceAccountKey.ofFormText`
reads one that has been through a connection form, where the line breaks of the private key were
written as a backslash and the letter n.
-/

namespace CloudCredentials

/-- A member of a key document. -/
inductive KeyField where
  | kind
  | projectId
  | privateKeyId
  | privateKey
  | clientEmail
  | clientId
  | tokenUri
deriving DecidableEq, Repr

namespace KeyField

/-- All members, in the order of the array form. -/
def all : List KeyField :=
  [.kind, .projectId, .privateKeyId, .privateKey, .clientEmail, .clientId, .tokenUri]

/-- The name of a member. -/
def name : KeyField → String
  | .kind => "type"
  | .projectId => "project_id"
  | .privateKeyId => "private_key_id"
  | .privateKey => "private_key"
  | .clientEmail => "client_email"
  | .clientId => "client_id"
  | .tokenUri => "token_uri"

/-- The member with a name. -/
def ofName? (name : String) : Option KeyField :=
  all.find? (·.name == name)

/-- A key without the member is no key. -/
def isRequired : KeyField → Bool
  | .privateKey | .clientEmail => true
  | _ => false

/-- The text that a value gives the member. Null stands for no text where none is required. -/
def text? (field : KeyField) : Json.Value → Except KeyFault (Option String)
  | .string text => .ok (some text)
  | .null => if field.isRequired then .error (.notString .null) else .ok none
  | value => .error (.notString value)

end KeyField

/-- A service account key. -/
structure ServiceAccountKey where
  kind : Option String
  projectId : Option String
  privateKeyId : Option String
  clientEmail : String
  clientId : Option String
  storedTokenUri : Option String
  privateKey : String
deriving DecidableEq, Repr

/-- The text with every backslash that is followed by the letter n turned, with that letter, into a
line break. -/
def breakLines : List Char → List Char
  | [] => []
  | [character] => [character]
  | first :: second :: rest =>
      if first = '\\' ∧ second = 'n' then '\n' :: breakLines rest
      else first :: breakLines (second :: rest)

namespace ServiceAccountKey

/-- The token endpoint of keys that name none. -/
def defaultTokenUri : String := "https://oauth2.googleapis.com/token"

/-- A key with a client and a private key alone. -/
def new (clientEmail privateKey : String) : ServiceAccountKey :=
  ⟨some "service_account", none, none, clientEmail, none, none, privateKey⟩

/-- The key with another token endpoint. -/
def withTokenUri (key : ServiceAccountKey) (tokenUri : String) : ServiceAccountKey :=
  { key with storedTokenUri := some tokenUri }

/-- The token endpoint. -/
def tokenUri (key : ServiceAccountKey) : String :=
  key.storedTokenUri.getD defaultTokenUri

/-- The texts of members, each with its member. -/
abbrev Texts := List (KeyField × Option String)

/-- The text of a member. -/
def textOf (texts : Texts) (field : KeyField) : Option String :=
  (texts.lookup field).join

/-- The key with these texts. Of two required members that are both absent, the private key is the
one that is reported. -/
def ofTexts (texts : Texts) (missing : KeyField → KeyFault) :
    Except KeyFault ServiceAccountKey := do
  let some privateKey := textOf texts .privateKey | throw (missing .privateKey)
  let some clientEmail := textOf texts .clientEmail | throw (missing .clientEmail)
  return ⟨textOf texts .kind, textOf texts .projectId, textOf texts .privateKeyId, clientEmail,
    textOf texts .clientId, textOf texts .tokenUri, privateKey⟩

/-- The texts of the known members of an object, in the order of the object. -/
def memberTexts (members : Json.Members) : Except KeyFault Texts :=
  (members.filterMap fun (name, value) => (KeyField.ofName? name).map (·, value)).mapM
    fun (field, value) => do return (field, ← field.text? value)

/-- The texts of the items of an array, by the place of each. -/
def itemTexts (items : List Json.Value) : Except KeyFault Texts :=
  (KeyField.all.zip items).mapM fun (field, value) => do return (field, ← field.text? value)

/-- The key that a document holds. -/
def ofValue : Json.Value → Except KeyFault ServiceAccountKey
  | .object members => do ofTexts (← memberTexts members) fun field => .missing field.name
  | .array items => do
      let texts ← itemTexts items
      let key ← ofTexts texts fun field => .tooFew (KeyField.all.idxOf field)
      if KeyField.all.length < items.length then throw (.tooMany items.length) else return key
  | value => .error (.notRecord value)

/-- The document with the line breaks of its private key put back. Only the member of an object is
looked at. -/
def withLineBreaks : Json.Value → Json.Value
  | .object members =>
      match Json.member? KeyField.privateKey.name members with
      | some (.string text) =>
          .object (Json.putMember KeyField.privateKey.name
            (.string (String.ofList (breakLines text.toList))) members)
      | _ => .object members
  | value => value

/-- The key that a text holds, after a change to the document. -/
def readWith (change : Json.Value → Json.Value) (text : String) :
    Except Error ServiceAccountKey :=
  match Json.readText text with
  | .error fault => .error (.invalidKeyJson (.unreadable "" fault))
  | .ok value =>
      match ofValue (change value) with
      | .ok key => .ok key
      | .error fault => .error (.malformedServiceAccount fault)

/-- The key that a text holds. -/
def ofJson (text : String) : Except Error ServiceAccountKey :=
  readWith id text

/-- The key that a text from a connection form holds. -/
def ofFormText (text : String) : Except Error ServiceAccountKey :=
  readWith withLineBreaks text

/-- How diagnostics show a key. The private key is left out. -/
def shown (key : ServiceAccountKey) : String :=
  "ServiceAccountKey \x7b key_type: " ++ Text.quotedOption key.kind ++
    ", project_id: " ++ Text.quotedOption key.projectId ++
    ", private_key_id: " ++ Text.quotedOption key.privateKeyId ++
    ", client_email: " ++ Text.quoted key.clientEmail ++
    ", client_id: " ++ Text.quotedOption key.clientId ++
    ", token_uri: " ++ Text.quotedOption key.storedTokenUri ++
    ", private_key: SecretBox<str>([REDACTED]) \x7d"

end ServiceAccountKey

end CloudCredentials
