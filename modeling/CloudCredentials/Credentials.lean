import CloudCredentials.ServiceAccount.Exchange

/-!
# Credentials

Credentials give tokens for their scopes: from a service account key, from the metadata server of
the machine, or one that is already there. Only those of a service account can act for another
identity.
-/

namespace CloudCredentials

/-- Where the tokens of credentials come from. -/
inductive Identity where
  /-- A service account, acting for the subject if there is one. -/
  | serviceAccount (key : ServiceAccountKey) (subject : Option String)
  /-- The machine, whose metadata server is at this root. -/
  | machine (root : String)
  /-- A token that is already there. -/
  | accessToken (token : String)
deriving DecidableEq, Repr

/-- Credentials. -/
structure Credentials where
  identity : Identity
  scopes : List String
deriving DecidableEq, Repr

/-- The text without the slashes at its end. -/
def withoutEndSlashes (text : String) : String :=
  String.ofList ((text.toList.reverse.dropWhile (· == '/')).reverse)

/-- The header by which a metadata server and its clients know each other. -/
def flavorHeader : Http.Header := ⟨"metadata-flavor", Bytes.ofText "Google", false⟩

namespace Credentials

/-- The credentials of a service account. -/
def ofKey (key : ServiceAccountKey) (scopes : List String) : Credentials :=
  ⟨.serviceAccount key none, scopes⟩

/-- The credentials of the machine. Slashes at the end of the root do not count. -/
def ofMachine (root : String) (scopes : List String) : Credentials :=
  ⟨.machine (withoutEndSlashes root), scopes⟩

/-- Credentials with a token that is already there. -/
def ofToken (token : String) (scopes : List String) : Credentials :=
  ⟨.accessToken token, scopes⟩

/-- The name of the kind of credentials. -/
def kindName (credentials : Credentials) : String :=
  match credentials.identity with
  | .serviceAccount _ _ => "service_account"
  | .machine _ => "compute_engine"
  | .accessToken _ => "access_token"

/-- The identity that the credentials act for, if it is another one. -/
def subject (credentials : Credentials) : Option String :=
  match credentials.identity with
  | .serviceAccount _ subject => subject
  | _ => none

/-- The service account key, if the credentials have one. -/
def key? (credentials : Credentials) : Option ServiceAccountKey :=
  match credentials.identity with
  | .serviceAccount key _ => some key
  | _ => none

/-- The credentials, acting for another identity. -/
def withSubject (credentials : Credentials) (subject : String) : Except Error Credentials :=
  match credentials.identity with
  | .serviceAccount key _ => .ok ⟨.serviceAccount key (some subject), credentials.scopes⟩
  | _ => .error (.impersonationUnsupported credentials.kindName)

/-- The place of the token on a metadata server. -/
def metadataTokenPath : String :=
  "/computeMetadata/v1/instance/service-accounts/default/token"

/-- The request for a token of the machine. -/
def metadataTokenRequest (root : String) (scopes : List String) : Http.Request where
  method := "GET"
  address := root ++ metadataTokenPath
  query := if scopes.isEmpty then [] else [("scopes", String.intercalate "," scopes)]
  headers := [flavorHeader]
  body := none

/-- Fetch a token of the machine. -/
def fetchMetadataToken (root : String) (scopes : List String) : Action String := do
  let outcome ← Action.send (metadataTokenRequest root scopes)
  Action.ofExcept
    (tokenOf "Metadata server request failed: " "Failed to parse metadata token response: " outcome)

/-- A token. Every call fetches a new one. -/
def token (credentials : Credentials) : Action String :=
  match credentials.identity with
  | .serviceAccount key subject => key.fetchToken credentials.scopes subject
  | .machine root => fetchMetadataToken root credentials.scopes
  | .accessToken token => return token

/-- How diagnostics show credentials. -/
def shown (credentials : Credentials) : String :=
  "Credentials \x7b kind: " ++ Text.quoted credentials.kindName ++ ", scopes: [" ++
    String.intercalate ", " (credentials.scopes.map Text.quoted) ++ "], subject: " ++
    Text.quotedOption credentials.subject ++ " \x7d"

end Credentials

end CloudCredentials
