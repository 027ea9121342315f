import CloudCredentials.ServiceAccount.Assertion
import CloudCredentials.World.Action

/-!
# Token exchanges

How a token endpoint's response is read, and the exchange of a signed assertion for a token.
Nothing is kept from one exchange to the next.
-/

namespace CloudCredentials

/-- The token in a response: of a record with the member `access_token`, that member. -/
def readToken (body : Option Bytes) : Option String :=
  match body with
  | none => none
  | some body =>
      match Json.readRecord ["access_token"] body with
      | .ok [tree] => Json.Tree.requiredText? tree
      | _ => none

/-- The token that the outcome of a request for one gives. The contexts are the beginnings of the
messages for a request without response and for a response without token. -/
def tokenOf (requestContext responseContext : String)
    (outcome : Except Http.TransportFault Http.Response) : Except Error String :=
  match outcome with
  | .error fault => .error (.http (requestContext ++ fault.message))
  | .ok response =>
      if Http.isSuccess response.status then
        match readToken response.body with
        | some token => .ok token
        | none => .error (.parse (.stated (responseContext ++ "error decoding response body")))
      else
        .error (.tokenEndpoint response.status
          ((response.body.map Bytes.lossyText).getD ""))

namespace ServiceAccountKey

/-- The key in a file. -/
def ofFile (path : String) : Action ServiceAccountKey := do
  match (← get).files.readText path with
  | .error fault => throw (.keyFileRead path fault)
  | .ok text => Action.ofExcept (ofJson text)

/-- The kind of grant that an assertion asks for. -/
def assertionGrant : String := "urn:ietf:params:oauth:grant-type:jwt-bearer"

/-- The request that exchanges an assertion. -/
def tokenRequest (key : ServiceAccountKey) (assertion : String) : Http.Request where
  method := "POST"
  address := key.tokenUri
  query := []
  headers := [⟨"content-type", Bytes.ofText "application/x-www-form-urlencoded", false⟩]
  body := some (Bytes.ofText (String.ofList
    (Url.formFields [("grant_type", assertionGrant), ("assertion", assertion)])))

/-- Sign an assertion and exchange it for a token, with a client that sends requests like this. -/
def fetchTokenOver (send : Http.Request → Action (Except Http.TransportFault Http.Response))
    (key : ServiceAccountKey) (scopes : List String) (subject : Option String) :
    Action String := do
  let assertion ← Action.ofExcept (Assertion.sign key scopes subject (← get).clock)
  Action.report .debug .auth "exchanging service account assertion"
    [.plain "client_email" key.clientEmail, .plain "token_uri" key.tokenUri]
  let outcome ← send (key.tokenRequest assertion)
  Action.ofExcept
    (tokenOf "Token endpoint request failed: " "Failed to parse token response: " outcome)

/-- Sign an assertion and exchange it for a token. -/
def fetchToken (key : ServiceAccountKey) (scopes : List String) (subject : Option String) :
    Action String :=
  key.fetchTokenOver Action.send scopes subject

end ServiceAccountKey

end CloudCredentials
