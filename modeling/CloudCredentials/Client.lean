import CloudCredentials.Credentials

/-!
# Authorized clients

A client decorates the headers of every request before it sends it. Its decorations work from left
to right, each on the headers that the one before it made, and the first failure ends the request.
A token is fetched for each request anew.
-/

namespace CloudCredentials

/-- Where a bearer token comes from. -/
inductive TokenProvider where
  | fixed (token : String)
  | failing (error : Error)
  | credentials (credentials : Credentials)

/-- A token. -/
def TokenProvider.token : TokenProvider → Action String
  | .fixed bearer => return bearer
  | .failing error => throw error
  | .credentials held => held.token

/-- The product name and version that requests state unless told otherwise. -/
def defaultUserAgent : String := "airflow-0.1.0"

/-- What a client does to the headers of a request. -/
inductive Decoration where
  /-- State the product, in front of what the caller states. -/
  | userAgent (product : String)
  /-- Authorize the request with a bearer token. -/
  | bearer (provider : TokenProvider)

/-- The error for a header with a value that no header may have. -/
def invalidHeader (name : String) : Error :=
  .invalidHeader (name ++ ": failed to parse header value")

/-- The headers with a product name in front of the first one that they have. -/
def withUserAgent (product : String) (headers : Http.Headers) : Except Error Http.Headers :=
  let value :=
    match headers.first? "user-agent" with
    | some present => Bytes.ofText product ++ 0x20 :: present
    | none => Bytes.ofText product
  if Http.isValue value then .ok (headers.insert ⟨"user-agent", value, false⟩)
  else .error (invalidHeader "user-agent")

/-- The headers with a bearer token. -/
def withBearer (token : String) (headers : Http.Headers) : Except Error Http.Headers :=
  let value := Bytes.ofText ("Bearer " ++ token)
  if Http.isValue value then .ok (headers.insert ⟨"authorization", value, true⟩)
  else .error (invalidHeader "authorization")

/-- Decorate headers. -/
def Decoration.apply (headers : Http.Headers) : Decoration → Action Http.Headers
  | .userAgent product => Action.ofExcept (withUserAgent product headers)
  | .bearer provider => do
      let token ← provider.token
      Action.ofExcept (withBearer token headers)

/-- A client, by its decorations in the order in which they work. -/
structure Client where
  decorations : List Decoration

namespace Client

/-- The usual client: a bearer token, then the product name. -/
def withCredentials (provider : TokenProvider) (userAgent : String) : Client :=
  ⟨[.bearer provider, .userAgent userAgent]⟩

/-- The headers of a request. -/
def prepareHeaders (client : Client) (headers : Http.Headers) : Action Http.Headers :=
  client.decorations.foldlM Decoration.apply headers

/-- Send a request. -/
def request (client : Client) (method address : String) (headers : Http.Headers)
    (body : Option Bytes) : Action Http.Response := do
  let headers ← client.prepareHeaders headers
  Action.report .debug .http "sending request" [.plain "method" method, .plain "url" address]
  match ← Action.send ⟨method, address, [], headers, body⟩ with
  | .error fault =>
      Action.report .debug .http "request error"
        [.plain "url" address, .plain "err" fault.message]
      throw (.http fault.message)
  | .ok response =>
      Action.report .debug .http "response received"
        [.plain "url" address, .plain "status" (toString response.status)]
      return response

/-- Send a request without a body that asks for a resource. -/
def fetch (client : Client) (address : String) (headers : Http.Headers) : Action Http.Response :=
  client.request "GET" address headers none

/-- Send a request with a body. -/
def post (client : Client) (address : String) (headers : Http.Headers) (body : Bytes) :
    Action Http.Response :=
  client.request "POST" address headers (some body)

end Client

end CloudCredentials
