import CloudCredentials.Http.Header
import CloudCredentials.Url.Address

/-!
# Exchanges

A request is addressed, then sent over the network, which answers it or not. A response may redirect
the request, and then the client goes on by itself. The network keeps the replies that it is going to
give and the requests that it has seen.
-/

namespace CloudCredentials.Http

open CloudCredentials.Url

/-- A request as a caller states it. -/
structure Request where
  method : String
  address : String
  /-- Fields to be added to the query of the address. -/
  query : List (String × String)
  headers : Headers
  body : Option Bytes

/-- A request as the network sees it. -/
structure SeenRequest where
  method : String
  address : String
  headers : Headers
  body : Bytes
  /-- The client sends it by itself, because a response has redirected the request before it. -/
  isRedirected : Bool
deriving DecidableEq, Repr

/-- A response. There is no body if it could not be read to its end. -/
structure Response where
  status : Nat
  headers : Headers
  body : Option Bytes
deriving DecidableEq, Repr

/-- What a server does with a request. -/
inductive Reply where
  /-- Answer it. The connection may break before the body ends. -/
  | respond (status : Nat) (headers : Headers) (body : Bytes) (isCut : Bool)
  /-- Close the connection. -/
  | close
deriving DecidableEq, Repr

/-- Why a request got no response. -/
inductive TransportFault where
  /-- The address is not an absolute address. -/
  | noAddress
  /-- No request can be sent to the address. -/
  | unsuitable (address : String)
  /-- The request was not answered. -/
  | unanswered (address : String)
  /-- The request was redirected too often, to this address at last. -/
  | redirectedTooOften (address : String)
deriving DecidableEq, Repr

/-- The wording of a transport fault. -/
def TransportFault.message : TransportFault → String
  | .noAddress => "builder error"
  | .unsuitable address => "builder error for url (" ++ address ++ ")"
  | .unanswered address => "error sending request for url (" ++ address ++ ")"
  | .redirectedTooOften address => "error following redirect for url (" ++ address ++ ")"

/-- The status is one of success. -/
def isSuccess (status : Nat) : Bool :=
  200 ≤ status && status < 300

/-- The statuses of success are those from 200 to 299. -/
theorem isSuccess_iff (status : Nat) : isSuccess status = true ↔ 200 ≤ status ∧ status < 300 := by
  simp [isSuccess]

/-- The response has no body, whatever the server sends. -/
def isBodiless (method : String) (status : Nat) : Bool :=
  method == "HEAD" || status == 204 || status == 304

/-- The value of the header that carries a user and a password. -/
def basicCredentials (user password : String) : Bytes :=
  Bytes.ofText "Basic " ++
    (Encoding.Base64.standard.encode (Bytes.ofText (user ++ ":" ++ password))).flatMap Bytes.ofChar

/-- The headers with a user and a password, unless they authorize the request already. -/
def withBasicCredentials (headers : Headers) (user password : String) : Headers :=
  if (Headers.values headers "authorization").isEmpty then
    headers ++ [⟨"authorization", basicCredentials user password, true⟩]
  else headers

/-- The address to which a request goes, and its headers. A user and a password move from the
address into the headers, and the query fields into the address. -/
def Request.prepare (request : Request) : Except TransportFault (Address × Headers) := do
  let some address := Address.read request.address | throw .noAddress
  if !address.hasHost then throw (.unsuitable address.text)
  let (address, headers) :=
    match address.credentials? with
    | some (user, password) =>
        (address.withoutCredentials, withBasicCredentials request.headers user password)
    | none => (address, request.headers)
  let address :=
    request.query.foldl (fun address (name, value) => address.withField name value) address
  if address.isRequestable then return (address, headers) else throw (.unsuitable address.text)

/-! ## Redirections -/

/-- The response asks the client to send the request to another place. -/
def Response.redirects (response : Response) : Bool :=
  [301, 302, 303, 307, 308].contains response.status &&
    (response.headers.first? "location").isSome

/-- How a client goes on with a request that has been redirected. -/
structure Redirect where
  method : String
  /-- The address as servers see it. -/
  target : String
  /-- The address as faults name it. -/
  address : String
  /-- The names of the headers that are not sent again. -/
  omitted : List String
  added : Headers
  keepsBody : Bool

/-- The request that takes the place of one that has been redirected. -/
def Redirect.apply (redirect : Redirect) (request : SeenRequest) : SeenRequest where
  method := redirect.method
  address := redirect.target
  headers := request.headers.filter (!redirect.omitted.contains ·.name) ++ redirect.added
  body := if redirect.keepsBody then request.body else []
  isRedirected := true

/-- What a client does about a response that redirects a request with a method and an address. It
goes on, gives up, or takes the response as it is. -/
abbrev Redirection := String → String → Response → Option (Except TransportFault Redirect)

/-- A client that takes every response as it is. -/
def Redirection.ignored : Redirection := fun _ _ _ => none

/-- What a client does about a response. Only one that redirects leaves it a choice. -/
def Redirection.choose (redirection : Redirection) (method address : String)
    (response : Response) : Option (Except TransportFault Redirect) :=
  if response.redirects then redirection method address response else none

/-- The number of redirections that a client follows for one request. -/
def redirectLimit : Nat := 10

/-- The response that a client gets out of a reply to a request with a method. -/
def Reply.response? (method : String) : Reply → Option Response
  | .close => none
  | .respond status headers body isCut =>
      some ⟨status, headers,
        if isBodiless method status then some [] else if isCut then none else some body⟩

/-- What comes of a request that reaches the servers: the outcome, the requests that the servers see,
and the replies that still wait. -/
structure Traffic where
  outcome : Except TransportFault Response
  seen : List SeenRequest
  replies : List Reply

/-- Answer a request with the replies that wait, and follow that many redirections. -/
def exchange (redirection : Redirection) :
    List Reply → Nat → SeenRequest → String → Traffic
  | [], _, request, address => ⟨.error (.unanswered address), [request], []⟩
  | reply :: replies, hops, request, address =>
      match reply.response? request.method with
      | none => ⟨.error (.unanswered address), [request], replies⟩
      | some response =>
          match redirection.choose request.method address response, hops with
          | none, _ => ⟨.ok response, [request], replies⟩
          | some (.error fault), _ => ⟨.error fault, [request], replies⟩
          | some (.ok redirect), 0 =>
              ⟨.error (.redirectedTooOften redirect.address), [request], replies⟩
          | some (.ok redirect), hops + 1 =>
              let traffic :=
                exchange redirection replies hops (redirect.apply request) redirect.address
              { traffic with seen := request :: traffic.seen }

/-! ## Networks -/

/-- A network: whether there is a route to the servers, what they are going to reply, the requests
that they have seen, and what its client does about redirections. -/
structure Network where
  hasRoute : Bool
  replies : List Reply
  seen : List SeenRequest
  redirection : Redirection

/-- The request as the servers see it, if its address is good. -/
def Request.seen? (request : Request) : Option SeenRequest :=
  match request.prepare with
  | .error _ => none
  | .ok (address, headers) =>
      some ⟨request.method, address.requestText, headers, request.body.getD [], false⟩

/-- Send a request. Without a route it gets no answer and is not seen. -/
def Network.send (network : Network) (request : Request) :
    Except TransportFault Response × Network :=
  match request.prepare with
  | .error fault => (.error fault, network)
  | .ok (address, headers) =>
      if network.hasRoute then
        let traffic := exchange network.redirection network.replies redirectLimit
          ⟨request.method, address.requestText, headers, request.body.getD [], false⟩ address.text
        (traffic.outcome,
          { network with seen := network.seen ++ traffic.seen, replies := traffic.replies })
      else (.error (.unanswered address.text), network)

end CloudCredentials.Http
