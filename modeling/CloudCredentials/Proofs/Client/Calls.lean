import CloudCredentials.Session.Run
import CloudCredentials.Proofs.Credentials.TokenRequests

/-!
# Calls on a client

A client is called again and again, while the rest of the program changes the world between the
calls. `Block` says what one call does: it asks for a token anew, and sends the request of the
caller only with that token. `run_blocks` says that a run of calls sends the requests of its
blocks, one block a call, and nothing else. Where a reply redirects a request, the requests that the
client makes of it come right after it.
-/

namespace CloudCredentials

open Session (requestsBetween)

/-- The request with other headers. -/
def Http.Request.withHeaders (request : Http.Request) (headers : Http.Headers) : Http.Request :=
  { request with headers }

namespace Client

/-- A call on a client. -/
inductive Call where
  | request (method address : String) (headers : Http.Headers) (body : Option Bytes)
  | fetch (address : String) (headers : Http.Headers)
  | post (address : String) (headers : Http.Headers) (body : Bytes)

namespace Call

/-- The request as the caller states it. -/
def stated : Call → Http.Request
  | .request method address headers body => ⟨method, address, [], headers, body⟩
  | .fetch address headers => ⟨"GET", address, [], headers, none⟩
  | .post address headers body => ⟨"POST", address, [], headers, some body⟩

/-- Make a call. -/
def perform (client : Client) : Call → Action Http.Response
  | .request method address headers body => client.request method address headers body
  | .fetch address headers => client.fetch address headers
  | .post address headers body => client.post address headers body

/-- Every call states a method, an address, headers and a body, and sends them. -/
theorem perform_eq_request (client : Client) (call : Call) :
    call.perform client =
      client.request call.stated.method call.stated.address call.stated.headers
        call.stated.body := by
  cases call <;> rfl

end Call

/-- A call, and what the rest of the program does before it. -/
structure Turn where
  meanwhile : World → World
  call : Call

/-- A call that has been made, with the worlds before and after it. -/
structure Made where
  call : Call
  before : World
  outcome : Except Error Http.Response
  after : World

/-- The requests that the network has seen during a call. -/
def Made.requests (made : Made) : List Http.SeenRequest :=
  requestsBetween made.before made.after

/-- The world in which a program goes on. What happens meanwhile may change everything but the
requests that have been seen. -/
def resume (meanwhile : World → World) (world : World) : World :=
  let changed := meanwhile world
  { changed with network := { changed.network with seen := world.network.seen } }

/-- Make calls in turn. -/
def run (client : Client) (world : World) : List Turn → List Made × World
  | [] => ([], world)
  | turn :: turns =>
      let before := resume turn.meanwhile world
      let (outcome, after) := (turn.call.perform client).runIn before
      let (made, last) := run client after turns
      (⟨turn.call, before, outcome, after⟩ :: made, last)

/-- The event that tells that a request is about to be sent. -/
def sending (request : Http.Request) : Event :=
  ⟨.debug, .http, "sending request",
    [.plain "method" request.method, .plain "url" request.address]⟩

/-- The event that tells what became of a request. -/
def sent (request : Http.Request) : Except Http.TransportFault Http.Response → Event
  | .error fault =>
      ⟨.debug, .http, "request error",
        [.plain "url" request.address, .plain "err" fault.message]⟩
  | .ok response =>
      ⟨.debug, .http, "response received",
        [.plain "url" request.address, .plain "status" (toString response.status)]⟩

/-- The world after the request of a caller has been sent and reported. -/
def afterCalling (world : World) (request : Http.Request) : World :=
  { world.afterSending request with
    log := world.log ++ [sending request, sent request (world.network.send request).1] }

/-- What the caller is told of the outcome of a request. -/
def told : Except Http.TransportFault Http.Response → Except Error Http.Response
  | .error fault => .error (.http fault.message)
  | .ok response => .ok response

/-- A call prepares the headers, and sends its request with them if that succeeds. -/
theorem runIn_perform (client : Client) (call : Call) (world : World) :
    (call.perform client).runIn world =
      match (client.prepareHeaders call.stated.headers).runIn world with
      | (.error error, after) => (.error error, after)
      | (.ok headers, after) =>
          let request := call.stated.withHeaders headers
          (told (after.network.send request).1, afterCalling after request) := by
  rw [Call.perform_eq_request, request, Action.runIn_bind]
  rcases (client.prepareHeaders call.stated.headers).runIn world with ⟨outcome, after⟩
  cases outcome with
  | error error => rfl
  | ok headers =>
      have hrequest : (⟨call.stated.method, call.stated.address, [], headers, call.stated.body⟩ :
          Http.Request) = call.stated.withHeaders headers := by cases call <;> rfl
      simp only [Action.runIn_bind, Action.runIn_report, Action.runIn_send, hrequest,
        afterCalling, World.afterSending]
      cases (after.network.send (call.stated.withHeaders headers)).1 with
      | error fault =>
          simp only [Action.runIn_bind, Action.runIn_report, List.append_assoc]
          rfl
      | ok response =>
          simp only [Action.runIn_bind, Action.runIn_report, List.append_assoc]
          rfl

/-- The headers that the usual client makes of those of the caller with a token. -/
def decorated (userAgent : String) (headers : Http.Headers) (token : String) :
    Except Error Http.Headers :=
  (withBearer token headers).bind (withUserAgent userAgent)

/-- The usual client asks its provider for a token, once, and decorates the headers with it. -/
theorem runIn_prepareHeaders (provider : TokenProvider) (userAgent : String)
    (headers : Http.Headers) (world : World) :
    ((withCredentials provider userAgent).prepareHeaders headers).runIn world =
      ((provider.token.runIn world).1.bind (decorated userAgent headers),
        (provider.token.runIn world).2) := by
  simp only [prepareHeaders, withCredentials, List.foldlM_cons, List.foldlM_nil, Decoration.apply,
    bind_assoc, Action.runIn_bind, Action.runIn_ofExcept]
  rcases provider.token.runIn world with ⟨outcome, after⟩
  cases outcome with
  | error error => rfl
  | ok token =>
      simp only [Except.bind, decorated]
      cases withBearer token headers with
      | error error => rfl
      | ok bearing =>
          simp only
          cases withUserAgent userAgent bearing <;> rfl

/-- A bearer token is inserted into the headers. -/
theorem withBearer_eq_ok {token : String} {headers prepared : Http.Headers}
    (h : withBearer token headers = .ok prepared) :
    prepared = headers.insert ⟨"authorization", Bytes.ofText ("Bearer " ++ token), true⟩ := by
  unfold withBearer at h
  extract_lets value at h
  split at h
  · exact (Except.ok.inj h).symm
  · cases h

/-- A product name is inserted into the headers. -/
theorem withUserAgent_eq_ok {product : String} {headers prepared : Http.Headers}
    (h : withUserAgent product headers = .ok prepared) :
    ∃ value, prepared = headers.insert ⟨"user-agent", value, false⟩ := by
  unfold withUserAgent at h
  extract_lets value at h
  split at h
  · exact ⟨value, (Except.ok.inj h).symm⟩
  · cases h

/-- Decorated headers carry the token, and no other authorization. -/
theorem authorization_of_decorated {userAgent token : String} {headers prepared : Http.Headers}
    (h : decorated userAgent headers token = .ok prepared) :
    Http.Headers.values prepared "authorization" = [Bytes.ofText ("Bearer " ++ token)] := by
  rw [decorated] at h
  cases hbearer : withBearer token headers with
  | error error =>
      rw [hbearer] at h
      cases h
  | ok bearing =>
      rw [hbearer] at h
      obtain ⟨value, rfl⟩ := withUserAgent_eq_ok h
      have hname : "authorization" ≠ "user-agent" := by decide
      rw [Http.Headers.values_insert_of_ne _ _ _ hname, withBearer_eq_ok hbearer]
      exact Http.Headers.values_insert_self headers ⟨"authorization", _, true⟩

/-- `Block credentials userAgent made asked sent` says what the usual client does in one call:
`asked` is what the network has seen of its question for a token, and `sent` what it has seen of
the request of the caller. -/
structure Block (credentials : Credentials) (userAgent : String) (made : Made)
    (asked sent : List Http.SeenRequest) : Prop where
  /-- The question for a token comes first and the request of the caller second, and there is no
  third one. -/
  requests_eq : made.requests = asked ++ sent
  /-- The question is one request at most, besides what it is redirected to. -/
  asked_trail : Http.Trail made.before.network asked
  /-- So is the request of the caller. -/
  sent_trail : Http.Trail made.before.network sent
  /-- The question is that of the only time that the credentials are asked for a token. -/
  asked_eq : requestsBetween made.before (credentials.token.runIn made.before).2 = asked
  /-- The question is of the kind that the credentials use. -/
  askedFor : ∀ seen ∈ asked.head?, credentials.AskedFor made.before seen
  /-- The token is not older than the call: it comes out of the reply to the question, unless it is a
  fixed one. -/
  fresh : ∀ token, (credentials.token.runIn made.before).1 = .ok token →
    credentials.identity = .accessToken token ∨ Credentials.InReply made.before asked token
  /-- What is sent is the request of the caller, with the headers that the token decorates. -/
  authorized : ∀ seen ∈ sent.head?, ∃ token headers,
    (credentials.token.runIn made.before).1 = .ok token ∧
      decorated userAgent made.call.stated.headers token = .ok headers ∧
      (made.call.stated.withHeaders headers).seen? = some seen ∧
      seen.method = made.call.stated.method ∧ seen.body = made.call.stated.body.getD [] ∧
      Http.Headers.values seen.headers "authorization" = [Bytes.ofText ("Bearer " ++ token)]
  /-- Without a token the call ends with the error of the question for it. -/
  no_token : ∀ error, (credentials.token.runIn made.before).1 = .error error →
    made.outcome = .error error ∧ sent = []
  /-- Without good headers the call ends with the error that says so. -/
  no_headers : ∀ token error, (credentials.token.runIn made.before).1 = .ok token →
    decorated userAgent made.call.stated.headers token = .error error →
      made.outcome = .error error ∧ sent = []

/-- A result after two computations is that of the second, on the result of the first. -/
theorem eq_ok_of_bind {α β : Type} {first : Except Error α} {next : α → Except Error β} {last : β}
    (h : first.bind next = .ok last) : ∃ value, first = .ok value ∧ next value = .ok last := by
  cases first with
  | error error => cases h
  | ok value => exact ⟨value, rfl, h⟩

/-- The requests between two worlds are those that the second has seen beyond the first. -/
theorem requestsBetween_of_seen_eq {before after : World} {more : List Http.SeenRequest}
    (h : after.network.seen = before.network.seen ++ more) :
    requestsBetween before after = more := by
  rw [requestsBetween, h, List.drop_left]

/-- A call whose headers are not prepared is a block without a request of the caller. -/
theorem block_of_unprepared {credentials : Credentials} {userAgent : String} {call : Call}
    {before : World} {asked : List Http.SeenRequest} {error : Error}
    (hasking : credentials.Asking before asked)
    (h : (credentials.token.runIn before).1.bind (decorated userAgent call.stated.headers) =
      .error error) :
    Block credentials userAgent ⟨call, before, .error error, (credentials.token.runIn before).2⟩
      asked [] := by
  have hquestion := requestsBetween_of_seen_eq hasking.sees.seen_eq
  constructor
  case requests_eq =>
    rw [List.append_nil]
    exact hquestion
  case asked_trail => exact hasking.sees.trail
  case sent_trail => exact .nil _
  case asked_eq => exact hquestion
  case askedFor => exact hasking.askedFor
  case fresh => exact hasking.fresh
  case authorized =>
    intro _ hnone
    cases hnone
  case no_token =>
    intro cause hcause
    rw [hcause] at h
    cases h
    exact ⟨rfl, rfl⟩
  case no_headers =>
    intro token cause htoken hcause
    rw [htoken] at h
    cases hcause.symm.trans h
    exact ⟨rfl, rfl⟩

/-- A call whose headers are prepared is a block with the request of the caller, if the network has
seen it. -/
theorem block_of_prepared {credentials : Credentials} {userAgent : String} {call : Call}
    {before between : World} {asked : List Http.SeenRequest} {token : String}
    {headers : Http.Headers} (hasking : credentials.Asking before asked)
    (htoken : credentials.token.runIn before = (.ok token, between))
    (hheaders : decorated userAgent call.stated.headers token = .ok headers)
    (outcome : Except Error Http.Response) :
    Block credentials userAgent
      ⟨call, before, outcome, afterCalling between (call.stated.withHeaders headers)⟩ asked
      (between.network.trail (call.stated.withHeaders headers)) := by
  have hsees : Http.Network.Sees before.network between.network asked := by
    have hsees := hasking.sees
    rwa [htoken] at hsees
  have hbearer := authorization_of_decorated hheaders
  constructor
  case requests_eq =>
    apply requestsBetween_of_seen_eq
    show (between.network.send _).2.seen = _
    rw [Http.Network.seen_send, hsees.seen_eq, List.append_assoc]
  case asked_trail => exact hsees.trail
  case sent_trail => exact (Http.Network.isTrail _ _).mono hsees.isDirect
  case asked_eq =>
    rw [htoken]
    exact requestsBetween_of_seen_eq hsees.seen_eq
  case askedFor => exact hasking.askedFor
  case fresh => exact hasking.fresh
  case authorized =>
    intro seen hrecorded
    have hseen := Http.Network.seen?_of_head?_trail hrecorded
    obtain ⟨hmethod, hbody⟩ := Http.Request.method_body_of_seen hseen
    -- The token is in the headers, so nothing of the address takes its place.
    have hauthorized : Http.Headers.values headers "authorization" ≠ [] := by
      rw [hbearer]
      exact List.cons_ne_nil _ _
    refine ⟨token, headers, by rw [htoken], hheaders, hseen, hmethod, hbody, ?_⟩
    rw [Http.Request.headers_of_seen hseen hauthorized]
    exact hbearer
  case no_token =>
    intro cause hcause
    rw [htoken] at hcause
    cases hcause
  case no_headers =>
    intro other cause hother hcause
    rw [htoken] at hother
    cases hother
    rw [hheaders] at hcause
    cases hcause

/-- One call of the usual client is a block. -/
theorem block_of_perform {credentials : Credentials} {userAgent : String} {call : Call}
    {before after : World} {outcome : Except Error Http.Response}
    (h : (call.perform (withCredentials (.credentials credentials) userAgent)).runIn before =
      (outcome, after)) :
    ∃ asked sent, after.network.seen = before.network.seen ++ (asked ++ sent) ∧
      Block credentials userAgent ⟨call, before, outcome, after⟩ asked sent := by
  obtain ⟨asked, hasking⟩ := credentials.asking_of_token before
  have hasked := hasking.sees.seen_eq
  have hprovider : (TokenProvider.credentials credentials).token = credentials.token := rfl
  rw [runIn_perform, runIn_prepareHeaders, hprovider] at h
  cases hprepared : (credentials.token.runIn before).1.bind
      (decorated userAgent call.stated.headers) with
  | error error =>
      -- Neither a missing token nor a bad header lets the request of the caller out.
      rw [hprepared] at h
      cases h
      refine ⟨asked, [], ?_, block_of_unprepared hasking hprepared⟩
      rw [hasked, List.append_nil]
  | ok headers =>
      rw [hprepared] at h
      cases h
      obtain ⟨token, htoken, hheaders⟩ := eq_ok_of_bind hprepared
      rcases hrun : credentials.token.runIn before with ⟨result, between⟩
      rw [hrun] at htoken hasked
      subst htoken
      refine ⟨asked, _, ?_, block_of_prepared hasking hrun hheaders _⟩
      show (between.network.send _).2.seen = _
      rw [Http.Network.seen_send, hasked, List.append_assoc]

/-- A run of calls is a run of blocks, one a call, and the network sees their requests in order. -/
theorem run_blocks (credentials : Credentials) (userAgent : String) (world : World)
    (turns : List Turn) :
    ∃ made last,
      (withCredentials (.credentials credentials) userAgent).run world turns = (made, last) ∧
      last.network.seen = world.network.seen ++ made.flatMap Made.requests ∧
      made.map Made.call = turns.map Turn.call ∧
      ∀ one ∈ made, ∃ asked sent, Block credentials userAgent one asked sent := by
  induction turns generalizing world with
  | nil => exact ⟨[], world, rfl, by simp, rfl, by simp⟩
  | cons turn turns ih =>
      rcases hperform : (turn.call.perform
        (withCredentials (.credentials credentials) userAgent)).runIn
          (resume turn.meanwhile world) with ⟨outcome, after⟩
      obtain ⟨asked, sent, hseen, hblock⟩ := block_of_perform hperform
      obtain ⟨made, last, hrun, hlast, hcalls, hblocks⟩ := ih after
      refine ⟨⟨turn.call, resume turn.meanwhile world, outcome, after⟩ :: made, last, ?_, ?_, ?_,
        ?_⟩
      · simp only [run, hperform, hrun]
      · rw [hlast, hseen, List.flatMap_cons, hblock.requests_eq, List.append_assoc]
        rfl
      · rw [List.map_cons, List.map_cons, hcalls]
      · rw [List.forall_mem_cons]
        exact ⟨⟨asked, sent, hblock⟩, hblocks⟩

end Client

namespace Resolver

/-- The client of a resolver is the usual one, with the credentials that the resolver has made. -/
theorem runIn_client_eq_ok {resolver : Resolver} {world after : World} {client : Client}
    (h : resolver.client.runIn world = (.ok client, after)) :
    ∃ credentials, resolver.credentials.runIn world = (.ok credentials, after) ∧
      client = .withCredentials (.credentials credentials) resolver.userAgent := by
  rw [Resolver.client, Action.runIn_bind] at h
  rcases hrun : resolver.credentials.runIn world with ⟨outcome, between⟩
  rw [hrun] at h
  cases outcome with
  | error error => cases h
  | ok credentials =>
      cases h
      exact ⟨credentials, rfl, rfl⟩

/-- Whatever is called on the client of a resolver, and whatever the program does between the
calls, the network sees one block a call: a question for a token, asked anew, and after it the
request of the caller, authorized with that token alone. -/
theorem requests_of_client_run (resolver : Resolver) (world start : World) (client : Client)
    (h : resolver.client.runIn world = (.ok client, start)) (turns : List Client.Turn) :
    ∃ credentials, resolver.credentials.runIn world = (.ok credentials, start) ∧
      ∃ made last, client.run start turns = (made, last) ∧
        last.network.seen = start.network.seen ++ made.flatMap Client.Made.requests ∧
        made.map Client.Made.call = turns.map Client.Turn.call ∧
        ∀ one ∈ made, ∃ asked sent,
          Client.Block credentials resolver.userAgent one asked sent := by
  obtain ⟨credentials, hcredentials, rfl⟩ := runIn_client_eq_ok h
  exact ⟨credentials, hcredentials, Client.run_blocks credentials resolver.userAgent start turns⟩

/-- The client of a machine is called twice, the second time a minute later. -/
theorem requests_of_client_run_of_machine :
    let resolver : Resolver := ⟨"default", none, .empty, .machine "http://metadata/", "agent"⟩
    let world : World :=
      ⟨[], .initial, 0,
        ⟨true, [.respond 200 [] (Bytes.ofText "\x7b\"access_token\":\"first\"\x7d") false], [], .ignored⟩, []⟩
    let turns : List Client.Turn :=
      [⟨id, .fetch "http://service/" []⟩,
        ⟨fun world => { world with clock := world.clock + 60 }, .post "http://service/" [] []⟩]
    ∃ client start, resolver.client.runIn world = (.ok client, start) ∧
      ∃ credentials, resolver.credentials.runIn world = (.ok credentials, start) ∧
        ∃ made last, client.run start turns = (made, last) ∧
          last.network.seen = start.network.seen ++ made.flatMap Client.Made.requests ∧
          made.map Client.Made.call = turns.map Client.Turn.call ∧
          ∀ one ∈ made, ∃ asked sent,
            Client.Block credentials resolver.userAgent one asked sent :=
  ⟨_, _, rfl, requests_of_client_run _ _ _ _ rfl _⟩

end Resolver

end CloudCredentials
