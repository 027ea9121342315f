import CloudCredentials.Credentials
import CloudCredentials.Proofs.Http.Recording

/-!
# What credentials ask the network for

Each time credentials are asked for a token they send one request at most, of the kind that
`AskedFor` describes, and send it anew. `Asking` says what the network sees, and that the token is
the one in the reply to that very request, or to what it has been redirected to; `asking_of_token`
says that this holds of all credentials.
-/

namespace CloudCredentials

/-- A token is what a successful response to the request for it holds. -/
theorem tokenOf_eq_ok_iff (requestContext responseContext token : String)
    (outcome : Except Http.TransportFault Http.Response) :
    tokenOf requestContext responseContext outcome = .ok token ↔
      ∃ response, outcome = .ok response ∧ Http.isSuccess response.status = true ∧
        readToken response.body = some token := by
  unfold tokenOf
  cases outcome with
  | error fault => simp
  | ok response =>
      cases hsuccess : Http.isSuccess response.status with
      | false => simp [hsuccess]
      | true =>
          cases htoken : readToken response.body with
          | none => simp [hsuccess, htoken]
          | some found => simp [hsuccess, htoken]

/-- The world after a request has been sent. -/
def World.afterSending (world : World) (request : Http.Request) : World :=
  { world with network := (world.network.send request).2 }

namespace ServiceAccountKey

/-- The event that tells that an assertion is about to be exchanged. -/
def exchanging (key : ServiceAccountKey) : Event :=
  ⟨.debug, .auth, "exchanging service account assertion",
    [.plain "client_email" key.clientEmail, .plain "token_uri" key.tokenUri]⟩

/-- An assertion that cannot be signed is not exchanged. -/
theorem runIn_fetchToken_of_unsigned {key : ServiceAccountKey} {scopes : List String}
    {subject : Option String} {world : World} {error : Error}
    (h : Assertion.sign key scopes subject world.clock = .error error) :
    (key.fetchToken scopes subject).runIn world = (.error error, world) := by
  rw [fetchToken, fetchTokenOver, Action.runIn_bind_of_ok (Action.runIn_get world), h]
  rfl

/-- A signed assertion is reported and then exchanged, by one request. -/
theorem runIn_fetchToken_of_signed {key : ServiceAccountKey} {scopes : List String}
    {subject : Option String} {world : World} {assertion : String}
    (h : Assertion.sign key scopes subject world.clock = .ok assertion) :
    (key.fetchToken scopes subject).runIn world =
      (tokenOf "Token endpoint request failed: " "Failed to parse token response: "
          (world.network.send (key.tokenRequest assertion)).1,
        { world.afterSending (key.tokenRequest assertion) with
          log := world.log ++ [key.exchanging] }) := by
  rw [fetchToken, fetchTokenOver, Action.runIn_bind_of_ok (Action.runIn_get world), h,
    Action.runIn_bind_of_ok (Action.runIn_ofExcept (.ok assertion) world),
    Action.runIn_bind_of_ok (Action.runIn_report _ _ _ _ world),
    Action.runIn_bind_of_ok (Action.runIn_send _ _), Action.runIn_ofExcept]
  rfl

end ServiceAccountKey

namespace Credentials

/-- A token of the machine is asked for by one request. -/
theorem runIn_fetchMetadataToken (root : String) (scopes : List String) (world : World) :
    (fetchMetadataToken root scopes).runIn world =
      (tokenOf "Metadata server request failed: " "Failed to parse metadata token response: "
          (world.network.send (metadataTokenRequest root scopes)).1,
        world.afterSending (metadataTokenRequest root scopes)) := by
  rw [fetchMetadataToken, Action.runIn_bind_of_ok (Action.runIn_send _ world),
    Action.runIn_ofExcept]
  rfl

/-- `AskedFor credentials world seen` says that the network has seen a request for a token of the
credentials that they send in this world. Credentials with a token of their own send none. -/
inductive AskedFor (credentials : Credentials) (world : World) (seen : Http.SeenRequest) : Prop where
  /-- A service account posts an assertion that it has just signed to the token endpoint that its key
  states, or to the usual one. -/
  | assertion (key : ServiceAccountKey) (signed : String) (hkey : credentials.key? = some key)
      (hsigned : Assertion.sign key credentials.scopes credentials.subject world.clock = .ok signed)
      (hstated : (key.tokenRequest signed).seen? = some seen)
      (hsent : seen.IsTo "POST"
        (key.storedTokenUri.getD "https://oauth2.googleapis.com/token"))
  /-- The machine asks the metadata server. -/
  | metadata (root : String) (hidentity : credentials.identity = .machine root)
      (hstated : (metadataTokenRequest root credentials.scopes).seen? = some seen)
      (hsent : seen.IsTo "GET"
        (root ++ "/computeMetadata/v1/instance/service-accounts/default/token"))

/-- The token comes out of the reply to the last of the requests that have been asked in the world,
and nothing has cut that reply short. -/
def InReply (world : World) (asked : List Http.SeenRequest) (token : String) : Prop :=
  ∃ passed status headers body rest,
    world.network.replies = passed ++ .respond status headers body false :: rest ∧
      passed.length + 1 = asked.length ∧ Http.isSuccess status = true ∧
      readToken (some body) = some token

/-- A request for a token that gives one takes it out of the reply to it. -/
theorem inReply_of_send {world : World} {request : Http.Request}
    {requestContext responseContext token : String}
    (h : tokenOf requestContext responseContext (world.network.send request).1 = .ok token) :
    InReply world (world.network.trail request) token := by
  obtain ⟨response, hresponse, hsuccess, htoken⟩ := (tokenOf_eq_ok_iff _ _ _ _).1 h
  obtain ⟨passed, body, isCut, rest, method, hreplies, hlength, hbody⟩ :=
    Http.Network.send_eq_ok hresponse
  -- Neither a response without a body nor one that is cut short holds a token.
  have hwhole : isCut = false ∧ response.body = some body := by
    split at hbody
    · rw [hbody] at htoken
      cases htoken
    · cases isCut with
      | true =>
          rw [hbody] at htoken
          cases htoken
      | false => exact ⟨rfl, hbody⟩
  obtain ⟨rfl, hkept⟩ := hwhole
  rw [hkept] at htoken
  exact ⟨passed, _, _, body, rest, hreplies, hlength, hsuccess, htoken⟩

/-- `Asking credentials world asked` says what comes of asking credentials for a token in a world:
`asked` is what the network has seen of it. -/
structure Asking (credentials : Credentials) (world : World) (asked : List Http.SeenRequest) :
    Prop where
  /-- There is one request at most, besides what it is redirected to. -/
  sees : Http.Network.Sees world.network (credentials.token.runIn world).2.network asked
  /-- The request is one for a token of the credentials. -/
  askedFor : ∀ seen ∈ asked.head?, AskedFor credentials world seen
  /-- A token that is not a fixed one is the one in the reply to the request. -/
  fresh : ∀ token, (credentials.token.runIn world).1 = .ok token →
    credentials.identity = .accessToken token ∨ InReply world asked token

/-- Credentials that get their token out of the response to one request have asked by it. -/
theorem asking_of_send {credentials : Credentials} {world after : World} {request : Http.Request}
    {requestContext responseContext : String}
    (h : credentials.token.runIn world =
      (tokenOf requestContext responseContext (world.network.send request).1, after))
    (hafter : after.network = (world.network.send request).2)
    (haskedFor : ∀ seen, request.seen? = some seen → AskedFor credentials world seen) :
    Asking credentials world (world.network.trail request) := by
  constructor
  case sees =>
    rw [h, hafter]
    exact Http.Network.sees_send _ _
  case askedFor =>
    intro seen hseen
    exact haskedFor seen (Http.Network.seen?_of_head?_trail hseen)
  case fresh =>
    intro token htoken
    rw [h] at htoken
    exact .inr (inReply_of_send htoken)

/-- Credentials that leave the world alone have not asked the network. -/
theorem asking_of_unchanged {credentials : Credentials} {world : World}
    {outcome : Except Error String} (h : credentials.token.runIn world = (outcome, world))
    (hown : ∀ token, outcome = .ok token → credentials.identity = .accessToken token) :
    Asking credentials world [] := by
  constructor
  case sees =>
    rw [h]
    exact .refl _
  case askedFor =>
    intro _ hnone
    cases hnone
  case fresh =>
    intro token htoken
    rw [h] at htoken
    exact .inl (hown token htoken)

/-- Whatever credentials are asked for a token, they send one request at most. -/
theorem asking_of_token (credentials : Credentials) (world : World) :
    ∃ asked, Asking credentials world asked := by
  cases hidentity : credentials.identity with
  | serviceAccount key subject =>
      cases hsigned : Assertion.sign key credentials.scopes subject world.clock with
      | error error =>
          have hrun : credentials.token.runIn world = (.error error, world) := by
            rw [token, hidentity]
            exact ServiceAccountKey.runIn_fetchToken_of_unsigned hsigned
          refine ⟨[], asking_of_unchanged hrun ?_⟩
          intro _ herror
          cases herror
      | ok signed =>
          have htoken : credentials.token = key.fetchToken credentials.scopes subject := by
            rw [token, hidentity]
          have hrun := ServiceAccountKey.runIn_fetchToken_of_signed hsigned
          rw [← htoken] at hrun
          refine ⟨_, asking_of_send hrun rfl ?_⟩
          intro seen hseen
          have hkey : credentials.key? = some key := by rw [key?, hidentity]
          have hsubject : credentials.subject = subject := by rw [Credentials.subject, hidentity]
          rw [← hsubject] at hsigned
          exact .assertion key signed hkey hsigned hseen (Http.Request.isTo_of_seen hseen)
  | machine root =>
      have htoken : credentials.token = fetchMetadataToken root credentials.scopes := by
        rw [token, hidentity]
      have hrun := runIn_fetchMetadataToken root credentials.scopes world
      rw [← htoken] at hrun
      refine ⟨_, asking_of_send hrun rfl ?_⟩
      intro seen hseen
      exact .metadata root hidentity hseen (Http.Request.isTo_of_seen hseen)
  | accessToken own =>
      have hrun : credentials.token.runIn world = (.ok own, world) := by
        rw [token, hidentity]
        rfl
      refine ⟨[], asking_of_unchanged hrun ?_⟩
      rintro token ⟨⟩
      exact hidentity

end Credentials

end CloudCredentials
