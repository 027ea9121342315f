import CloudCredentials.Proofs.Client.Calls
import CloudCredentials.Proofs.Credentials.Decision
import CloudCredentials.Proofs.Credentials.Wire

/-!
# Runs of a resolver

A resolver is asked for tokens and for clients, and the clients are called, in any order and in a
world that changes in between. `Accounted` says what the network sees of one use.
`accountedFor_run` says that every token request of such a run asks for what the connection of the
resolver states and for nothing else.
-/

namespace CloudCredentials.Resolver

open Session (requestsBetween)

/-- A use of a resolver, or of a client that it has made. -/
inductive Use where
  /-- Ask for a token. -/
  | accessToken
  /-- Ask for a client, and keep it. -/
  | client
  /-- Call a client that is kept, counted from the first. -/
  | call (index : Nat) (call : Client.Call)

/-- A use, and what the rest of the program does before it. -/
structure Turn where
  meanwhile : World → World
  use : Use

/-- The world in a run, and the clients that have been made, earliest first. -/
structure Holding where
  world : World
  clients : List Client

/-- A use that has been made, with what was there before and after it. -/
structure Made where
  use : Use
  before : Holding
  after : Holding

/-- The requests that the network has seen during a use. -/
def Made.requests (made : Made) : List Http.SeenRequest :=
  requestsBetween made.before.world made.after.world

/-- Make a use of a resolver. A client that is not there is not called. -/
def make (resolver : Resolver) (held : Holding) : Use → Holding
  | .accessToken => ⟨(resolver.accessToken.runIn held.world).2, held.clients⟩
  | .client =>
      match resolver.client.runIn held.world with
      | (.ok client, after) => ⟨after, held.clients ++ [client]⟩
      | (.error _, after) => ⟨after, held.clients⟩
  | .call index call =>
      match held.clients[index]? with
      | some client => ⟨((call.perform client).runIn held.world).2, held.clients⟩
      | none => held

/-- Make uses in turn. -/
def run (resolver : Resolver) (held : Holding) : List Turn → List Made × Holding
  | [] => ([], held)
  | turn :: turns =>
      let before : Holding := ⟨Client.resume turn.meanwhile held.world, held.clients⟩
      let after := resolver.make before turn.use
      let (made, last) := run resolver after turns
      (⟨turn.use, before, after⟩ :: made, last)

/-- The credentials of the resolver come from a key of the connection or from the usual
surroundings. -/
def UsesOwnSources (resolver : Resolver) : Prop :=
  resolver.ambient = .surroundings ∨ resolver.connection.HasKey

/-- The resolver makes these credentials in some world, with the scopes of the connection and for the
delegate. -/
def Makes (resolver : Resolver) (credentials : Credentials) : Prop :=
  (∃ world, (resolver.credentials.runIn world).1 = .ok credentials) ∧
    credentials.scopes = resolver.connection.scopes ∧ credentials.subject = resolver.delegate

/-- The client uses credentials that the resolver makes. -/
def Fits (resolver : Resolver) (client : Client) : Prop :=
  ∃ credentials, client = .withCredentials (.credentials credentials) resolver.userAgent ∧
    resolver.Makes credentials

/-- The credentials that are asked for the token of a use: those that the resolver makes then, or
those of the client that is called. -/
def Made.Asks (resolver : Resolver) (made : Made) (credentials : Credentials) : Prop :=
  match made.use with
  | .accessToken => (resolver.credentials.runIn made.before.world).1 = .ok credentials
  | .client => False
  | .call index _ => made.before.clients[index]? =
      some (.withCredentials (.credentials credentials) resolver.userAgent)

/-- `Accounted resolver made probed asked sent` says what the network has seen of one use: `probed`
of the search for a metadata server, `asked` of the question for a token, and `sent` of the request
of the caller. -/
structure Accounted (resolver : Resolver) (made : Made)
    (probed asked sent : List Http.SeenRequest) : Prop where
  /-- There are no other requests. -/
  requests_eq : made.requests = probed ++ asked ++ sent
  /-- Each is one request at most, besides what it is redirected to. -/
  trails : ∀ trail ∈ [probed, asked, sent], Http.Trail made.before.world.network trail
  /-- A metadata server is looked for at the root that the environment tells. -/
  probed_to : ∀ seen ∈ probed.head?, ∃ root,
    Ambient.RootOf none made.before.world.environment root ∧ seen.IsTo "GET" (root ++ "/")
  /-- A token is asked for by the credentials of the use, which the resolver has made, with the scopes
  of the connection and for the delegate. -/
  asks : ∀ seen ∈ asked.head?, ∃ credentials, made.Asks resolver credentials ∧
    resolver.Makes credentials ∧
    credentials.Asks resolver.connection.scopes resolver.delegate seen
  /-- The request of a caller is the one that was stated, with a bearer token. -/
  sent_eq : ∀ seen ∈ sent.head?, ∃ index call token headers, made.use = .call index call ∧
    (call.stated.withHeaders headers).seen? = some seen ∧
    Http.Headers.values seen.headers "authorization" = [Bytes.ofText ("Bearer " ++ token)]

/-- Credentials that a resolver makes ask for the scopes of the connection. -/
theorem asks_of_askedFor {resolver : Resolver} {credentials : Credentials} {world : World}
    {seen : Http.SeenRequest} (h : credentials.AskedFor world seen)
    (hmakes : resolver.Makes credentials) :
    credentials.Asks resolver.connection.scopes resolver.delegate seen := by
  obtain ⟨-, hscopes, hsubject⟩ := hmakes
  rw [← hscopes, ← hsubject]
  apply h.asks
  · rw [hscopes]
    exact Scope.parse_ne_nil _
  · rw [hscopes]
    exact fun scope hscope => Scope.comma_not_mem_of_mem_parse hscope

/-- What a resolver does to make credentials. -/
theorem runIn_credentials_own {resolver : Resolver} (h : resolver.UsesOwnSources) (world : World) :
    ∃ outcome between probed root, resolver.credentials.runIn world = (outcome, between) ∧
      Ambient.RootOf none world.environment root ∧
      Ambient.Probing world.network between.network probed root ∧
      ∀ credentials, outcome = .ok credentials → resolver.Makes credentials := by
  obtain ⟨given, events, hchosen, hrun⟩ := resolver.runIn_credentials_chosen world
    (h.imp_right fun hkey => hkey.source_ne)
  obtain ⟨probed, hprobing⟩ := probing_askedFor resolver.connection world
  have hroot := (Ambient.rootOf_iff none world.environment _).2 rfl
  refine ⟨_, _, probed, _, hrun, hroot, hprobing, fun credentials hcredentials => ?_⟩
  exact ⟨⟨world, by rw [hrun]; exact hcredentials⟩, carried_of_chosen hchosen hcredentials⟩

/-- Every client that is kept fits the resolver. -/
def Holding.Fits (resolver : Resolver) (held : Holding) : Prop :=
  ∀ client ∈ held.clients, resolver.Fits client

/-- `AccountedFor resolver made` says that one use is accounted for. -/
def AccountedFor (resolver : Resolver) (made : Made) : Prop :=
  ∃ probed asked sent, made.after.world.network.seen =
    made.before.world.network.seen ++ (probed ++ asked ++ sent) ∧
      resolver.Accounted made probed asked sent

/-- Making credentials is accounted for by a probe, and leads to credentials that the resolver
makes. -/
theorem accountedFor_credentials {resolver : Resolver} (h : resolver.UsesOwnSources)
    (world : World) :
    ∃ outcome between, resolver.credentials.runIn world = (outcome, between) ∧
      (∀ credentials, outcome = .ok credentials → resolver.Makes credentials) ∧
      ∀ use clients others, resolver.AccountedFor ⟨use, ⟨world, clients⟩, ⟨between, others⟩⟩ := by
  obtain ⟨outcome, between, probed, root, hrun, hroot, hprobing, hmakes⟩ :=
    runIn_credentials_own h world
  refine ⟨outcome, between, hrun, hmakes, fun use clients others => ⟨probed, [], [], ?_, ?_⟩⟩
  · simpa using hprobing.sees.seen_eq
  · constructor
    case requests_eq =>
      apply Client.requestsBetween_of_seen_eq
      simpa using hprobing.sees.seen_eq
    case trails => simp [hprobing.sees.trail, Http.Trail.nil]
    case probed_to => exact fun seen hseen => ⟨root, hroot, hprobing.own seen hseen⟩
    case asks => simp
    case sent_eq => simp

/-- Asking for a token is accounted for by a probe and a question for the token. -/
theorem accountedFor_accessToken {resolver : Resolver} (h : resolver.UsesOwnSources)
    (held : Holding) :
    resolver.AccountedFor ⟨.accessToken, held, resolver.make held .accessToken⟩ := by
  obtain ⟨outcome, between, probed, root, hrun, hroot, hprobing, hmakes⟩ :=
    runIn_credentials_own h held.world
  cases outcome with
  | error error =>
      have htoken : resolver.accessToken.runIn held.world = (.error error, between) :=
        Action.runIn_bind_of_error hrun _
      obtain ⟨_, _, hsame, _, haccounted⟩ := accountedFor_credentials h held.world
      cases hrun.symm.trans hsame
      rw [make, htoken]
      exact haccounted _ _ _
  | ok credentials =>
      have hown := hmakes credentials rfl
      have htoken : resolver.accessToken.runIn held.world = credentials.token.runIn between :=
        Action.runIn_bind_of_ok hrun _
      obtain ⟨asked, hasking⟩ := credentials.asking_of_token between
      have hseen : (resolver.make held .accessToken).world.network.seen =
          held.world.network.seen ++ (probed ++ asked ++ []) := by
        rw [make, htoken, hasking.sees.seen_eq, hprobing.sees.seen_eq]
        simp
      refine ⟨probed, asked, [], hseen, Client.requestsBetween_of_seen_eq hseen, ?_, ?_, ?_, ?_⟩
      · have htrail := hasking.sees.trail.mono hprobing.sees.isDirect
        simp [hprobing.sees.trail, htrail, Http.Trail.nil]
      · exact fun seen hseen => ⟨root, hroot, hprobing.own seen hseen⟩
      · intro seen hasked
        have hresolved : (resolver.credentials.runIn held.world).1 = .ok credentials := by rw [hrun]
        exact ⟨credentials, hresolved, hown, asks_of_askedFor (hasking.askedFor seen hasked) hown⟩
      · simp

/-- Making a client is accounted for by a probe, and the client fits the resolver. -/
theorem accountedFor_client {resolver : Resolver} (h : resolver.UsesOwnSources) {held : Holding}
    (hfits : held.Fits resolver) :
    (resolver.make held .client).Fits resolver ∧
      resolver.AccountedFor ⟨.client, held, resolver.make held .client⟩ := by
  obtain ⟨outcome, between, hrun, hmakes, haccounted⟩ := accountedFor_credentials h held.world
  cases outcome with
  | error error =>
      have hclient : resolver.client.runIn held.world = (.error error, between) :=
        Action.runIn_bind_of_error hrun _
      rw [make, hclient]
      exact ⟨hfits, haccounted _ _ _⟩
  | ok credentials =>
      have hclient : resolver.client.runIn held.world =
          (.ok (.withCredentials (.credentials credentials) resolver.userAgent), between) :=
        Action.runIn_bind_of_ok hrun _
      rw [make, hclient]
      refine ⟨?_, haccounted _ _ _⟩
      intro client hclient
      rcases List.mem_append.1 hclient with hkept | hnew
      · exact hfits client hkept
      · exact ⟨credentials, List.mem_singleton.1 hnew, hmakes credentials rfl⟩

/-- A call on a client that fits is accounted for by a question for a token and the request of the
caller. -/
theorem accountedFor_call {resolver : Resolver} {held : Holding} (hfits : held.Fits resolver)
    (index : Nat) (call : Client.Call) :
    resolver.AccountedFor ⟨.call index call, held, resolver.make held (.call index call)⟩ := by
  cases hclient : held.clients[index]? with
  | none =>
      have hkept : resolver.make held (.call index call) = held := by rw [make, hclient]
      rw [hkept]
      refine ⟨[], [], [], by simp, Client.requestsBetween_of_seen_eq (by simp), ?_, ?_, ?_, ?_⟩
      · simp [Http.Trail.nil]
      · simp
      · simp
      · simp
  | some client =>
      obtain ⟨credentials, rfl, hown⟩ := hfits client (List.mem_of_getElem? hclient)
      rcases hperform : (call.perform (.withCredentials (.credentials credentials)
        resolver.userAgent)).runIn held.world with ⟨outcome, after⟩
      obtain ⟨asked, sent, hseen, hblock⟩ := Client.block_of_perform hperform
      have hmade : (resolver.make held (.call index call)).world = after := by
        rw [make, hclient]
        exact congrArg Prod.snd hperform
      have hall : (resolver.make held (.call index call)).world.network.seen =
          held.world.network.seen ++ ([] ++ asked ++ sent) := by
        rw [hmade, hseen, List.nil_append]
      refine ⟨[], asked, sent, hall, Client.requestsBetween_of_seen_eq hall, ?_, ?_, ?_, ?_⟩
      · simp only [List.forall_mem_cons]
        exact ⟨.nil _, hblock.asked_trail, hblock.sent_trail, by simp⟩
      · simp
      · exact fun seen hasked => ⟨credentials, hclient, hown,
          asks_of_askedFor (hblock.askedFor seen hasked) hown⟩
      · intro seen hsent
        obtain ⟨token, headers, _, _, hstated, _, _, hbearer⟩ := hblock.authorized seen hsent
        exact ⟨index, call, token, headers, rfl, hstated, hbearer⟩

/-- Every use of a resolver is accounted for, and keeps the clients fitting. -/
theorem accountedFor_make {resolver : Resolver} (h : resolver.UsesOwnSources) {held : Holding}
    (hfits : held.Fits resolver) (use : Use) :
    (resolver.make held use).Fits resolver ∧
      resolver.AccountedFor ⟨use, held, resolver.make held use⟩ := by
  cases use with
  | accessToken => exact ⟨hfits, accountedFor_accessToken h held⟩
  | client => exact accountedFor_client h hfits
  | call index call =>
      refine ⟨?_, accountedFor_call hfits index call⟩
      rw [make]
      split
      · exact hfits
      · exact hfits

/-- A run that starts with fitting clients is accounted for use by use. -/
theorem accountedFor_run {resolver : Resolver} (h : resolver.UsesOwnSources) {held : Holding}
    (hfits : held.Fits resolver) (turns : List Turn) :
    ∃ made last, resolver.run held turns = (made, last) ∧
      last.world.network.seen = held.world.network.seen ++ made.flatMap Made.requests ∧
      made.map Made.use = turns.map Turn.use ∧
      ∀ one ∈ made, ∃ probed asked sent, resolver.Accounted one probed asked sent := by
  induction turns generalizing held with
  | nil => exact ⟨[], held, rfl, by simp, rfl, by simp⟩
  | cons turn turns ih =>
      -- What happens meanwhile neither makes clients nor takes requests back.
      generalize hbefore : (⟨Client.resume turn.meanwhile held.world, held.clients⟩ : Holding) =
        before
      have hkept : before.Fits resolver := by
        rw [← hbefore]
        exact hfits
      have hresumed : before.world.network.seen = held.world.network.seen := by
        rw [← hbefore]
        rfl
      obtain ⟨hnext, probed, asked, sent, hseen, haccounted⟩ :=
        accountedFor_make h hkept turn.use
      obtain ⟨made, last, hrun, hlast, huses, hall⟩ := ih hnext
      refine ⟨⟨turn.use, before, resolver.make before turn.use⟩ :: made, last, ?_, ?_, ?_, ?_⟩
      · simp only [run, hbefore, hrun]
      · rw [hlast, hseen, hresumed, List.flatMap_cons, haccounted.requests_eq, List.append_assoc]
      · rw [List.map_cons, List.map_cons, huses]
      · rw [List.forall_mem_cons]
        exact ⟨⟨probed, asked, sent, haccounted⟩, hall⟩

/-- Whatever a resolver with sources of its own is used for, and whatever the program does in
between, every token request that the network sees asks for the scopes of the connection and for
the delegate, at the place that the credentials of the use state. -/
theorem token_requests_of_run (resolver : Resolver) (h : resolver.UsesOwnSources) (world : World)
    (turns : List Turn) :
    ∃ made last, resolver.run ⟨world, []⟩ turns = (made, last) ∧
      last.world.network.seen = world.network.seen ++ made.flatMap Made.requests ∧
      made.map Made.use = turns.map Turn.use ∧
      ∀ one ∈ made, ∃ probed asked sent, resolver.Accounted one probed asked sent := by
  have hfits : (⟨world, []⟩ : Holding).Fits resolver := by
    intro client hclient
    cases hclient
  exact accountedFor_run h hfits turns

/-- A resolver with a key of its own, two scopes and a delegate is asked for a token and for a
client, and the client is called after a minute. -/
theorem token_requests_of_run_of_delegate :
    let resolver := ofConnection ⟨none, some "d@example.org", none, none⟩
      ⟨none, some "\x7b\"client_email\":\"a\",\"private_key\":\"\"\x7d", some "first, second", none⟩
    let world : World := ⟨[], .initial, 0, ⟨true, [], [], .ignored⟩, []⟩
    let turns : List Turn :=
      [⟨id, .accessToken⟩, ⟨id, .client⟩,
        ⟨fun world => { world with clock := world.clock + 60 },
          .call 0 (.fetch "http://service/" [])⟩]
    resolver.UsesOwnSources ∧
      ∃ made last, resolver.run ⟨world, []⟩ turns = (made, last) ∧
        last.world.network.seen = world.network.seen ++ made.flatMap Made.requests ∧
        made.map Made.use = turns.map Turn.use ∧
        ∀ one ∈ made, ∃ probed asked sent, resolver.Accounted one probed asked sent :=
  ⟨.inl rfl, token_requests_of_run _ (.inl rfl) _ _⟩

end CloudCredentials.Resolver
