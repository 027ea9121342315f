import CloudCredentials.Proofs.Client.Likeness
import CloudCredentials.Proofs.Resolver.Runs
import CloudCredentials.Proofs.Session.Moments

/-!
# What a session keeps and what it looks up anew

A resolver keeps the connection that it was made with, whatever becomes of the registry and its
variables, but it makes credentials anew each time, in the world as it is then. A client keeps its
credentials, and with them the key, whatever becomes of the key file. `snapshots` is the main
statement.
-/

namespace CloudCredentials

/-! ## Registries -/

/-- The event that tells that a connection has been found in a variable of the environment. -/
def Registry.loaded (identifier name : String) : Event :=
  ⟨.debug, .connection, "loaded connection from environment",
    [⟨"conn_id", identifier, true⟩, .plain "variable" name]⟩

/-- A connection is not found in an environment that does not have its variable set to a text. -/
theorem Registry.runIn_find_of_none {variableStart identifier : String} {world : World}
    (h : world.environment.text? (variableStart ++ Text.upper identifier) = none) :
    ((Registry.environment variableStart).find identifier).runIn world =
      (.error (.connectionNotFound identifier), world) := by
  rw [Registry.find, connectionVariable, Action.readVariable,
    Action.runIn_bind_of_ok (Action.runIn_ask _ world), h]
  rfl

/-- A connection in the environment is the one that the text of its variable describes. -/
theorem Registry.runIn_find_of_some {variableStart identifier text : String} {world : World}
    (h : world.environment.text? (variableStart ++ Text.upper identifier) = some text) :
    ((Registry.environment variableStart).find identifier).runIn world =
      (Connection.ofDocument identifier text,
        { world with
          log := world.log ++ [loaded identifier (variableStart ++ Text.upper identifier)] }) := by
  rw [Registry.find, connectionVariable, Action.readVariable,
    Action.runIn_bind_of_ok (Action.runIn_ask _ world), h]
  simp only
  rw [Action.runIn_bind_of_ok (Action.runIn_report _ _ _ _ world), Action.runIn_ofExcept]
  rfl

/-! ## Clients -/

/-- Whatever is called on the client comes to the same, with the same requests and events, in every
environment and whatever files there are. -/
def Client.IgnoresSurroundings (client : Client) : Prop :=
  ∀ (call : Client.Call) (world : World) (environment : Environment) (files : FileSystem),
    let there := (call.perform client).runIn { world with environment, files }
    let here := (call.perform client).runIn world
    there.1 = here.1 ∧ there.2.network = here.2.network ∧ there.2.log = here.2.log

/-- The surroundings may be anything. -/
def Likeness.anywhere : Likeness := ⟨fun _ _ => True, fun _ _ => True, Eq⟩

/-- The usual client with credentials ignores the surroundings. -/
theorem Client.ignoresSurroundings_withCredentials (credentials : Credentials)
    (userAgent : String) :
    (withCredentials (.credentials credentials) userAgent).IgnoresSurroundings := by
  rw [withCredentials_eq_marking]
  intro call world environment files there here
  have hrequests : Http.Congruent Likeness.anywhere.requests := Http.congruent_eq
  have hworlds : World.Alike .anywhere world { world with environment, files } :=
    .of_surroundings trivial trivial hrequests
  have htokens : Likeness.anywhere.Alike Eq (TokenProvider.credentials credentials).token
      (TokenProvider.credentials credentials).token := Likeness.alike_token hrequests credentials
  obtain ⟨houtcome, hafter⟩ := Likeness.alike_perform (Likeness.decorates_eq hrequests) htokens
    [.token, .product userAgent] call hworlds
  exact ⟨(alikeOutcome_eq_iff.1 houtcome).symm, hafter.network_eq.symm, hafter.log.symm⟩

namespace Session

/-! ## Resolvers and clients of a session -/

/-- `Found state identifier plan connection` says that the registry of a plan has this connection
in a state. -/
inductive Found (state : State) (identifier : String) : RegistryPlan → Connection → Prop where
  | stored {connection : Connection}
      (h : state.objects.connections.find identifier = .ok connection) :
      Found state identifier .stored connection
  | environment {connection : Connection} (variableStart text : String)
      (htext : state.world.environment.text? (variableStart ++ Text.upper identifier) = some text)
      (hdocument : Connection.ofDocument identifier text = .ok connection) :
      Found state identifier (.environment variableStart) connection

/-- A registry finds what it has. -/
theorem found_of_find {state : State} {identifier : String} {plan : RegistryPlan}
    {connection : Connection} {after : World}
    (h : ((state.registry plan).find identifier).runIn state.world = (.ok connection, after)) :
    Found state identifier plan connection := by
  cases plan with
  | stored =>
      have hfind := (Action.runIn_ofExcept _ _).symm.trans h
      exact .stored (congrArg Prod.fst hfind)
  | environment variableStart =>
      cases htext : state.world.environment.text? (variableStart ++ Text.upper identifier) with
      | none =>
          have hfind := (Registry.runIn_find_of_none htext).symm.trans h
          cases congrArg Prod.fst hfind
      | some text =>
          have hfind := (Registry.runIn_find_of_some htext).symm.trans h
          exact .environment variableStart text htext (congrArg Prod.fst hfind)

/-- A resolver that has been made from a registry is kept with the connection that was found. -/
theorem found_of_makeResolver {state built : State} {name : ObjectName} {plan : RegistryPlan}
    {options : ResolverOptions} {answer : Answer}
    (h : state.makeResolver name (.found plan) options = (.ok answer, built)) :
    ∃ connection, Found state (options.connectionId.getD defaultConnectionId) plan connection ∧
      built.objects.resolvers.find? name = some (.ofConnection options connection) := by
  rw [State.makeResolver, State.perform] at h
  simp only [Resolver.ofRegistry, Action.runIn_bind] at h
  rcases hfind : ((state.registry plan).find
    (options.connectionId.getD defaultConnectionId)).runIn state.world with ⟨outcome, after⟩
  rw [hfind] at h
  cases outcome with
  | error error => cases congrArg Prod.fst h
  | ok connection =>
      obtain rfl : State.mk after _ = built := congrArg Prod.snd h
      exact ⟨connection, found_of_find hfind, Named.find?_keep_self _ _ _⟩

/-- A resolver is made for every connection that its registry finds. -/
theorem makeResolver_of_find {state : State} {plan : RegistryPlan} {options : ResolverOptions}
    {connection : Connection} {after : World}
    (h : ((state.registry plan).find (options.connectionId.getD defaultConnectionId)).runIn
      state.world = (.ok connection, after)) (name : ObjectName) :
    state.makeResolver name (.found plan) options =
      (.ok (.resolver (.ofConnection options connection)),
        ⟨after, { state.objects with
          resolvers :=
            state.objects.resolvers.keep name (.ofConnection options connection) }⟩) := by
  rw [State.makeResolver, State.perform]
  simp only [Resolver.ofRegistry, Action.runIn_bind, h]
  rfl

/-- `KeepsResolver state name options connection` says that what a state keeps under a name works
as a resolver that is made for the connection in that very state. -/
structure KeepsResolver (state : State) (name : ObjectName) (options : ResolverOptions)
    (connection : Connection) : Prop where
  kept_eq : state.objects.resolvers.find? name = some (.ofConnection options connection)
  connection_eq :
    (Operation.useResolver name .connection).effect state =
      state.answering (.connection connection)
  field_eq (field : String) (default : Option String) :
    (Operation.useResolver name (.field field default)).effect state =
      state.answering (.text ((connection.field field).or default))
  withProject_eq (parameters : DatasetParameters) (failure : Option Error) :
    (Operation.useResolver name (.withProject parameters failure)).effect state =
      state.tell (withChosenProject connection.project parameters (handBack failure)) .parameters
  withProjectArguments_eq (call : CallArguments) (failure : Option Error) :
    (Operation.useResolver name (.withProjectArguments call failure)).effect state =
      state.tell (withChosenProjectArguments connection.project call (handBack failure)) .call
  /-- The key that is exported is that of the connection. -/
  connection?_eq : state.connection? (.inl name) = some connection
  credentials_eq (keepAs : Option ObjectName) :
    (Operation.useResolver name (.credentials keepAs)).effect state =
      state.perform (Resolver.ofConnection options connection).credentials
        (State.keepCredentials keepAs)
  accessToken_eq :
    (Operation.useResolver name .accessToken).effect state =
      state.tell (Resolver.ofConnection options connection).accessToken (.text ∘ some)
  client_eq (keepAs : ObjectName) :
    (Operation.useResolver name (.client keepAs)).effect state =
      state.perform (Resolver.ofConnection options connection).client fun objects client =>
        (.nothing, { objects with clients := objects.clients.keep keepAs client })
  /-- The world as it is now decides what the credentials are. -/
  chosen (h : (Resolver.ofConnection options connection).UsesOwnSources) :
    ∃ given, Chosen connection state.world given ∧
      ((Resolver.ofConnection options connection).credentials.runIn state.world).1 =
        given.bind (·.actingFor options.delegate)

/-- A state keeps the resolver that is found under a name. -/
theorem keepsResolver_of_find? {state : State} {name : ObjectName} {options : ResolverOptions}
    {connection : Connection}
    (h : state.objects.resolvers.find? name = some (.ofConnection options connection)) :
    KeepsResolver state name options connection := by
  have huse : ∀ use, (Operation.useResolver name use).effect state =
      state.useResolver (.ofConnection options connection) use := by
    intro use
    rw [Operation.effect, h]
    rfl
  have hproject : (Resolver.ofConnection options connection).project = connection.project :=
    Resolver.project_eq _
  constructor
  case kept_eq => exact h
  case connection_eq => exact huse _
  case field_eq => exact fun field default => huse _
  case withProject_eq =>
    intro parameters failure
    rw [huse, State.useResolver, Resolver.withProject, hproject]
  case withProjectArguments_eq =>
    intro call failure
    rw [huse, State.useResolver, Resolver.withProjectArguments, hproject]
  case connection?_eq =>
    rw [State.connection?, h]
    rfl
  case credentials_eq => exact fun keepAs => huse _
  case accessToken_eq => exact huse _
  case client_eq => exact fun keepAs => huse _
  case chosen =>
    intro hown
    obtain ⟨given, events, hchosen, hrun⟩ := Resolver.runIn_credentials_chosen
      (.ofConnection options connection) state.world (hown.imp_right fun hkey => hkey.source_ne)
    exact ⟨given, hchosen, congrArg Prod.fst hrun⟩

/-- `KeepsClient state name client` says that a state keeps a client under a name. -/
structure KeepsClient (state : State) (name : ObjectName) (client : Client) : Prop where
  headers_eq (headers : Http.Headers) :
    (Operation.useClient name (.headers headers)).effect state =
      state.tell (client.prepareHeaders headers) fun prepared =>
        .headers (Http.Headers.sorted prepared)
  request_eq (method address : String) (headers : Http.Headers) (body : Option Bytes) :
    (Operation.useClient name (.request method address headers body)).effect state =
      state.tell (client.request method address headers body) .response

/-- A state keeps the client that is found under a name. -/
theorem keepsClient_of_find? {state : State} {name : ObjectName} {client : Client}
    (h : state.objects.clients.find? name = some client) : KeepsClient state name client := by
  have huse : ∀ use, (Operation.useClient name use).effect state = state.useClient client use := by
    intro use
    rw [Operation.effect, h]
    rfl
  constructor
  case headers_eq => exact fun headers => huse _
  case request_eq => exact fun method address headers body => huse _

/-- A client that a resolver has made is kept with the credentials of that time. -/
theorem credentials_of_makeClient {state built : State} {name keepAs : ObjectName}
    (h : (Operation.useResolver name (.client keepAs)).effect state = (.ok .nothing, built)) :
    ∃ resolver credentials, state.objects.resolvers.find? name = some resolver ∧
      resolver.credentials.runIn state.world = (.ok credentials, built.world) ∧
      built.objects.clients.find? keepAs =
        some (.withCredentials (.credentials credentials) resolver.userAgent) := by
  rw [Operation.effect] at h
  cases hresolver : state.objects.resolvers.find? name with
  | none =>
      rw [hresolver] at h
      cases congrArg Prod.fst h
  | some resolver =>
      rw [hresolver, withObject, State.useResolver, State.perform] at h
      simp only [Resolver.client, Action.runIn_bind] at h
      rcases hrun : resolver.credentials.runIn state.world with ⟨outcome, after⟩
      rw [hrun] at h
      cases outcome with
      | error error => cases congrArg Prod.fst h
      | ok credentials =>
          obtain rfl : State.mk after _ = built := congrArg Prod.snd h
          exact ⟨resolver, credentials, rfl, hrun, Named.find?_keep_self _ _ _⟩

/-- A client is made whenever its resolver can make credentials. -/
theorem makeClient_of_credentials {state : State} {name : ObjectName} {resolver : Resolver}
    {credentials : Credentials} (h : state.objects.resolvers.find? name = some resolver)
    (hcredentials : (resolver.credentials.runIn state.world).1.toOption = some credentials)
    (keepAs : ObjectName) :
    ∃ built,
      (Operation.useResolver name (.client keepAs)).effect state = (.ok .nothing, built) := by
  rw [Operation.effect, h, withObject, State.useResolver, State.perform]
  simp only [Resolver.client, Action.runIn_bind]
  rcases hrun : resolver.credentials.runIn state.world with ⟨outcome, after⟩
  rw [hrun] at hcredentials
  cases outcome with
  | error error => cases hcredentials
  | ok made => exact ⟨_, rfl⟩

/-- A session keeps connections and clients and looks everything else up anew. A resolver from a
registry works, at every later moment, as one made at that moment for the connection that was found
when it was made. A client uses the credentials of the time when it was made, wherever it is called.
Only guards change the environment and the files, and operations that stand for the rest of the
program. A registry of environment variables reads one variable, whose name is the prefix and the
identifier in upper case. -/
theorem snapshots :
    (∀ (start built : State) (name : ObjectName) (plan : RegistryPlan) (options : ResolverOptions)
      (answer : Answer), start.makeResolver name (.found plan) options = (.ok answer, built) →
      ∃ connection, Found start (options.connectionId.getD defaultConnectionId) plan connection ∧
        ∀ later, Moment (Operation.LeavesResolver name) built later →
          KeepsResolver later name options connection) ∧
    (∀ (start built : State) (name keepAs : ObjectName),
      (Operation.useResolver name (.client keepAs)).effect start = (.ok .nothing, built) →
      ∃ resolver credentials, start.objects.resolvers.find? name = some resolver ∧
        resolver.credentials.runIn start.world = (.ok credentials, built.world) ∧
        (Client.withCredentials (.credentials credentials)
          resolver.userAgent).IgnoresSurroundings ∧
        ∀ later, Moment (Operation.LeavesClient keepAs) built later →
          KeepsClient later keepAs
            (.withCredentials (.credentials credentials) resolver.userAgent)) ∧
    (∀ (operation : Operation) (state : State), ¬ operation.UsesGuard →
      (operation.effect state).2.world.surroundings =
        operation.outside state.world.surroundings) ∧
    (∀ (operations : List Operation) (state : State),
      (∀ operation ∈ operations, ¬ operation.UsesGuard) →
      (runSteps state (operations.map .operation)).2.world.surroundings =
        operations.foldl (fun surroundings operation => operation.outside surroundings)
          state.world.surroundings) ∧
    (∀ (state : State) (source : ObjectName ⊕ Connection) (connection : Connection)
      (steps : List Step) (failure : Option Error), state.connection? source = some connection →
      (runStep state (.withCredentialFile source steps failure)).2 =
        afterNested state connection steps) ∧
    ∀ (variableStart identifier : String) (world : World),
      let found := ((Registry.environment variableStart).find identifier).runIn world
      let name := variableStart ++ Text.upper identifier
      (world.environment.text? name = none →
        found = (.error (.connectionNotFound identifier), world)) ∧
      (∀ document, world.environment.text? name = some document →
        found = (Connection.ofDocument identifier document,
          { world with log := world.log ++ [Registry.loaded identifier name] })) ∧
      ((∀ character ∈ identifier.toList, character.toNat < 128) →
        name = variableStart ++ String.ofList (identifier.toList.map Char.toUpper)) := by
  refine ⟨?_, ?_, ?_, ?_, ?_, ?_⟩
  · intro start built name plan options answer hmade
    obtain ⟨connection, hfound, hkept⟩ := found_of_makeResolver hmade
    refine ⟨connection, hfound, fun later hlater => keepsResolver_of_find? ?_⟩
    rw [find?_resolvers_moment hlater, hkept]
  · intro start built name keepAs hmade
    obtain ⟨resolver, credentials, hresolver, hrun, hkept⟩ := credentials_of_makeClient hmade
    refine ⟨resolver, credentials, hresolver, hrun,
      Client.ignoresSurroundings_withCredentials credentials resolver.userAgent, ?_⟩
    intro later hlater
    refine keepsClient_of_find? ?_
    rw [find?_clients_moment hlater, hkept]
  · exact fun operation state hguard => surroundings_effect hguard state
  · exact fun operations state hguards => surroundings_runSteps state operations hguards
  · exact fun state source connection steps failure hsource =>
      snd_runStep_withCredentialFile hsource steps failure
  · intro variableStart identifier world found name
    refine ⟨Registry.runIn_find_of_none, fun document => Registry.runIn_find_of_some, fun h => ?_⟩
    show variableStart ++ Text.upper identifier = _
    rw [Text.upper_of_ascii h]

/-- The variable with a connection and the key file that it names are removed. The resolver and the
client that were made before that work on, and a registry does not find the connection any more. -/
theorem snapshots_of_removed :
    let name := connectionVariableStart ++ Text.upper defaultConnectionId
    let document := "\x7b\"extra\":\x7b\"key_path\":\"key.json\"\x7d\x7d"
    let keyText := "\x7b\"private_key\":\"secret\",\"client_email\":\"client\"\x7d"
    let files := FileSystem.initial.write "key.json" (.file (Bytes.ofText keyText))
    let start : State :=
      ⟨⟨[(name, Bytes.ofText document)], files, 0, ⟨true, [], [], .ignored⟩, []⟩, .empty⟩
    let options : ResolverOptions := ⟨none, none, none, none⟩
    let plan : RegistryPlan := .environment connectionVariableStart
    let removals : List Operation := [.setVariable name none, .setNode "key.json" none]
    ∃ answer built made connection, ∃ resolver : Resolver, ∃ credentials,
      start.makeResolver "resolver" (.found plan) options = (.ok answer, built) ∧
      Found start defaultConnectionId plan connection ∧
      KeepsResolver (runSteps built (removals.map .operation)).2 "resolver" options connection ∧
      (Operation.useResolver "resolver" (.client "client")).effect built = (.ok .nothing, made) ∧
      resolver.credentials.runIn built.world = (.ok credentials, made.world) ∧
      KeepsClient (runSteps made (removals.map .operation)).2 "client"
        (.withCredentials (.credentials credentials) resolver.userAgent) ∧
      (runSteps made (removals.map .operation)).2.world.surroundings =
        removals.foldl (fun surroundings operation => operation.outside surroundings)
          made.world.surroundings := by
  intro name document keyText files start options plan removals
  let connection : Connection := ⟨some "key.json", none, none, none⟩
  have htext : start.world.environment.text? name = some document := by
    simp only [start, Environment.text?, Environment.get?, List.lookup_cons_self,
      Option.bind_some, Bytes.text?_ofText]
  have hdocument : Connection.ofDocument defaultConnectionId document = .ok connection := by
    have hread : (Connection.ofDocument defaultConnectionId document).toOption =
        some connection := by decide +kernel
    cases hparsed : Connection.ofDocument defaultConnectionId document with
    | error error =>
        rw [hparsed] at hread
        cases hread
    | ok parsed =>
        rw [hparsed] at hread
        rw [Option.some.inj hread]
  have hfind : ((start.registry plan).find
      (options.connectionId.getD defaultConnectionId)).runIn start.world = (.ok connection, _) :=
    (Registry.runIn_find_of_some htext).trans (congrArg (Prod.mk · _) hdocument)
  let built : State :=
    ⟨{ start.world with log := [Registry.loaded defaultConnectionId name] },
      { start.objects with
        resolvers := Named.keep [] "resolver" (.ofConnection options connection) }⟩
  have hmade : start.makeResolver "resolver" (.found plan) options = (.ok _, built) :=
    makeResolver_of_find hfind "resolver"
  have hkept : built.objects.resolvers.find? "resolver" =
      some (.ofConnection options connection) := Named.find?_keep_self _ _ _
  have hcredentials : ((Resolver.ofConnection options connection).credentials.runIn
      built.world).1.toOption =
      some (.ofKey ⟨none, none, none, "client", none, none, "secret"⟩ connection.scopes) := by
    decide +kernel
  obtain ⟨found, hfound, hresolver⟩ := snapshots.1 _ _ _ _ _ _ hmade
  obtain ⟨made, hclient⟩ := makeClient_of_credentials hkept hcredentials "client"
  obtain ⟨resolver, credentials, _, hrun, _, hworks⟩ := snapshots.2.1 _ _ _ _ hclient
  refine ⟨_, _, made, found, resolver, credentials, hmade, hfound, ?_, hclient, hrun, ?_, ?_⟩
  · have hleaves : none ≠ some "resolver" := (Option.some_ne_none _).symm
    exact hresolver _ (moment_runSteps .start ⟨hleaves, hleaves, trivial⟩)
  · have hleaves : none ≠ some "client" := (Option.some_ne_none _).symm
    exact hworks _ (moment_runSteps .start ⟨hleaves, hleaves, trivial⟩)
  · exact snapshots.2.2.2.1 removals made (by simp [removals, Operation.UsesGuard])

end Session

end CloudCredentials
