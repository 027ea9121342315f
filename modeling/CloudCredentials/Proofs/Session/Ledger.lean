import CloudCredentials.Proofs.Client.Calls
import CloudCredentials.Session.Run

/-!
# The ledger of a session

The ledger of a session has an entry for each time that a resolver is asked for credentials, that
credentials are asked for a token, and that a client is asked to send a request, with the world in
which that happens, in the order in which it happens. `stepsEntries` is the ledger of steps. It
follows the steps as they are run, so calls that other calls make have entries of their own, and
what is not reached has none, such as the steps after one in which the program stops.
-/

namespace CloudCredentials.Session

/-- A call on the library, with the world in which it is made. -/
inductive Entry where
  | credentials (resolver : Resolver) (world : World)
  | token (credentials : Credentials) (world : World)
  | request (client : Client) (call : Client.Call) (world : World)

/-- The entries of an action, and of what comes after it unless it fails. -/
def andThen {α : Type} (entries : World → List Entry) (action : Action α)
    (next : α → World → List Entry) (world : World) : List Entry :=
  entries world ++
    match action.runIn world with
    | (.ok value, between) => next value between
    | (.error _, _) => []

/-- The entries of what calls nothing. -/
def noEntries (_ : World) : List Entry := []

/-- Where nothing is called after an action, the entries are those of the action. -/
theorem andThen_last {α : Type} (entries : World → List Entry) (action : Action α) :
    andThen entries action (fun _ => noEntries) = entries := by
  funext world
  rw [andThen]
  rcases action.runIn world with ⟨outcome, between⟩
  cases outcome <;> exact List.append_nil _

/-! ## Calls that other calls make -/

/-- The entries of a request for credentials. -/
def credentialsEntries (resolver : Resolver) (world : World) : List Entry :=
  [.credentials resolver world]

/-- The entries of a request for a token. -/
def tokenEntries (credentials : Credentials) (world : World) : List Entry :=
  [.token credentials world]

/-- The entries of a provider. Only credentials are asked for a token. -/
def providerEntries : TokenProvider → World → List Entry
  | .credentials held => tokenEntries held
  | .fixed _ => noEntries
  | .failing _ => noEntries

/-- The entries of a decoration. -/
def decorationEntries : Decoration → World → List Entry
  | .bearer provider => providerEntries provider
  | .userAgent _ => noEntries

/-- The entries of decorations, each of which works on the headers that the one before it makes. -/
def chainEntries : List Decoration → Http.Headers → World → List Entry
  | [], _ => noEntries
  | decoration :: decorations, headers =>
      andThen (decorationEntries decoration) (decoration.apply headers) (chainEntries decorations)

/-- The entries of a call on a client: those of its decorations, and its own. -/
def callEntries (client : Client) (call : Client.Call) (world : World) : List Entry :=
  chainEntries client.decorations call.stated.headers world ++ [.request client call world]

/-! ## Operations -/

/-- The entries of what a resolver is asked for. -/
def resolverUseEntries (resolver : Resolver) : ResolverUse → World → List Entry
  | .credentials _ => credentialsEntries resolver
  | .accessToken => andThen (credentialsEntries resolver) resolver.credentials tokenEntries
  | .client _ => credentialsEntries resolver
  | _ => noEntries

/-- The entries of what credentials are asked for. -/
def credentialsUseEntries (credentials : Credentials) : CredentialsUse → World → List Entry
  | .token => tokenEntries credentials
  | _ => noEntries

/-- The entries of what a client is asked for. -/
def clientUseEntries (client : Client) : ClientUse → World → List Entry
  | .headers headers => chainEntries client.decorations headers
  | .request method address headers body =>
      callEntries client (.request method address headers body)

/-- The entries of what is done with an object, if there is one. -/
def objectEntries {α : Type} (object : Option α) (entries : α → World → List Entry) :
    World → List Entry :=
  object.elim noEntries entries

/-- The entries of an operation. -/
def Operation.entries (state : State) : Operation → World → List Entry
  | .useResolver name use =>
      objectEntries (state.objects.resolvers.find? name) fun resolver =>
        resolverUseEntries resolver use
  | .useCredentials name use =>
      objectEntries (state.objects.credentials.find? name) fun credentials =>
        credentialsUseEntries credentials use
  | .useClient name use =>
      objectEntries (state.objects.clients.find? name) fun client =>
        clientUseEntries client use
  | _ => noEntries

/-! ## Steps -/

mutual

/-- The entries of a step. -/
def stepEntries (state : State) : Step → List Entry
  | .operation operation => operation.entries state state.world
  | .withCredentialFile source steps _ =>
      match state.connection? source with
      | none => []
      | some connection =>
          match (Guard.acquire connection).runIn state.world with
          | (.error _, _) => []
          | (.ok _, opened) => stepsEntries ⟨opened, state.objects⟩ steps

/-- The entries of steps. -/
def stepsEntries (state : State) : List Step → List Entry
  | [] => []
  | step :: steps =>
      stepEntries state step ++
        match runStep state step with
        | (none, _) => []
        | (some _, next) => stepsEntries next steps

end

end CloudCredentials.Session
