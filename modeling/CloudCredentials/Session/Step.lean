import CloudCredentials.CredentialFile
import CloudCredentials.Resolver
import CloudCredentials.ServiceAccount.Source

/-!
# Steps of a session

A session is a list of steps that make resolvers, credentials, clients and guards, keep them under
names and use them, in a world that other steps change in between.
-/

namespace CloudCredentials.Session

/-- The name under which a session keeps an object. Objects of different types do not get in each
other's way. -/
abbrev ObjectName := String

/-- Where a bearer token of a client comes from. Credentials are those that the session keeps. -/
inductive ProviderPlan where
  | fixed (token : String)
  | failing (error : Error)
  | kept (credentials : ObjectName)

/-- A decoration of a client. -/
inductive DecorationPlan where
  | userAgent (product : String)
  | bearer (provider : ProviderPlan)

/-- How a client is made. -/
inductive ClientPlan where
  /-- The usual client. -/
  | usual (provider : ProviderPlan) (userAgent : String)
  /-- A client with these decorations. -/
  | decorated (decorations : List DecorationPlan)

/-- Where a connection is found. -/
inductive RegistryPlan where
  /-- The registry of the session. -/
  | stored
  /-- The environment variables whose names start like this. -/
  | environment (variableStart : String)

/-- Where the connection of a resolver comes from. -/
inductive ConnectionPlan where
  | given (connection : Connection)
  | found (registry : RegistryPlan)

/-- How credentials are made. -/
inductive CredentialsPlan where
  | ofKey (key : KeyRequest) (scopes : List String)
  | ofMachine (root : String) (scopes : List String)
  | ofToken (token : String) (scopes : List String)
  /-- What the surroundings offer, with the metadata server at this root if one is given. -/
  | discovered (metadataRoot : Option String) (scopes : List String)

/-- The parameters of an operation on a data set of a project. -/
structure DatasetParameters where
  project : Option String
  dataset : Option String
deriving DecidableEq, Repr

instance : ProjectScoped DatasetParameters where
  project := DatasetParameters.project
  withProject parameters project := { parameters with project := some project }

/-- An operation that hands its parameters back, or fails. -/
def handBack {m : Type → Type} [Monad m] [MonadExceptOf Error m] {α : Type}
    (failure : Option Error) (parameters : α) : m α :=
  match failure with
  | some error => throw error
  | none => pure parameters

/-- What a resolver is asked for. -/
inductive ResolverUse where
  | credentials (keepAs : Option ObjectName)
  | accessToken
  | client (keepAs : ObjectName)
  | field (name : String) (default : Option String)
  | connection
  | shown
  | withProject (parameters : DatasetParameters) (failure : Option Error)
  | withProjectArguments (call : CallArguments) (failure : Option Error)

/-- What credentials are asked for. -/
inductive CredentialsUse where
  | withSubject (subject : String) (keepAs : ObjectName)
  | token
  | description
  | shown

/-- What a client is asked for. -/
inductive ClientUse where
  | headers (headers : Http.Headers)
  | request (method address : String) (headers : Http.Headers) (body : Option Bytes)

/-- An operation of a session. -/
inductive Operation where
  /-- Set a variable of the environment, or unset it. -/
  | setVariable (name : String) (value : Option Bytes)
  | readVariable (name : String)
  /-- Put a file or directory at a path, or remove what is there. -/
  | setNode (path : String) (node : Option Node)
  /-- Let the network reply with these when the replies before them have been given. -/
  | addReplies (replies : List Http.Reply)
  | insertConnection (identifier : String) (connection : Connection)
  | findConnection (registry : RegistryPlan) (identifier : String)
  | makeResolver (keepAs : ObjectName) (connection : ConnectionPlan) (options : ResolverOptions)
  | useResolver (resolver : ObjectName) (use : ResolverUse)
  | makeCredentials (keepAs : ObjectName) (plan : CredentialsPlan)
  | useCredentials (credentials : ObjectName) (use : CredentialsUse)
  | makeClient (keepAs : ObjectName) (plan : ClientPlan)
  | useClient (client : ObjectName) (use : ClientUse)
  | acquireGuard (keepAs : ObjectName) (connection : Connection)
  | releaseGuard (guard : ObjectName)

/-- A step of a session. -/
inductive Step where
  | operation (operation : Operation)
  /-- Run steps while the key of a connection is exported, and fail after them if told so. The
  connection is given or that of a resolver. -/
  | withCredentialFile (connection : ObjectName ⊕ Connection) (steps : List Step)
      (failure : Option Error)

end CloudCredentials.Session
