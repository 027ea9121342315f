import CloudCredentials.Ambient
import CloudCredentials.Client
import CloudCredentials.Connection.Registry
import CloudCredentials.Project

/-!
# Resolvers

A resolver is made for one connection and keeps its settings. Each time it is asked it decides anew
where the credentials come from, and makes them. Nothing is kept between two calls.
-/

namespace CloudCredentials

/-- Makes credentials and clients for a connection. -/
structure Resolver where
  connectionId : String
  delegate : Option String
  connection : Connection
  ambient : AmbientSource
  userAgent : String

/-- What a resolver is made with. Whatever is left out has a default. -/
structure ResolverOptions where
  connectionId : Option String
  delegate : Option String
  ambient : Option AmbientSource
  userAgent : Option String

namespace Resolver

/-- The resolver for a connection whose settings are known. -/
def ofConnection (options : ResolverOptions) (connection : Connection) : Resolver where
  connectionId := options.connectionId.getD defaultConnectionId
  delegate := options.delegate
  connection := connection
  ambient := options.ambient.getD .surroundings
  userAgent := options.userAgent.getD defaultUserAgent

/-- The resolver for a connection of a registry. -/
def ofRegistry (options : ResolverOptions) (registry : Registry) : Action Resolver := do
  return ofConnection options (← registry.find (options.connectionId.getD defaultConnectionId))

/-- Make credentials from a source. -/
def fromSource (resolver : Resolver) (source : CredentialSource) : Action Credentials := do
  let scopes := resolver.connection.scopes
  let identifier := LogField.plain "conn_id" resolver.connectionId
  match source with
  | .ambient =>
      Action.report .info .auth
        "Getting connection using default credentials since no key file is defined for hook."
        [identifier]
      resolver.ambient.discover scopes
  | .keyFile path =>
      Action.report .debug .auth "Getting connection using JSON key file"
        [identifier, .plain "path" path]
      return .ofKey (← ServiceAccountKey.ofFile path) scopes
  | .keyData text =>
      Action.report .debug .auth "Getting connection using JSON key data from the connection"
        [identifier]
      return .ofKey (← Action.ofExcept (ServiceAccountKey.ofFormText text)) scopes

/-- Make the credentials of the connection, acting for the delegate if there is one. -/
def credentials (resolver : Resolver) : Action Credentials := do
  if resolver.connection.keyPath.isSome && resolver.connection.keyData.isSome then
    Action.report .debug .auth "both key_path and keyfile_dict are set, using key_path"
      [.plain "conn_id" resolver.connectionId]
  let source ← Action.ofExcept resolver.connection.source
  let credentials ← resolver.fromSource source
  match resolver.delegate with
  | some subject => Action.ofExcept (credentials.withSubject subject)
  | none => return credentials

/-- Make credentials and fetch a token. -/
def accessToken (resolver : Resolver) : Action String := do
  (← resolver.credentials).token

/-- Make credentials and a client that uses them. -/
def client (resolver : Resolver) : Action Client := do
  return .withCredentials (.credentials (← resolver.credentials)) resolver.userAgent

/-- A setting of the connection, or a default. -/
def field (resolver : Resolver) (name : String) (default : Option String) : Option String :=
  (resolver.connection.field name).or default

/-- The default project of the connection. -/
def project (resolver : Resolver) : Option String :=
  resolver.field Setting.project.name none

/-- The default project is the project of the connection. -/
theorem project_eq (resolver : Resolver) : resolver.project = resolver.connection.project :=
  Option.or_none

/-- Run an operation on the project that its parameters or the connection name. -/
def withProject {m : Type → Type} [Monad m] [MonadExceptOf Error m] {Parameters α : Type}
    [ProjectScoped Parameters] (resolver : Resolver) (parameters : Parameters)
    (operation : Parameters → m α) : m α :=
  withChosenProject resolver.project parameters operation

/-- Run an operation on the project that its keyword arguments or the connection name. -/
def withProjectArguments {m : Type → Type} [Monad m] [MonadExceptOf Error m] {α : Type}
    (resolver : Resolver) (call : CallArguments) (operation : CallArguments → m α) : m α :=
  withChosenProjectArguments resolver.project call operation

/-- How diagnostics show a resolver. The connection is left out. -/
def shown (resolver : Resolver) : String :=
  "CredentialResolver \x7b conn_id: " ++ Text.quoted resolver.connectionId ++
    ", delegate_to: " ++ Text.quotedOption resolver.delegate ++
    ", user_agent: " ++ Text.quoted resolver.userAgent ++ ", .. \x7d"

end Resolver

end CloudCredentials
