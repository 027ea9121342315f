import CloudCredentials.Credentials

/-!
# Ambient credentials

What the surroundings of the program offer where a connection has no key of its own: the key file
that an environment variable names, and after it the metadata server of the machine. Looking for
them fetches no token.
-/

namespace CloudCredentials

/-- The variable that names a key file. -/
def keyFileVariable : String := "GOOGLE_APPLICATION_CREDENTIALS"

/-- The variable that names the host of the metadata server. -/
def metadataHostVariable : String := "GCE_METADATA_HOST"

/-- The host of the metadata server, unless a variable names another. -/
def defaultMetadataHost : String := "metadata.google.internal"

namespace Ambient

/-- The root of the metadata server: the one that is given, without slashes at its end, or the host
that the environment names. -/
def metadataRoot (given : Option String) (environment : Environment) : String :=
  match given with
  | some root => withoutEndSlashes root
  | none =>
      "http://" ++
        (((environment.text? metadataHostVariable).filter (· ≠ "")).getD defaultMetadataHost)

/-- The credentials of the key file that the environment names, if it names one. -/
def fromKeyFile (scopes : List String) : Action (Option Credentials) := do
  match ← Action.readNonEmptyVariable keyFileVariable with
  | none => return none
  | some path =>
      Action.report .debug .auth ("loading ambient credentials from " ++ keyFileVariable)
        [.plain "path" path]
      return some (.ofKey (← ServiceAccountKey.ofFile path) scopes)

/-- The request that finds out whether there is a metadata server. -/
def probe (root : String) : Http.Request where
  method := "GET"
  address := root ++ "/"
  query := []
  headers := [flavorHeader]
  body := none

/-- The response is one of a metadata server. -/
def isMetadataServer (response : Http.Response) : Bool :=
  Http.isSuccess response.status &&
    response.headers.first? flavorHeader.name == some flavorHeader.value

/-- The credentials of the machine, if there is a metadata server. -/
def fromMachine (given : Option String) (scopes : List String) : Action (Option Credentials) := do
  let root ← Action.ask fun world => metadataRoot given world.environment
  match ← Action.send (probe root) with
  | .error fault =>
      Action.report .debug .auth "metadata server unreachable"
        [.plain "root" root, .plain "err" fault.message]
      return none
  | .ok response =>
      if isMetadataServer response then return some (.ofMachine root scopes)
      else
        Action.report .debug .auth "metadata server did not identify itself"
          [.plain "root" root, .plain "status" (toString response.status)]
        return none

/-- The credentials that the surroundings offer. A key file that cannot be read is an error, and
the metadata server is not asked then. -/
def discover (given : Option String) (scopes : List String) : Action Credentials := do
  match ← fromKeyFile scopes with
  | some credentials => return credentials
  | none =>
      match ← fromMachine given scopes with
      | some credentials => return credentials
      | none =>
          throw (.ambientUnavailable
            (keyFileVariable ++ " is not set and no metadata server answered"))

end Ambient

/-- Where a resolver looks for ambient credentials. -/
inductive AmbientSource where
  /-- The key file that the environment names, and the metadata server after it. -/
  | surroundings
  /-- A token that is already there. -/
  | token (token : String)
  /-- The machine with the metadata server at this root. -/
  | machine (root : String)
  /-- Nowhere. -/
  | failing (error : Error)

/-- Look for ambient credentials. -/
def AmbientSource.discover (source : AmbientSource) (scopes : List String) : Action Credentials :=
  match source with
  | .surroundings => Ambient.discover none scopes
  | .token bearer => return .ofToken bearer scopes
  | .machine root => return .ofMachine root scopes
  | .failing error => throw error

end CloudCredentials
