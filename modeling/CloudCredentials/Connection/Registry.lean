import CloudCredentials.Connection.Document
import CloudCredentials.Text.Uppercase
import CloudCredentials.World.Action

/-!
# Connection registries

A registry finds a connection by its identifier: among those that have been put into it, or in the
environment variable whose name is a prefix and the identifier in upper case.
-/

namespace CloudCredentials

/-- The identifier of the connection that is used when none is named. -/
def defaultConnectionId : String := "google_cloud_default"

/-- Connections by identifier. -/
abbrev Connections := List (String × Connection)

/-- The connections with one more, in the place of an earlier one with its identifier. -/
def Connections.insert (connections : Connections) (identifier : String)
    (connection : Connection) : Connections :=
  (identifier, connection) :: connections.filter (·.1 != identifier)

/-- The connection with an identifier. -/
def Connections.find (connections : Connections) (identifier : String) : Except Error Connection :=
  match connections.lookup identifier with
  | some connection => .ok connection
  | none => .error (.connectionNotFound identifier)

/-- What the names of the variables with connections start with. -/
def connectionVariableStart : String := "AIRFLOW_CONN_"

/-- Where connections are found. -/
inductive Registry where
  | stored (connections : Connections)
  | environment (variableStart : String)

/-- The name of the variable that holds a connection. -/
def connectionVariable (variableStart identifier : String) : String :=
  variableStart ++ Text.upper identifier

/-- The connection with an identifier. -/
def Registry.find (registry : Registry) (identifier : String) : Action Connection :=
  match registry with
  | .stored connections => Action.ofExcept (connections.find identifier)
  | .environment variableStart => do
      let name := connectionVariable variableStart identifier
      match ← Action.readVariable name with
      | none => throw (.connectionNotFound identifier)
      | some text =>
          Action.report .debug .connection "loaded connection from environment"
            [⟨"conn_id", identifier, true⟩, .plain "variable" name]
          Action.ofExcept (Connection.ofDocument identifier text)

end CloudCredentials
