/-!
# Events

What the library tells its log: a level, the part of the library that speaks, a message and fields.
-/

namespace CloudCredentials

/-- How severe an event is. -/
inductive Level where
  | error
  | warn
  | info
  | debug
  | trace
deriving DecidableEq, Repr

namespace Level

/-- All levels, the most severe first. -/
def all : List Level := [.error, .warn, .info, .debug, .trace]

/-- The place of a level in the order, counted from one at the most severe. -/
def rank : Level → Nat
  | .error => 1
  | .warn => 2
  | .info => 3
  | .debug => 4
  | .trace => 5

/-- The name of a level. -/
def name : Level → String
  | .error => "ERROR"
  | .warn => "WARN"
  | .info => "INFO"
  | .debug => "DEBUG"
  | .trace => "TRACE"

/-- The level at a place in the order. -/
def ofRank? (rank : Nat) : Option Level :=
  all.find? (·.rank == rank)

end Level

/-- A part of the library that speaks in the log. -/
inductive Speaker where
  | connection
  | auth
  | http
  | credentialFile
deriving DecidableEq, Repr

/-- The name under which the parts of the library speak. -/
def logRoot : String := "gcp_base_hook"

/-- The target of the events of a part. -/
def Speaker.target : Speaker → String
  | .connection => logRoot ++ "::connection"
  | .auth => logRoot ++ "::auth"
  | .http => logRoot ++ "::http"
  | .credentialFile => logRoot ++ "::credential_file"

/-- A field of an event. A quoted one is shown between quotes in a line of text. -/
structure LogField where
  name : String
  value : String
  quoted : Bool
deriving DecidableEq, Repr

/-- An event. -/
structure Event where
  level : Level
  speaker : Speaker
  message : String
  fields : List LogField
deriving DecidableEq, Repr

/-- A field that is shown as it is. -/
def LogField.plain (name value : String) : LogField := ⟨name, value, false⟩

end CloudCredentials
