import CloudCredentials.Session.Step

/-!
# Reports of steps

The report of a step has its outcome, the requests that the network has seen during the step and
the events that were logged. The names of temporary files cannot be foreseen, so `maskedPath` puts a
mark in their place.
-/

namespace CloudCredentials.Session

/-- What stands for the path of a temporary file. -/
def temporaryWord : String := "<TEMP>"

/-- A path, or the mark in the place of that of a temporary file. -/
def maskedPath (path : String) : String :=
  if FileSystem.isTemporary path then temporaryWord else path

/-- An event without paths of temporary files. -/
def maskedEvent (event : Event) : Event :=
  { event with
    fields := event.fields.map fun field => { field with value := maskedPath field.value } }

/-- An error without paths of temporary files. -/
def maskedError : Error → Error
  | .keyFileRead path fault => .keyFileRead (maskedPath path) fault
  | .credentialFile fault path => .credentialFile fault (path.map maskedPath)
  | error => error

/-- What a variable of the environment holds. -/
inductive VariableView where
  | unset
  /-- The path of a temporary file, with the contents of the file if it is there. -/
  | temporary (contents : Option Bytes)
  | value (value : Bytes)
deriving DecidableEq, Repr

/-- What a variable holds in a world. -/
def viewVariable (world : World) (name : String) : VariableView :=
  match world.environment.get? name with
  | none => .unset
  | some value =>
      match (Bytes.text? value).filter FileSystem.isTemporary with
      | some path => .temporary (world.files.read path).toOption
      | none => .value value

mutual

/-- The answer of a step that has not failed. -/
inductive Answer where
  | nothing
  /-- The session keeps no object of the name. -/
  | noSuchObject
  | variableView (view : VariableView)
  | text (text : Option String)
  | connection (connection : Connection)
  | resolver (resolver : Resolver)
  | credentials (credentials : Credentials)
  | parameters (parameters : DatasetParameters)
  | call (call : CallArguments)
  | headers (headers : Http.Headers)
  | response (response : Http.Response)
  /-- A guard has been acquired: the path that it exports, and what the variable holds now. -/
  | acquired (path : Option String) (view : VariableView)
  /-- A guard has been released: whether there is still a file at the path that it exported, and
  what the variable holds now. -/
  | released (exists? : Option Bool) (view : VariableView)
  /-- Steps were run: what the variable held before them, and their reports. -/
  | nested (view : VariableView) (reports : List Report)

/-- The report of a step. -/
inductive Report where
  | of (outcome : Except Error Answer) (requests : List Http.SeenRequest) (events : List Event)

end

/-- The outcome of a step. -/
def Report.outcome : Report → Except Error Answer
  | .of outcome _ _ => outcome

/-- The requests that the network saw during a step. -/
def Report.requests : Report → List Http.SeenRequest
  | .of _ requests _ => requests

/-- The events that were logged during a step. -/
def Report.events : Report → List Event
  | .of _ _ events => events

end CloudCredentials.Session
