import CloudCredentials.Error

/-!
# The default project

An operation on a project takes the project from its caller or, failing that, from the connection.
The parameters of the operation are a type of their own or keyword arguments, and both forms follow
the same rule, `chooseProject`.
-/

namespace CloudCredentials

/-- Parameters that have a place for the project of the operation. -/
class ProjectScoped (Parameters : Type) where
  /-- The project that the caller asks for. -/
  project : Parameters → Option String
  /-- The parameters with this project. -/
  withProject : Parameters → String → Parameters

/-- The name of the keyword argument for the project. -/
def projectKeyword : String := "project_id"

/-- The first non-empty text of what the caller asks for and what the connection offers. -/
def chooseProject (explicit default : Option String) : Except Error String :=
  match (explicit.filter (· ≠ "")).or (default.filter (· ≠ "")) with
  | some project => .ok project
  | none => .error .missingProjectId

/-- Run an operation with the chosen project. -/
def withChosenProject {m : Type → Type} [Monad m] [MonadExceptOf Error m] {Parameters α : Type}
    [ProjectScoped Parameters] (default : Option String) (parameters : Parameters)
    (operation : Parameters → m α) : m α := do
  let project ← liftExcept (chooseProject (ProjectScoped.project parameters) default)
  operation (ProjectScoped.withProject parameters project)
where
  /-- A result or failure as a computation. -/
  liftExcept {β : Type} : Except Error β → m β
    | .ok value => pure value
    | .error error => throw error

/-- Arguments of a call whose operation is not known in advance. -/
structure CallArguments where
  positional : List Json.Value
  keywords : Json.Members

namespace CallArguments

/-- The call without arguments. -/
def empty : CallArguments := ⟨[], []⟩

/-- One more positional argument. -/
def argument (call : CallArguments) (value : Json.Value) : CallArguments :=
  { call with positional := call.positional ++ [value] }

/-- A keyword argument, in the place of an earlier one of the same name. -/
def keyword (call : CallArguments) (name : String) (value : Json.Value) : CallArguments :=
  { call with keywords := Json.putMember name value call.keywords }

/-- The keyword argument of a name. -/
def get? (call : CallArguments) (name : String) : Option Json.Value :=
  Json.member? name call.keywords

/-- The project keyword, if it is a string. -/
def project (call : CallArguments) : Option String :=
  (call.get? projectKeyword).bind Json.Value.string?

/-- The project that the keywords ask for. Null asks for none. -/
def explicitProject (call : CallArguments) : Except Error (Option String) :=
  match call.get? projectKeyword with
  | none | some .null => .ok none
  | some (.string project) => .ok (some project)
  | some other =>
      .error (.invalidArgument (projectKeyword ++ " must be a string, got " ++ other.text))

/-- The arguments with which an operation on a project is run. Positional arguments are refused,
so that none of them is taken for a project. -/
def withProject (call : CallArguments) (default : Option String) : Except Error CallArguments :=
  if call.positional.isEmpty then do
    let project ← chooseProject (← call.explicitProject) default
    return call.keyword projectKeyword (.string project)
  else .error .positionalArgumentRejected

end CallArguments

/-- Run an operation on keyword arguments with the chosen project. -/
def withChosenProjectArguments {m : Type → Type} [Monad m] [MonadExceptOf Error m] {α : Type}
    (default : Option String) (call : CallArguments) (operation : CallArguments → m α) : m α :=
  match call.withProject default with
  | .ok call => operation call
  | .error error => throw error

end CloudCredentials
