import CloudCredentials.Ambient
import CloudCredentials.Connection.Settings

/-!
# Handing a key to other programs

Programs that know nothing of connections find a key through an environment variable. A guard
points the variable at the key file of a connection, or at a temporary file with its inline key,
and gives the variable its former value back when it is released.
-/

namespace CloudCredentials

/-- What a guard has to undo: the value of the variable before it, the path that it exported, and
whether there is a temporary file at that path. -/
structure Guard where
  previous : Option Bytes
  exported : Option String
  isTemporary : Bool
deriving DecidableEq, Repr

/-- The variable that names the directory for temporary files. -/
def temporaryDirectoryVariable : String := "TMPDIR"

/-- The directory for temporary files. -/
def temporaryDirectory (environment : Environment) : String :=
  match environment.get? temporaryDirectoryVariable with
  | some directory => Bytes.lossyText directory
  | none => FileSystem.temporaryRoot

namespace Guard

/-- Make a temporary file with these contents, and tell its path. -/
def makeTemporary (contents : Bytes) : Action String := do
  let world ← get
  match world.files.makeTemporary (temporaryDirectory world.environment) contents with
  | .error (fault, path) => throw (.credentialFile fault (some path))
  | .ok (path, files) =>
      set { world with files }
      return path

/-- Point the variable at a path. -/
def exportPath (path : String) : Action Unit := do
  Action.report .debug .credentialFile ("exporting " ++ keyFileVariable) [.plain "path" path]
  if path.toList.any (·.toNat == 0) then throw (.environmentRejected keyFileVariable path)
  modify fun world =>
    { world with environment := world.environment.set keyFileVariable (Bytes.ofText path) }

/-- Export the key of a connection. A connection without a key exports nothing. -/
def acquire (connection : Connection) : Action Guard := do
  let previous ← Action.ask (·.environment.get? keyFileVariable)
  match connection.keyPath with
  | some path =>
      if Text.endsWith path ".p12" then throw .unsupportedKeyFormat
      exportPath path
      return ⟨previous, some path, false⟩
  | none =>
      match connection.keyData with
      | some text =>
          let path ← makeTemporary (Bytes.ofText text)
          exportPath path
          return ⟨previous, some path, true⟩
      | none => return ⟨previous, none, false⟩

/-- The world after the guard has been released. -/
def releaseIn (guard : Guard) (world : World) : World :=
  match guard.exported with
  | none => world
  | some path =>
      let environment := world.environment.put keyFileVariable guard.previous
      let files := if guard.isTemporary then world.files.removeFile path else world.files
      { world with environment, files }

/-- Release a guard. -/
def release (guard : Guard) : Action Unit :=
  modify guard.releaseIn

/-- A guard that exported something gives the variable its former value back. -/
theorem get?_releaseIn_self (guard : Guard) (world : World) (path : String)
    (h : guard.exported = some path) :
    (guard.releaseIn world).environment.get? keyFileVariable = guard.previous := by
  simp [releaseIn, h]

/-- A guard leaves the other variables alone. -/
theorem get?_releaseIn_of_ne (guard : Guard) (world : World) (name : String)
    (h : name ≠ keyFileVariable) :
    (guard.releaseIn world).environment.get? name = world.environment.get? name := by
  rw [releaseIn]
  split
  · rfl
  · exact Environment.get?_put_of_ne world.environment keyFileVariable name guard.previous h

end Guard

/-- Run an action while the key of a connection is exported. The key is taken back whether the
action succeeds or fails. -/
def withCredentialFile {α : Type} (connection : Connection) (action : Action α) : Action α := do
  let guard ← Guard.acquire connection
  try action finally guard.release

end CloudCredentials
