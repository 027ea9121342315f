import CloudCredentials.Connection.Scope
import CloudCredentials.Error

/-!
# Connection settings

A connection has up to four settings: the path of a key file, a key written into the connection, a
scope list and a project. An empty text counts as no setting. `Connection.source` decides where
credentials come from, and a key file goes before an inline key.
-/

namespace CloudCredentials

/-- A setting of a connection. -/
inductive Setting where
  | keyPath
  | keyData
  | scope
  | project
deriving DecidableEq, Repr

namespace Setting

/-- All settings. -/
def all : List Setting := [.keyPath, .keyData, .scope, .project]

/-- The name of a setting in a stored connection. -/
def name : Setting → String
  | .keyPath => "key_path"
  | .keyData => "keyfile_dict"
  | .scope => "scope"
  | .project => "project"

/-- What a connection form puts in front of the names of its own fields. -/
def formMark : String := "extra__google_cloud_platform__"

/-- The name of a setting in a connection form. -/
def formName (setting : Setting) : String := formMark ++ setting.name

/-- The setting that a name stands for, with or without the mark of a form. -/
def ofName? (name : String) : Option Setting :=
  let bare :=
    match Text.after? formMark.toList name.toList with
    | some rest => String.ofList rest
    | none => name
  all.find? (·.name == bare)

end Setting

/-- The settings of a connection as they are stored. -/
structure Connection where
  storedKeyPath : Option String
  storedKeyData : Option String
  storedScope : Option String
  storedProject : Option String
deriving DecidableEq, Repr

/-- Where the credentials of a connection come from. -/
inductive CredentialSource where
  /-- What the surroundings of the program offer. -/
  | ambient
  /-- A key file. -/
  | keyFile (path : String)
  /-- A key written into the connection. -/
  | keyData (text : String)
deriving DecidableEq, Repr

/-- The text, unless it is empty. -/
def nonEmpty (text : Option String) : Option String :=
  text.filter (· ≠ "")

namespace Connection

/-- The connection without any setting. -/
def empty : Connection := ⟨none, none, none, none⟩

/-- The connection with these stored texts. -/
def ofStored (stored : Setting → Option String) : Connection :=
  ⟨stored .keyPath, stored .keyData, stored .scope, stored .project⟩

/-- A setting as it is stored. -/
def stored (connection : Connection) : Setting → Option String
  | .keyPath => connection.storedKeyPath
  | .keyData => connection.storedKeyData
  | .scope => connection.storedScope
  | .project => connection.storedProject

/-- A setting, if it is set. -/
def get (connection : Connection) (setting : Setting) : Option String :=
  nonEmpty (connection.stored setting)

/-- The path of the key file, if it is set. -/
def keyPath (connection : Connection) : Option String := connection.get .keyPath

/-- The inline key, if it is set. -/
def keyData (connection : Connection) : Option String := connection.get .keyData

/-- The scope list, if it is set. -/
def scope (connection : Connection) : Option String := connection.get .scope

/-- The project, if it is set. -/
def project (connection : Connection) : Option String := connection.get .project

/-- The setting of a name. Names of no setting have none. -/
def field (connection : Connection) (name : String) : Option String :=
  (Setting.ofName? name).bind connection.get

/-- The scopes that the connection asks for. -/
def scopes (connection : Connection) : List String :=
  Scope.parse connection.scope

/-- Where the credentials come from. The end of its name tells the format of a key file. -/
def source (connection : Connection) : Except Error CredentialSource :=
  match connection.keyPath with
  | some path =>
      if Text.endsWith path ".json" then .ok (.keyFile path)
      else if Text.endsWith path ".p12" then .error .unsupportedKeyFormat
      else .error (.unrecognizedExtension path)
  | none =>
      match connection.keyData with
      | some text => .ok (.keyData text)
      | none => .ok .ambient

end Connection

end CloudCredentials
