import CloudCredentials.Json.Reader
import CloudCredentials.Text.Quoted

/-!
# Errors

Every failure ends the operation at hand and reaches the caller as an `Error`, which names its
cause. `Error.message` is the one place that words them.
-/

namespace CloudCredentials

/-- Why a file could not be read or made. -/
inductive FileFault where
  | notFound
  | alreadyThere
  | notDirectory
  | isDirectory
  | nameTooLong
  | notText
  | nulInPath
  | stated (text : String)
deriving DecidableEq, Repr

/-- The wording of a file fault. -/
def FileFault.message : FileFault → String
  | .notFound => "No such file or directory (os error 2)"
  | .alreadyThere => "File exists (os error 17)"
  | .notDirectory => "Not a directory (os error 20)"
  | .isDirectory => "Is a directory (os error 21)"
  | .nameTooLong => "File name too long (os error 36)"
  | .notText => "stream did not contain valid UTF-8"
  | .nulInPath => "file name contained an unexpected NUL byte"
  | .stated text => text

/-- Why a JSON document is no service account key. -/
inductive KeyFault where
  /-- The document is neither an object nor an array. -/
  | notRecord (found : Json.Value)
  /-- A field that has to hold a string holds something else. -/
  | notString (found : Json.Value)
  /-- A required field is absent. -/
  | missing (field : String)
  /-- An array ends before its last required field. -/
  | tooFew (count : Nat)
  /-- An array goes on after its last field. -/
  | tooMany (count : Nat)
  | stated (text : String)

/-- How a message names a JSON value that it did not expect. -/
def describeValue : Json.Value → String
  | .null => "null"
  | .boolean true => "boolean `true`"
  | .boolean false => "boolean `false`"
  | .number (.integer value) => "integer `" ++ String.ofList (Json.writeInteger value) ++ "`"
  | .number (.binary value) =>
      "floating point `" ++ String.ofList (Json.Number.binary value).write ++ "`"
  | .string text => "string " ++ Text.quoted text
  | .array _ => "sequence"
  | .object _ => "map"

/-- The wording of a key fault. -/
def KeyFault.message : KeyFault → String
  | .notRecord found =>
      "invalid type: " ++ describeValue found ++ ", expected struct RawServiceAccountKey"
  | .notString found => "invalid type: " ++ describeValue found ++ ", expected a string"
  | .missing field => "missing field `" ++ field ++ "`"
  | .tooFew count =>
      s!"invalid length {count}, expected struct RawServiceAccountKey with 7 elements"
  | .tooMany count => s!"invalid length {count}, expected fewer elements in array"
  | .stated text => text

/-- The particulars of an error: a text, or a text followed by why a JSON text could not be read. -/
inductive Detail where
  | stated (text : String)
  | unreadable (context : String) (fault : Json.Fault)
deriving DecidableEq, Repr

/-- The wording of the particulars. -/
def Detail.message : Detail → String
  | .stated text => text
  | .unreadable context fault => context ++ fault.message

/-- A failure of an operation of this library. -/
inductive Error where
  /-- The key file is in the legacy format. -/
  | unsupportedKeyFormat
  /-- The name of the key file tells no format. -/
  | unrecognizedExtension (path : String)
  /-- The key is no JSON text. -/
  | invalidKeyJson (detail : Detail)
  /-- The key is JSON and no service account key. -/
  | malformedServiceAccount (fault : KeyFault)
  /-- The key file could not be read. -/
  | keyFileRead (path : String) (fault : FileFault)
  /-- Neither the call nor the connection names a project. -/
  | missingProjectId
  /-- A call that may fall back to the default project has positional arguments. -/
  | positionalArgumentRejected
  /-- An argument has an unexpected form. -/
  | invalidArgument (detail : String)
  /-- There is no connection with this identifier. -/
  | connectionNotFound (identifier : String)
  /-- The connection is stored in a form that cannot be understood. -/
  | configuration (detail : Detail)
  /-- Nothing around the program offers credentials. -/
  | ambientUnavailable (detail : String)
  /-- Credentials of this kind cannot act for another identity. -/
  | impersonationUnsupported (kind : String)
  /-- A header would have a value that no header may have. -/
  | invalidHeader (detail : String)
  /-- The assertion could not be signed. -/
  | tokenSigning (detail : String)
  /-- The token endpoint refused. -/
  | tokenEndpoint (status : Nat) (body : String)
  /-- A request did not get a response. -/
  | http (detail : String)
  /-- A response or document could not be understood. -/
  | parse (detail : Detail)
  /-- The file for the key could not be made. -/
  | credentialFile (fault : FileFault) (path : Option String)
  /-- Logging could not be set up. -/
  | telemetry (detail : String)
  /-- A value with a NUL character was given to an environment variable. The environment cannot
  hold it, and the program stops instead of going on. -/
  | environmentRejected (name value : String)

/-- The error is one that callers are told about; the other stops the program. -/
def Error.isReported : Error → Bool
  | .environmentRejected _ _ => false
  | _ => true

/-- The wording of an error. -/
def Error.message : Error → String
  | .unsupportedKeyFormat => "Legacy P12 key files are not supported, use a JSON key file"
  | .unrecognizedExtension path => "Unrecognised extension for key file: " ++ path
  | .invalidKeyJson detail => "Invalid key JSON: " ++ detail.message
  | .malformedServiceAccount fault => "Malformed service account key: " ++ fault.message
  | .keyFileRead path fault => "Failed to read key file " ++ path ++ ": " ++ fault.message
  | .missingProjectId =>
      "The project id must be passed either as the project_id parameter or as the project extra " ++
        "of the connection. Both are not set"
  | .positionalArgumentRejected =>
      "Use keyword arguments when invoking an operation that falls back to the default project id"
  | .invalidArgument detail => "Invalid argument: " ++ detail
  | .connectionNotFound identifier => "Connection not found: " ++ identifier
  | .configuration detail => "Configuration error: " ++ detail.message
  | .ambientUnavailable detail => "Could not automatically determine credentials: " ++ detail
  | .impersonationUnsupported kind =>
      "Credentials of kind " ++ kind ++ " do not support subject impersonation"
  | .invalidHeader detail => "Invalid header: " ++ detail
  | .tokenSigning detail => "Failed to sign JWT assertion: " ++ detail
  | .tokenEndpoint status body => s!"Token endpoint returned status {status}: " ++ body
  | .http detail => "HTTP error: " ++ detail
  | .parse detail => "Parse error: " ++ detail.message
  | .credentialFile fault none => "Credential file error: " ++ fault.message
  | .credentialFile fault (some path) =>
      "Credential file error: " ++ fault.message ++ " at path " ++ Text.quoted path
  | .telemetry detail => "Telemetry initialization error: " ++ detail
  | .environmentRejected name value =>
      "failed to set environment variable `" ++ Text.quoted name ++ "` to `" ++
        Text.quoted value ++ "`: " ++ FileFault.nulInPath.message

end CloudCredentials
