import CloudCredentials.ServiceAccount.Exchange

/-!
# Where a key comes from

A key is read from a text, from a text that has been through a connection form or from a file, or
it is put together from its two required members. The token endpoint can be replaced afterwards.
-/

namespace CloudCredentials

/-- Where a key comes from. -/
inductive KeySource where
  | text (text : String)
  | formText (text : String)
  | file (path : String)
  | members (clientEmail privateKey : String)
deriving DecidableEq, Repr

/-- A key to be made, and the token endpoint that replaces its own. -/
structure KeyRequest where
  source : KeySource
  tokenUri : Option String
deriving DecidableEq, Repr

/-- The key of a source. -/
def KeySource.key : KeySource → Action ServiceAccountKey
  | .text document => Action.ofExcept (ServiceAccountKey.ofJson document)
  | .formText document => Action.ofExcept (ServiceAccountKey.ofFormText document)
  | .file path => ServiceAccountKey.ofFile path
  | .members clientEmail privateKey => return ServiceAccountKey.new clientEmail privateKey

/-- The key that is asked for. -/
def KeyRequest.key (request : KeyRequest) : Action ServiceAccountKey := do
  let key ← request.source.key
  match request.tokenUri with
  | some tokenUri => return key.withTokenUri tokenUri
  | none => return key

end CloudCredentials
